import Stencil.Keyed
import Stencil.TypeRef

/-!
# Type mappings

Before a type is written, rules may replace it by a text of the target language. The first rule that knows the type
decides; a type that no rule knows stays as it is.
-/

namespace Stencil

structure Replacement where
  source : Text
  target : Text
deriving DecidableEq, Inhabited

namespace Replacement

-- of two with the same source the later one counts
def table (rs : List Replacement) : List Replacement := rs.foldl (fun l r => Keyed.put source r l) []

def normalize (r : Replacement) : Replacement :=
  if TypeRef.isTag r.source then r else { r with source := (QName.ofText r.source).dotted }

end Replacement

inductive TypeRule where
  /-- Replaces built-in types. -/
  | tags (entries : List Replacement)
  /-- Replaces built-in types and structures. -/
  | names (entries : List Replacement)
deriving DecidableEq

namespace TypeRule

def label : TypeRule → Text
  | .tags _ => "tag"
  | .names _ => "mapping"

def ofReplacements (rs : List Replacement) : Option TypeRule :=
  -- without replacements there is no rule
  if rs.isEmpty then none else some (.names (Replacement.table (rs.map Replacement.normalize)))

def replacement? : TypeRule → TypeRef → Option Text
  | .tags entries, .builtin tag => (Keyed.get? Replacement.source tag entries).map Replacement.target
  | .tags _, .named _ => none
  | .names entries, t => (Keyed.get? Replacement.source t.text entries).map Replacement.target

def builtins : TypeRule :=
  .tags
    [⟨"string", "string"⟩, ⟨"int", "int"⟩, ⟨"float", "float32"⟩, ⟨"double", "float64"⟩, ⟨"bool", "bool"⟩,
      ⟨"mixed", "any"⟩, ⟨"void", ""⟩]

end TypeRule

inductive Resolved where
  | text (t : Text)
  | type (t : TypeRef)
deriving DecidableEq

def TypeRule.resolve (rules : List TypeRule) (t : TypeRef) : Resolved :=
  match rules.findSome? (·.replacement? t) with
  | some text => .text text
  | none => .type t

end Stencil
