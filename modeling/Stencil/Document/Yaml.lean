import Stencil.Document.Node
import Stencil.Scalar.Written

/-!
# YAML documents

The values of nodes. A plain scalar stands for what its word says unless a tag asks for something else, and the keys of
a map differ from each other.
-/

namespace Stencil.Document.Yaml

open Scalar (Plain)

/-! ## Scalars with a tag -/

def kindTag : Plain → Text
  | .null => "null"
  | .bool _ => "bool"
  | .int _ => "int"
  | .float _ => "float"
  | .infinity _ => "float"
  | .nan => "float"
  | .moment _ => "timestamp"
  | .text _ => "str"

def sextet? (g : Glyph) : Option Nat :=
  ((List.range 64).map fun n => (Scalar.base64Char n, n)).lookup g

def bytes64? : Text → Option (List UInt8)
  | [] => some []
  | [a, b, .char '=', .char '='] => do
    let n := (← sextet? a) * 64 + (← sextet? b)
    some [.ofNat (n / 16)]
  | [a, b, c, .char '='] => do
    let n := ((← sextet? a) * 64 + (← sextet? b)) * 64 + (← sextet? c)
    some [.ofNat (n / 1024), .ofNat (n / 4)]
  | a :: b :: c :: d :: rest => do
    let n := (((← sextet? a) * 64 + (← sextet? b)) * 64 + (← sextet? c)) * 64 + (← sextet? d)
    let bytes ← bytes64? rest
    some (.ofNat (n / 65536) :: .ofNat (n / 256) :: .ofNat n :: bytes)
  | _ => none

def commonTag? (tag : Text) : Option Text :=
  match tag with
  | .char '!' :: name => some name
  | _ =>
    let start : Text := "<tag:yaml.org,2002:"
    if start.isPrefixOf tag then Text.dropEnd? ">" (tag.drop start.length) else none

def tagged? (tag raw : Text) : Option Plain := do
  let name ← commonTag? tag
  if name = Text.ofString "str" then some (.text raw)
  else if name = Text.ofString "binary" then
    let bytes ← bytes64? (raw.filter fun g => !g.isSpace)
    some (.text (Text.ofBytes bytes))
  else
    let p := Plain.ofText raw
    if kindTag p = name then some p
    else
      match p with
      | .int _ => if name = Text.ofString "float" then some p else none
      | _ => none

def scalarValue? (tag : Option Text) (plain : Bool) (raw : Text) : Option Plain :=
  match tag with
  | some tag => tagged? tag raw
  | none => some (if plain then Plain.ofText raw else .text raw)

/-! ## Keys -/

def Node.key? : Node → Option Text
  | .scalar _ _ raw => some raw
  | _ => none

def Node.merges : Node → Bool
  | .scalar none true raw => raw = Text.ofString "<<"
  | _ => false

def Node.isNull : Node → Bool
  | .scalar none true raw => Plain.ofText raw = .null
  | _ => false

def merged? : Value → Option (List Entries)
  | .map entries => some [entries]
  | .list items => items.mapM fun
    | .map entries => some entries
    | _ => none
  | .scalar _ => none

def takeOver (entries other : Entries) : Entries :=
  entries ++ other.filter fun e => !(entries.map Prod.fst).contains e.1

/-! ## Values -/

mutual

def value? : Node → Option Value
  | .scalar tag plain raw => (scalarValue? tag plain raw).map .scalar
  | .list items => (values? items).map .list
  | .map entries =>
    match entries.mapM fun e => e.1.key? with
    | some keys => if keys.Nodup then (entries? entries).map fun (own, others) => .map (others.foldl takeOver own) else none
    | none => none

def values? : List Node → Option (List Value)
  | [] => some []
  | n :: ns => do
    let v ← value? n
    let vs ← values? ns
    some (v :: vs)

def entries? : List (Node × Node) → Option (Entries × List Entries)
  | [] => some ([], [])
  | (k, n) :: es => do
    let v ← value? n
    let (own, others) ← entries? es
    if k.merges then
      let more ← merged? v
      some (own, more ++ others)
    else if k.isNull then some (own, others)
    else some (((k.key?).getD [], v) :: own, others)

end

def read (t : Text) : Option Entries := do
  let node ← node? t
  match ← value? node with
  | .map entries => some entries
  | .scalar .null => some []
  | _ => none

end Stencil.Document.Yaml
