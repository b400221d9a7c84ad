import Stencil.QName

/-!
# Types of values

A type is a built-in one, known by its tag, or a structure, known by its qualified name.
-/

namespace Stencil

inductive TypeRef where
  | builtin (tag : Text)
  | named (name : QName)
deriving DecidableEq, Inhabited

namespace TypeRef

def tags : List Text := ["string", "int", "float", "double", "bool", "mixed", "void"]

def isTag (t : Text) : Bool := t ∈ tags

def ofText (t : Text) : TypeRef := if isTag t then .builtin t else .named (.ofText t)

/-- A type with any tag. The empty tag marks a type that was never given. -/
def ofTag (tag : Text) : TypeRef := if tag = [] then .named .unset else .builtin tag

def void : TypeRef := .builtin "void"

def isBuiltin : TypeRef → Bool
  | .builtin _ => true
  | .named _ => false

def text : TypeRef → Text
  | .builtin tag => tag
  | .named name => name.dotted

def references : TypeRef → List QName
  | .builtin _ => []
  | .named name => [name]

end TypeRef

end Stencil
