import Stencil.Keyed
import Stencil.TypeRef

/-!
# Structures

A structure is a class or an interface with its methods. Every method of a structure has its own name; adding a method
under a name that is taken replaces the older one in its place.
-/

namespace Stencil

structure Param where
  type : TypeRef
  name : Text
  isArray : Bool
deriving DecidableEq, Inhabited

structure Method where
  name : Text
  returns : TypeRef
  params : List Param
deriving DecidableEq, Inhabited

def Method.references (m : Method) : List QName :=
  m.returns.references ++ m.params.flatMap fun p => p.type.references

inductive Kind where
  | klass
  | iface
deriving DecidableEq, Inhabited

def Kind.word : Kind → Text
  | .klass => "class"
  | .iface => "interface"

structure Structure where
  name : QName
  kind : Kind
  base : Option QName
  interfaces : List QName
  methods : List Method
deriving DecidableEq, Inhabited

inductive BuildError where
  | noMethod (on : QName)
  | noGetterArgument (on : QName)
  | noSetterArgument (on : QName)
deriving DecidableEq

def BuildError.message : BuildError → Text
  | .noMethod on => "add method to " ++ on.dotted ++ ": invalid argument: nil method"
  | .noGetterArgument on => "getter on " ++ on.dotted ++ ": invalid argument: nil argument"
  | .noSetterArgument on => "setter on " ++ on.dotted ++ ": invalid argument: nil argument"

def BuildError.ifMissing {α β : Type} (e : BuildError) (build : α → β) : Option α → Except BuildError β
  -- builders take what may be missing, and refuse it
  | some a => .ok (build a)
  | none => .error e

namespace Structure

/-- A structure without methods. An empty base is no base, and empty interface names are left out. -/
def make (kind : Kind) (name base : QName) (interfaces : List QName) : Structure where
  name
  kind
  base := if base.isEmpty then none else some base
  interfaces := interfaces.filter fun i => !i.isEmpty
  methods := []

def shortName (s : Structure) : Text := s.name.shortName

def isInterface (s : Structure) : Bool := s.kind = .iface

def package? (s : Structure) : Option QName := if s.name.parent.isEmpty then none else some s.name.parent

def supertypes (s : Structure) : List QName := s.base.toList ++ s.interfaces

def method? (s : Structure) (name : Text) : Option Method := Keyed.get? Method.name name s.methods

def addMethod (s : Structure) (m : Method) : Structure := { s with methods := Keyed.put Method.name m s.methods }

def references (s : Structure) : List QName := s.supertypes ++ s.methods.flatMap Method.references

def getterFor (p : Param) : Method := ⟨"get" ++ p.name.capitalize, p.type, []⟩

def setterFor (p : Param) : Method := ⟨"set" ++ p.name.capitalize, .void, [p]⟩

def add? (s : Structure) : Option Method → Except BuildError Structure :=
  BuildError.ifMissing (.noMethod s.name) s.addMethod

@[simp] theorem add?_some (s : Structure) (m : Method) : s.add? (some m) = .ok (s.addMethod m) := rfl

end Structure

end Stencil
