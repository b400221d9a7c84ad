import Stencil.Structure

/-!
# Catalogues

A catalogue holds structures by their dotted names, in the order in which the names first came.
-/

namespace Stencil

structure Catalogue where
  entries : List Structure
deriving DecidableEq, Inhabited

namespace Catalogue

def empty : Catalogue := ⟨[]⟩

def key (s : Structure) : Text := s.name.dotted

-- a structure of the same name is replaced where it stands
def put (c : Catalogue) (s : Structure) : Catalogue := ⟨Keyed.put key s c.entries⟩

def ofList (l : List Structure) : Catalogue := l.foldl put empty

def get? (c : Catalogue) (name : QName) : Option Structure := Keyed.get? key name.dotted c.entries

def has (c : Catalogue) (name : QName) : Bool := (c.get? name).isSome

def size (c : Catalogue) : Nat := c.entries.length

def names (c : Catalogue) : List Text := c.entries.map key

end Catalogue

/-- The structure's own methods and, where a catalogue is given, those of its base and of each of its interfaces that
the catalogue knows. Supertypes of supertypes are not looked up. -/
def Structure.methodsIn (s : Structure) : Option Catalogue → List Method
  | none => s.methods
  | some c => s.methods ++ (s.supertypes.filterMap c.get?).flatMap Structure.methods

/-! ## What is written, and where -/

inductive Node where
  | name (q : QName)
  | type (t : TypeRef)
  | structure (s : Structure)
  | method (m : Method)
  | param (p : Param)
  | text (t : Text)
deriving DecidableEq

/-- What is known where a part is written: the structure around it, the structures written in the same run, and the
catalogue in which supertypes are looked up when inherited methods are wanted. -/
structure Scope where
  enclosing : Option Structure := none
  selected : Option Catalogue := none
  inherited : Option Catalogue := none

namespace Scope

def selected? (scope : Scope) (q : QName) : Option Structure := scope.selected.bind (·.get? q)

-- outside a run every name counts
def isWritten (scope : Scope) (q : QName) : Bool := scope.selected.all (·.has q)

end Scope

end Stencil
