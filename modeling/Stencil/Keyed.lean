/-!
# Lists with keys, and registries

Lists in which every element has its own key, in the order in which the keys first came. A registry keeps the order of
its keys apart from what they lead to.
-/

namespace Stencil

variable {α κ : Type} [DecidableEq κ]

namespace Keyed

def put (key : α → κ) (a : α) : List α → List α
  | [] => [a]
  | b :: l => if key b = key a then a :: l else b :: put key a l

def get? (key : α → κ) (k : κ) (l : List α) : Option α := l.find? fun a => key a = k

/-- The elements whose keys are new, each where its key comes first. Keys that are taken already are not new. -/
def distinct (key : α → κ) (taken : List κ) : List α → List α
  | [] => []
  | a :: l => if key a ∈ taken then distinct key taken l else a :: distinct key (key a :: taken) l

end Keyed

/-! ## Registries -/

-- nothing in the type ties the order to the map; that is what `put` has to see to
structure Registry (κ α : Type) where
  order : List κ := []
  map : κ → Option α := fun _ => none

namespace Registry

/-- A key that leads somewhere already keeps its place in the order. -/
def put (r : Registry κ α) (k : κ) (a : α) : Registry κ α where
  order := if (r.map k).isSome then r.order else r.order ++ [k]
  map k' := if k' = k then some a else r.map k'

def size (r : Registry κ α) : Nat := r.order.length

def all (r : Registry κ α) : List α := r.order.filterMap r.map

end Registry

end Stencil
