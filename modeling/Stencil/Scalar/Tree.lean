import Stencil.Scalar.Written

/-!
# Trees of scalars

A document is a tree of texts, lists and records, written in block style: two spaces deeper for every level, and the
first entry of a record in a list on the line of its dash.
-/

namespace Stencil.Scalar

inductive Tree where
  | text (t : Text)
  | yes
  | list (items : List Tree)
  | record (entries : List (Text × Tree))

namespace Tree

/-- A scalar after its key or its dash, with the end of its line. A block that ends in a line break has it already. -/
def scalarLine (indent : Nat) (t : Text) : Text :=
  let written := write indent t
  if t.contains (.char '\n') && blockFits t && t.getLast?.any isBreak then written else written ++ "\n"

mutual

def value (indent : Nat) : Tree → Text
  | .text t => " " ++ scalarLine (indent + 2) t
  | .yes => " true\n"
  | .list items => "\n" ++ listItems (indent + 2) items
  | .record entries => "\n" ++ recordEntries (indent + 2) true entries

def listItems (indent : Nat) : List Tree → Text
  | [] => []
  | .record entries :: items =>
    padding indent ++ "- " ++ recordEntries (indent + 2) false entries ++ listItems indent items
  | item :: items => padding indent ++ "-" ++ value indent item ++ listItems indent items

def recordEntries (indent : Nat) (padFirst : Bool) : List (Text × Tree) → Text
  | [] => []
  | (key, item) :: entries =>
    (if padFirst then padding indent else []) ++ key ++ ":" ++ value indent item ++ recordEntries indent true entries

end

def document (entries : List (Text × Tree)) : Text := recordEntries 0 true entries

end Tree

end Stencil.Scalar
