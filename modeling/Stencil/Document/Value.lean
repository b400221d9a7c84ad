import Stencil.Keyed
import Stencil.Scalar.Plain

/-!
# Document values

A document is a tree of scalars, lists and maps. Whoever asks for a text, a truth value or a list of texts gets the
nearest one; nothing is ever refused here.
-/

namespace Stencil.Document

open Scalar (Plain)

def textOf (cs : List Char) : Text := cs.map .char

def numbered? (digits : List Char) (width : Nat) : Option Char := do
  let n ← Scalar.digits? 16 (textOf digits)
  if digits.length = width ∧ n.isValidChar then some (Char.ofNat n) else none

def truths : List (Text × Bool) :=
  [("1", true), ("t", true), ("T", true), ("TRUE", true), ("true", true), ("True", true),
    ("0", false), ("f", false), ("F", false), ("FALSE", false), ("false", false), ("False", false)]

def truth? (t : Text) : Option Bool := truths.lookup t

inductive Value where
  | scalar (p : Plain)
  | list (items : List Value)
  | map (entries : List (Text × Value))
deriving Inhabited

namespace Value

def ofText (t : Text) : Value := .scalar (.text t)

def isNull : Value → Bool
  | .scalar .null => true
  | _ => false

def scalar? : Value → Option Plain
  | .scalar p => some p
  | _ => none

-- lists and maps have no text
def text (v : Value) : Text := (v.scalar?.map Plain.toText).getD []

def truth : Value → Bool
  -- a number is true unless it is zero, and a text if it says so
  | .scalar (.bool b) => b
  | .scalar (.int n) => n ≠ 0
  | .scalar (.float x) => !x.isZero
  | .scalar (.infinity _) => true
  | .scalar .nan => true
  | .scalar (.text t) => (truth? t).getD false
  | _ => false

def texts : Value → List Text
  -- a list counts only if all its items are scalars
  | .scalar .null => []
  | .scalar (.text t) => Text.fields Glyph.isSpace t
  | .scalar p => [p.toText]
  | .list items => ((items.mapM scalar?).map fun ps => ps.map Plain.toText).getD []
  | .map _ => []

end Value

abbrev Entries := List (Text × Value)

namespace Entries

/-- The value under a key, written in lower case; keys of the document may use any case. Null is no value. -/
def get? (entries : Entries) (key : Text) : Option Value :=
  let found := (entries.filter fun e => Text.lower e.1 = key).getLast?
  (found.map Prod.snd).filter fun v => !v.isNull

end Entries

end Stencil.Document
