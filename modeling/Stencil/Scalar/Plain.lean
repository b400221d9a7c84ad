import Stencil.Scalar.Moment

/-!
# Plain scalars

What a word without quotes stands for in a document: nothing, a truth value, a number, a moment or a text.
-/

namespace Stencil.Scalar

inductive Plain where
  | null
  | bool (b : Bool)
  | int (n : Int)
  | float (x : Binary)
  | infinity (negative : Bool)
  | nan
  | moment (m : Moment)
  | text (t : Text)
deriving DecidableEq, Inhabited

namespace Plain

def words : List (Text × Plain) :=
  [("", .null), ("~", .null), ("null", .null), ("Null", .null), ("NULL", .null),
    ("true", .bool true), ("True", .bool true), ("TRUE", .bool true),
    ("false", .bool false), ("False", .bool false), ("FALSE", .bool false),
    (".nan", .nan), (".NaN", .nan), (".NAN", .nan),
    (".inf", .infinity false), (".Inf", .infinity false), (".INF", .infinity false),
    ("+.inf", .infinity false), ("+.Inf", .infinity false), ("+.INF", .infinity false),
    ("-.inf", .infinity true), ("-.Inf", .infinity true), ("-.INF", .infinity true)]

def numeric? (t : Text) : Option Plain :=
  -- a moment, else a number, in which underscores do not count
  let bare := withoutUnderscores t
  ((Moment.ofText? t).map .moment).or <| ((int? bare).map .int).or ((float? bare).map .float)

def pointed? (t : Text) : Option Plain :=
  if underscoresBetweenDigits false t then (float? (withoutUnderscores t)).map .float else none

def ofText (t : Text) : Plain :=
  match words.lookup t with
  | some p => p
  | none =>
    let number? : Option Plain :=
      match t with
      | .char '.' :: _ => pointed? t
      | g :: _ => if isDigit g || g == .char '+' || g == .char '-' then numeric? t else none
      | [] => none
    number?.getD (.text t)

def toText : Plain → Text
  -- numbers have as few digits as read back, and no exponent
  | .null => ""
  | .bool true => "true"
  | .bool false => "false"
  | .int (.ofNat n) => Text.ofNat n
  | .int (.negSucc n) => "-" ++ Text.ofNat (n + 1)
  | .float x => x.text
  | .infinity false => "+Inf"
  | .infinity true => "-Inf"
  | .nan => "NaN"
  | .moment m => m.text
  | .text t => t

end Plain

/-! ## Words that only some readers take for more than a text -/

def oldBools : List Text :=
  ["y", "Y", "yes", "Yes", "YES", "on", "On", "ON", "n", "N", "no", "No", "NO", "off", "Off", "OFF"]

def isSexagesimalPlace : Text → Bool
  | [a] => isDigit a
  | [a, b] => (isDigit a && a.codePoint < '6'.toNat) && isDigit b
  | _ => false

def isSexagesimal (t : Text) : Bool :=
  match (splitSign t).2.split ':' with
  | first :: place :: places =>
    let places := place :: places
    let last := places.getLastD []
    let (last, fraction) := (Text.cut? '.' last).getD (last, [])
    let digitsOrUnderscores (t : Text) : Bool := t.all fun g => isDigit g || g == .char '_'
    (match first with
      | g :: _ => isDigit g && digitsOrUnderscores first
      | [] => false)
      && (places.dropLast ++ [last]).all isSexagesimalPlace && digitsOrUnderscores fraction
  | _ => false

end Stencil.Scalar
