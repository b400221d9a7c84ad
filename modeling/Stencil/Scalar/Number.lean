import Stencil.Scalar.Decimal

/-!
# Written numbers

Whole numbers are written in base ten, or in another base after `0x`, `0o`, `0b` or a leading zero. Fractions are
written with a point, an exponent or both.
-/

namespace Stencil.Scalar

def digitValue? : Glyph → Option Nat
  | .char c =>
    if '0' ≤ c ∧ c ≤ '9' then some (c.toNat - '0'.toNat)
    else if 'a' ≤ c ∧ c ≤ 'z' then some (c.toNat - 'a'.toNat + 10)
    else if 'A' ≤ c ∧ c ≤ 'Z' then some (c.toNat - 'A'.toNat + 10)
    else none
  | .stray _ => none

def isDigit (g : Glyph) : Bool := g.satisfies Char.isDigit

def digits? (base : Nat) (t : Text) : Option Nat :=
  t.foldlM (fun n g => (digitValue? g).bind fun d => if d < base then some (n * base + d) else none) 0

def nonemptyDigits? (base : Nat) (t : Text) : Option Nat := if t.isEmpty then none else digits? base t

def splitSign : Text → Bool × Text
  | .char '-' :: t => (true, t)
  | .char '+' :: t => (false, t)
  | t => (false, t)

def signed (negative : Bool) (n : Nat) : Int := if negative then -Int.ofNat n else Int.ofNat n

def based? : Text → Option Nat
  | [] => none
  | .char '0' :: .char c :: g :: t =>
    if c = 'b' ∨ c = 'B' then digits? 2 (g :: t)
    else if c = 'o' ∨ c = 'O' then digits? 8 (g :: t)
    else if c = 'x' ∨ c = 'X' then digits? 16 (g :: t)
    else digits? 8 (.char c :: g :: t)
  | .char '0' :: t => digits? 8 t
  | t => digits? 10 t

def int64? (n : Int) : Option Int := if Int64.minValue.toInt ≤ n ∧ n ≤ Int64.maxValue.toInt then some n else none

def basedInt? (t : Text) : Option Int :=
  let (negative, t) := splitSign t
  (based? t).bind fun n => int64? (signed negative n)

def intIn? (base : Nat) (t : Text) : Option Int :=
  let (negative, t) := splitSign t
  (nonemptyDigits? base t).bind fun n => int64? (signed negative n)

def nat64? (n : Nat) : Option Int := if n < UInt64.size then some (Int.ofNat n) else none

def basedNat? (t : Text) : Option Int := (based? t).bind nat64?

def natIn? (base : Nat) (t : Text) : Option Int := (nonemptyDigits? base t).bind nat64?

def int? (t : Text) : Option Int :=
  (basedInt? t).or <| (basedNat? t).or <|
    match t with
    | .char '0' :: .char 'b' :: t => (intIn? 2 t).or (natIn? 2 t)
    | .char '-' :: .char '0' :: .char 'b' :: t => intIn? 2 (.char '-' :: t)
    | .char '0' :: .char 'o' :: t => (intIn? 8 t).or (natIn? 8 t)
    | .char '-' :: .char '0' :: .char 'o' :: t => intIn? 8 (.char '-' :: t)
    | _ => none

def exponent? : Text → Option Int
  | [] => some 0
  | .char e :: t =>
    if e = 'e' ∨ e = 'E' then
      let (negative, t) := splitSign t
      if t.all isDigit then (nonemptyDigits? 10 t).map fun n => signed negative (min n 100000) else none
    else none
  | .stray _ :: _ => none

/-- A decimal fraction: digits, perhaps a point and more digits, and perhaps an exponent. Digits stand before or after
the point. -/
def decimal? (t : Text) : Option Decimal :=
  let (negative, t) := splitSign t
  let whole := t.takeWhile isDigit
  let (fraction, rest) :=
    match t.dropWhile isDigit with
    | .char '.' :: t => (t.takeWhile isDigit, t.dropWhile isDigit)
    | t => ([], t)
  if whole.isEmpty && fraction.isEmpty then none
  else
    (exponent? rest).bind fun e =>
      (digits? 10 (whole ++ fraction)).map fun n => ⟨negative, n, e - Int.ofNat fraction.length⟩

def float? (t : Text) : Option Binary := (decimal? t).bind Decimal.toBinary?

def underscoresBetweenDigits : Bool → Text → Bool
  | _, [] => true
  | afterDigit, .char '_' :: t =>
    afterDigit &&
      match t with
      | g :: t => isDigit g && underscoresBetweenDigits true t
      | [] => false
  | _, g :: t => underscoresBetweenDigits (isDigit g) t

def withoutUnderscores (t : Text) : Text := t.filter (· != .char '_')

end Stencil.Scalar
