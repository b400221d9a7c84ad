import Stencil.Text.Basic

/-!
# Decimal and binary fractions

A written number is a decimal fraction; it is kept as the nearest binary fraction with 53 significant bits. It is
written again with the fewest digits that read back as the same binary fraction.
-/

namespace Stencil.Scalar

structure Decimal where
  negative : Bool
  digits : Nat
  exponent : Int
deriving DecidableEq, Inhabited

structure Binary where
  negative : Bool
  mantissa : Nat
  exponent : Int
deriving DecidableEq, Inhabited

def roundDiv (num den : Nat) : Nat :=
  -- a half goes to the even neighbour
  let q := num / den
  let twice := 2 * (num % den)
  if twice < den then q
  else if den < twice then q + 1
  else if q % 2 = 0 then q else q + 1

def scaled (base num den : Nat) (e : Int) : Nat × Nat :=
  match e with
  | .ofNat k => (num * base.pow k, den)
  | .negSucc k => (num, den * base.pow (k + 1))

namespace Decimal

def digitCount (d : Decimal) : Nat := (Nat.toDigits 10 d.digits).length

def nearest? (negative : Bool) (num den : Nat) : Option Binary :=
  let size : Int := Int.ofNat num.log2 - Int.ofNat den.log2
  -- the quotient lies between 2 ^ (size - 1) and 2 ^ (size + 1)
  let fits (q : Int) : Bool := let (n, d) := scaled 2 num den (-q); n < d * Nat.pow 2 53
  let q := if fits (size - 53) then size - 53 else size - 52
  let q := max q (-1074)
  let (n, d) := scaled 2 num den (-q)
  let m := roundDiv n d
  let (m, q) := if m = Nat.pow 2 53 then (Nat.pow 2 52, q + 1) else (m, q)
  if 971 < q then none else some ⟨negative, m, q⟩

/-- The nearest binary fraction, none if the number is too large. Numbers far below the smallest positive one are zero. -/
def toBinary? (d : Decimal) : Option Binary :=
  let order := d.exponent + d.digitCount
  if d.digits = 0 ∨ order < -330 then some ⟨d.negative, 0, -1074⟩
  else if 310 < order then none
  else
    let (num, den) := scaled 10 d.digits 1 d.exponent
    nearest? d.negative num den

def positional (d : Decimal) : Text :=
  let sign : Text := if d.negative then "-" else ""
  let digits : Text := Text.ofNat d.digits
  match d.exponent with
  | .ofNat k => sign ++ digits ++ (if d.digits = 0 then [] else List.replicate k (.char '0'))
  | .negSucc k =>
    let digits := List.replicate (k + 2 - digits.length) (.char '0') ++ digits
    sign ++ digits.take (digits.length - (k + 1)) ++ "." ++ digits.drop (digits.length - (k + 1))

def strip : Nat → Decimal → Decimal
  | 0, d => d
  | fuel + 1, d =>
    if d.digits ≠ 0 ∧ d.digits % 10 = 0 then strip fuel { d with digits := d.digits / 10, exponent := d.exponent + 1 }
    else d

end Decimal

namespace Binary

def isZero (x : Binary) : Bool := x.mantissa = 0

def leadingPower (num den : Nat) : Int :=
  if den ≤ num then Int.ofNat ((Nat.toDigits 10 (num / den)).length - 1)
  else
    match (List.range 400).find? fun k => den ≤ num * Nat.pow 10 k with
    | some k => -Int.ofNat k
    | none => -400

/-- The decimal with `n` digits that is nearest to the number, if one of them reads back as it. -/
def withDigits? (x : Binary) (n : Nat) : Option Decimal :=
  let (num, den) := scaled 2 x.mantissa 1 x.exponent
  let exponent := leadingPower num den - Int.ofNat (n - 1)
  let (p, q) := scaled 10 num den (-exponent)
  let below := p / q
  let reads (digits : Nat) : Bool := (Decimal.mk x.negative digits exponent).toBinary? = some x
  let up := q < 2 * (p % q) || (q = 2 * (p % q) && below % 2 = 1)
  let (first, second) := if up then (below + 1, below) else (below, below + 1)
  if reads first then some ⟨x.negative, first, exponent⟩
  else if reads second then some ⟨x.negative, second, exponent⟩
  else none

def shortest (x : Binary) : Decimal :=
  if x.mantissa = 0 then ⟨x.negative, 0, 0⟩
  else (((List.range 17).findSome? fun n => x.withDigits? (n + 1)).getD ⟨x.negative, 0, 0⟩).strip 20

def text (x : Binary) : Text := x.shortest.positional

end Binary

end Stencil.Scalar
