import Stencil.Scalar.Number

/-!
# Written dates and times

A moment is a day of the calendar, perhaps with a time of day. The year has four digits; the other numbers have one or
two.
-/

namespace Stencil.Scalar

structure Moment where
  year : Nat
  month : Nat
  day : Nat
  hour : Nat := 0
  minute : Nat := 0
  second : Nat := 0
  /-- The digits after the point of the seconds. -/
  fraction : Text := []
  /-- Minutes east of Greenwich. -/
  offset : Int := 0
deriving DecidableEq, Inhabited

namespace Moment

def isLeap (year : Nat) : Bool := year % 4 = 0 && (year % 100 != 0 || year % 400 = 0)

def daysIn (year month : Nat) : Nat :=
  if month = 2 then if isLeap year then 29 else 28
  else if month = 4 ∨ month = 6 ∨ month = 9 ∨ month = 11 then 30
  else 31

def short? : Text → Option (Nat × Text)
  | a :: b :: t =>
    if isDigit a then
      if isDigit b then (digits? 10 [a, b]).map (·, t) else (digits? 10 [a]).map (·, b :: t)
    else none
  | [a] => if isDigit a then (digits? 10 [a]).map (·, []) else none
  | [] => none

def expect? (c : Char) : Text → Option Text
  | g :: t => if g = .char c then some t else none
  | [] => none

def day? (t : Text) : Option (Moment × Text) := do
  let digits := t.takeWhile isDigit
  if digits.length ≠ 4 then none
  let year ← digits? 10 digits
  let t ← expect? '-' (t.dropWhile isDigit)
  let (month, t) ← short? t
  let t ← expect? '-' t
  let (day, t) ← short? t
  if 1 ≤ month ∧ month ≤ 12 ∧ 1 ≤ day ∧ day ≤ daysIn year month then some ({ year, month, day }, t) else none

def splitFraction (t : Text) : Text × Text :=
  match t with
  | p :: d :: rest =>
    if (p = .char '.' ∨ p = .char ',') ∧ isDigit d then
      ((d :: rest).takeWhile isDigit, (d :: rest).dropWhile isDigit)
    else ([], t)
  | _ => ([], t)

def time? (m : Moment) (t : Text) : Option (Moment × Text) := do
  let (hour, t) ← short? t
  let t ← expect? ':' t
  let (minute, t) ← short? t
  let t ← expect? ':' t
  let (second, t) ← short? t
  let (digits, t) := splitFraction t
  if hour < 24 ∧ minute < 60 ∧ second < 60 then some ({ m with hour, minute, second, fraction := digits }, t) else none

def zone? (m : Moment) : Text → Option Moment
  | [.char 'Z'] => some m
  | [.char sign, h₁, h₂, .char ':', m₁, m₂] =>
    if sign = '+' ∨ sign = '-' then do
      let hours ← digits? 10 [h₁, h₂]
      let minutes ← digits? 10 [m₁, m₂]
      if hours ≤ 24 ∧ minutes ≤ 60 then some { m with offset := signed (sign = '-') (hours * 60 + minutes) } else none
    else none
  | _ => none

def ofText? (t : Text) : Option Moment := do
  let (m, rest) ← day? t
  match rest with
  | [] => some m
  | .char c :: rest =>
    if c = 'T' ∨ c = 't' then
      let (m, rest) ← time? m rest
      zone? m rest
    else if c = ' ' then
      let (m, rest) ← time? m (rest.dropWhile (· == .char ' '))
      if rest.isEmpty then some m else none
    else none
  | .stray _ :: _ => none

/-! ## Writing -/

def padded (width n : Nat) : Text :=
  let digits := Text.ofNat n
  List.replicate (width - digits.length) (.char '0') ++ digits

def fractionText (m : Moment) : Text :=
  match Text.dropEndWhile (· == .char '0') (m.fraction.take 9) with
  | [] => []
  | digits => "." ++ digits

def offsetText (m : Moment) : Text :=
  let minutes := m.offset.natAbs
  let sign : Text := if m.offset < 0 then "-" else "+"
  sign ++ padded 2 (minutes / 60) ++ padded 2 (minutes % 60)

def text (m : Moment) : Text :=
  let zone : Text := if m.offset = 0 then "UTC" else m.offsetText
  padded 4 m.year ++ "-" ++ padded 2 m.month ++ "-" ++ padded 2 m.day ++ " " ++ padded 2 m.hour ++ ":"
    ++ padded 2 m.minute ++ ":" ++ padded 2 m.second ++ m.fractionText ++ " " ++ m.offsetText ++ " "
    ++ zone

end Moment

end Stencil.Scalar
