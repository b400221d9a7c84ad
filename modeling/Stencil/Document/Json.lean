import Stencil.Document.Value

/-!
# JSON documents
-/

namespace Stencil.Document.Json

open Scalar (Plain)

def isBlank (g : Glyph) : Bool := g.satisfies fun c => c == ' ' || c == '\t' || c == '\n' || c == '\r'

def skip (t : Text) : Text := t.dropWhile isBlank

/-! ## Strings -/

def hex? (t : Text) : Option Nat := Scalar.digits? 16 t

def shortEscape? (c : Char) : Option Char :=
  [('"', '"'), ('\\', '\\'), ('/', '/'), ('b', '\x08'), ('f', '\x0c'), ('n', '\n'), ('r', '\r'), ('t', '\t')].lookup c

def isHigh (n : Nat) : Bool := 0xd800 ≤ n && n ≤ 0xdbff

def isLow (n : Nat) : Bool := 0xdc00 ≤ n && n ≤ 0xdfff

def unit (n : Nat) : Char := if isHigh n || isLow n then '\ufffd' else Char.ofNat n

def string? : Nat → Text → Option (Text × Text)
  -- a stray byte reads as the replacement character
  | 0, _ => none
  | _, [] => none
  | _, .char '"' :: t => some ([], t)
  | fuel + 1, .char '\\' :: .char 'u' :: t => do
    let n ← hex? (t.take 4)
    if t.length < 4 then none
    else
      let t := t.drop 4
      let low? : Option Nat :=
        match t with
        | .char '\\' :: .char 'u' :: low => if isHigh n then (hex? (low.take 4)).filter isLow else none
        | _ => none
      match low? with
      | some low =>
        let (s, rest) ← string? fuel (t.drop 6)
        some (.char (Char.ofNat (0x10000 + (n - 0xd800) * 1024 + (low - 0xdc00))) :: s, rest)
      | none =>
        let (s, rest) ← string? fuel t
        some (.char (unit n) :: s, rest)
  | fuel + 1, .char '\\' :: .char c :: t => do
    let c ← shortEscape? c
    let (s, rest) ← string? fuel t
    some (.char c :: s, rest)
  | fuel + 1, .char c :: t =>
    if c.toNat < 0x20 ∨ c = '\\' then none
    else (string? fuel t).map fun (s, rest) => (.char c :: s, rest)
  | fuel + 1, .stray _ :: t => (string? fuel t).map fun (s, rest) => (.char '\ufffd' :: s, rest)

/-! ## Numbers -/

def isNumberChar (g : Glyph) : Bool := Scalar.isDigit g || g.satisfies fun c => c ∈ ['+', '-', '.', 'e', 'E']

def isNumber (t : Text) : Bool :=
  -- the whole part is zero or does not begin with zero, and a point has digits on both sides
  let t := match t with
    | .char '-' :: t => t
    | t => t
  let whole := t.takeWhile Scalar.isDigit
  let wholeFits := match whole with
    | [] => false
    | .char '0' :: rest => rest.isEmpty
    | _ => true
  let rest := t.dropWhile Scalar.isDigit
  let fractionFits := match rest with
    | .char '.' :: g :: _ => Scalar.isDigit g
    | .char '.' :: [] => false
    | _ => true
  wholeFits && fractionFits

def number? (t : Text) : Option Value :=
  if isNumber t then (Scalar.float? t).map fun x => .scalar (.float x) else none

/-! ## Values -/

def word? (t : Text) : Option Value :=
  (([("true", .bool true), ("false", .bool false), ("null", .null)] : List (Text × Plain)).lookup t).map .scalar

mutual

def value? : Nat → Text → Option (Value × Text)
  | 0, _ => none
  | fuel + 1, t =>
    match skip t with
    | .char '"' :: t => (string? (t.length + 1) t).map fun (s, rest) => (.ofText s, rest)
    | .char '[' :: t =>
      match skip t with
      | .char ']' :: rest => some (.list [], rest)
      | t => (items? fuel t).map fun (vs, rest) => (.list vs, rest)
    | .char '\x7b' :: t =>
      match skip t with
      | .char '\x7d' :: rest => some (.map [], rest)
      | t => (entries? fuel [] t).map fun (es, rest) => (.map es, rest)
    | t =>
      let letters := t.takeWhile fun g => g.satisfies Char.isAlpha
      if letters.isEmpty then
        (number? (t.takeWhile isNumberChar)).map fun v => (v, t.dropWhile isNumberChar)
      else (word? letters).map fun v => (v, t.drop letters.length)

def items? : Nat → Text → Option (List Value × Text)
  | 0, _ => none
  | fuel + 1, t => do
    let (v, t) ← value? fuel t
    match skip t with
    | .char ',' :: t =>
      let (vs, t) ← items? fuel t
      some (v :: vs, t)
    | .char ']' :: t => some ([v], t)
    | _ => none

def entries? : Nat → Entries → Text → Option (Entries × Text)
  | 0, _, _ => none
  | fuel + 1, before, t =>
    match skip t with
    | .char '"' :: t => do
      let (key, t) ← string? (t.length + 1) t
      match skip t with
      | .char ':' :: t =>
        let (v, t) ← value? fuel t
        let entries := Keyed.put Prod.fst (key, v) before
        match skip t with
        | .char ',' :: t => entries? fuel entries t
        | .char '\x7d' :: t => some (entries, t)
        | _ => none
      | _ => none
    | _ => none

end

def read (t : Text) : Option Entries := do
  let (v, rest) ← value? (2 * t.length + 2) t
  if !(skip rest).isEmpty then none
  else
    match v with
    | .map entries => some entries
    | .scalar .null => some []
    | _ => none

end Stencil.Document.Json
