import Stencil.Scalar.Plain

/-!
# Writing texts as scalars

A text is written plain if it then reads back as itself, and is quoted or written as a block of lines otherwise.
-/

namespace Stencil.Scalar

/-! ## Base 64 -/

def base64Char (n : Nat) : Glyph :=
  .char <|
    if n < 26 then Char.ofNat ('A'.toNat + n)
    else if n < 52 then Char.ofNat ('a'.toNat + n - 26)
    else if n < 62 then Char.ofNat ('0'.toNat + n - 52)
    else if n = 62 then '+' else '/'

def base64 : List UInt8 → Text
  | a :: b :: c :: rest =>
    let n := (a.toNat * 256 + b.toNat) * 256 + c.toNat
    base64Char (n / 262144) :: base64Char (n / 4096 % 64) :: base64Char (n / 64 % 64) :: base64Char (n % 64)
      :: base64 rest
  | [a, b] =>
    let n := (a.toNat * 256 + b.toNat) * 4
    [base64Char (n / 4096), base64Char (n / 64 % 64), base64Char (n % 64), .char '=']
  | [a] =>
    let n := a.toNat * 16
    [base64Char (n / 64), base64Char (n % 64), .char '=', .char '=']
  | [] => []

def wrapped (width : Nat) : Nat → Text → Text
  | 0, _ => []
  | _ + 1, [] => []
  | fuel + 1, t => t.take width ++ "\n" ++ wrapped width fuel (t.drop width)

def binaryText (bytes : List UInt8) : Text :=
  -- lines of seventy characters, when there are at least so many
  let encoded := base64 bytes
  if encoded.length < 70 then encoded else wrapped 70 encoded.length encoded

/-! ## What a text contains -/

def isBlank (g : Glyph) : Bool := g == .char ' ' || g == .char '\t'

def isBreak (g : Glyph) : Bool :=
  g.satisfies fun c => c == '\n' || c == '\r' || c == '\u0085' || c == '\u2028' || c == '\u2029'

def isPlainChar (g : Glyph) : Bool :=
  g.satisfies fun c =>
    let n := c.toNat
    n == 0x0a || (0x20 ≤ n && n ≤ 0x7e) || (0xa0 ≤ n && n ≤ 0xfffd && n != 0xfeff)

def hasPair (p q : Glyph → Bool) : Text → Bool
  | a :: b :: t => (p a && q b) || hasPair p q (b :: t)
  | _ => false

def isSpaceGlyph (g : Glyph) : Bool := g == .char ' '

def isTab (g : Glyph) : Bool := g == .char '\t'

def startsIndicator (t : Text) : Bool :=
  match t with
  | [] => false
  | g :: rest =>
    let beforeBlank := match rest with
      | [] => true
      | h :: _ => isBlank h
    g.satisfies (fun c => "#,[]{}&*!|>'\"%@`".toList.contains c)
      || ((g == .char '?' || g == .char ':' || g == .char '-') && beforeBlank)
      || (Text.ofString "---").isPrefixOf t || (Text.ofString "...").isPrefixOf t

def hasIndicator (t : Text) : Bool :=
  hasPair (· == .char ':') isBlank t || t.getLast? == some (.char ':')
    || hasPair (fun g => isBlank g || isBreak g || g == .char '\x00') (· == .char '#') t

def hasSpecial (t : Text) : Bool := t.any fun g => !isPlainChar g && !isTab g

def plainFits (t : Text) : Bool :=
  !(startsIndicator t || hasIndicator t || t.any isBreak || t.any isTab || hasSpecial t
    || t.head?.any isSpaceGlyph || t.getLast?.any isSpaceGlyph)

def singleQuotesFit (t : Text) : Bool :=
  !(hasPair isBreak isSpaceGlyph t || hasPair isSpaceGlyph isBreak t || t.any isTab || hasSpecial t)

def blockFits (t : Text) : Bool :=
  !(t.getLast?.any isSpaceGlyph || hasPair isSpaceGlyph isBreak t || hasSpecial t)

/-! ## Styles -/

def upperHex : Nat → Nat → Text
  | 0, _ => []
  | width + 1, n => upperHex width (n / 16) ++ [.char (Nat.digitChar (n % 16)).toUpper]

def escapeDouble (g : Glyph) : Text :=
  if isPlainChar g && !isBreak g && g != .char '"' && g != .char '\\' then [g]
  else
    let n := g.codePoint
    if n = 0 then "\\0"
    else if n = 0x07 then "\\a"
    else if n = 0x08 then "\\b"
    else if n = 0x09 then "\\t"
    else if n = 0x0a then "\\n"
    else if n = 0x0b then "\\v"
    else if n = 0x0c then "\\f"
    else if n = 0x0d then "\\r"
    else if n = 0x1b then "\\e"
    else if n = 0x22 then "\\\""
    else if n = 0x5c then "\\\\"
    else if n = 0x85 then "\\N"
    else if n = 0xa0 then "\\_"
    else if n = 0x2028 then "\\L"
    else if n = 0x2029 then "\\P"
    else if n ≤ 0xff then "\\x" ++ upperHex 2 n
    else if n ≤ 0xffff then "\\u" ++ upperHex 4 n
    else "\\U" ++ upperHex 8 n

def doubleQuoted (t : Text) : Text := "\"" ++ t.flatMap escapeDouble ++ "\""

def padding (n : Nat) : Text := List.replicate n (.char ' ')

def indentAfterBreaks (indent : Nat) : Bool → Text → Text
  | _, [] => []
  | afterBreak, g :: t =>
    if isBreak g then g :: indentAfterBreaks indent true t
    else (if afterBreak then padding indent else []) ++ g :: indentAfterBreaks indent false t

def singleQuoted (indent : Nat) (t : Text) : Text :=
  "'" ++ (indentAfterBreaks indent false t).flatMap (fun g => if g = .char '\'' then "''" else [g]) ++ "'"

def chomping (t : Text) : Text :=
  match t.reverse with
  | [] => "-"
  | [g] => if isBreak g then "+" else "-"
  | g :: h :: _ => if isBreak g then if isBreak h then "+" else "" else "-"

def literal (indent : Nat) (t : Text) : Text :=
  let hint : Text := if t.head?.any (fun g => isSpaceGlyph g || isBreak g) then "2" else ""
  let body :=
    if t.head?.any isBreak then indentAfterBreaks indent true t else "\n" ++ indentAfterBreaks indent true t
  "|" ++ hint ++ chomping t ++ body

def readsAsText (t : Text) : Bool :=
  (match Plain.ofText t with
    | .text _ => true
    | _ => false)
    && !isSexagesimal t && !oldBools.contains t

def writeChars (indent : Nat) (mayBePlain : Bool) (t : Text) : Text :=
  if t.contains (.char '\n') then if blockFits t then literal indent t else doubleQuoted t
  else if mayBePlain then
    if plainFits t then t else if singleQuotesFit t then singleQuoted indent t else doubleQuoted t
  else doubleQuoted t

/-- A text as a scalar, at a place where lines that go on are indented by `indent`. Stray bytes make it binary. -/
def write (indent : Nat) (t : Text) : Text :=
  if t.any (fun | .stray _ => true | .char _ => false) then
    "!!binary " ++ writeChars indent true (binaryText t.toBytes)
  else writeChars indent (readsAsText t) t

end Stencil.Scalar
