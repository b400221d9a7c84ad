import Stencil.Unicode.Case

/-!
# Texts

A text is a list of glyphs. A glyph is a character, or a stray byte: one that takes part in no well-formed UTF-8
sequence. Every byte sequence is a text and no byte is lost on the way (`ofBytes`, `toBytes`), so that damaged input
passes through unchanged where nothing looks at the damaged place.
-/

namespace Stencil

inductive Glyph where
  | char (c : Char)
  | stray (b : UInt8)
deriving DecidableEq, Inhabited

abbrev Text := List Glyph

instance : Coe Char Glyph := ⟨.char⟩

instance : LawfulBEq Text := inferInstance

namespace Glyph

def toBytes : Glyph → List UInt8
  | .char c => String.utf8EncodeChar c
  | .stray b => [b]

def satisfies (p : Char → Bool) : Glyph → Bool
  | .char c => p c
  | .stray _ => false

def codePoint : Glyph → Nat
  -- a stray byte counts as the replacement character
  | .char c => c.toNat
  | .stray _ => 0xfffd

def isSpace : Glyph → Bool
  | .char c =>
    let n := c.toNat
    (0x09 ≤ n && n ≤ 0x0d) || n == 0x20 || n == 0x85 || n == 0xa0 || n == 0x1680 || (0x2000 ≤ n && n ≤ 0x200a)
      || n == 0x2028 || n == 0x2029 || n == 0x202f || n == 0x205f || n == 0x3000
  | .stray _ => false

end Glyph

namespace Text

def ofString (s : String) : Text := s.toList.map .char

instance : Coe String Text := ⟨ofString⟩

/-! ## Bytes -/

def toBytes (t : Text) : List UInt8 := t.flatMap Glyph.toBytes

def isTail (b : UInt8) : Bool := 0x80 ≤ b && b ≤ 0xbf

def tailBits (b : UInt8) : Nat := b.toNat - 0x80

/-- The character that a lead byte and the bytes after it spell, with the number of bytes after it that it takes. -/
def character? (a : UInt8) (rest : List UInt8) : Option (Char × Nat) :=
  if a < 0x80 then some (Char.ofNat a.toNat, 0)
  else
    match rest with
    | b :: rest =>
      if 0xc2 ≤ a && a ≤ 0xdf && isTail b then
        some (Char.ofNat ((a.toNat - 0xc0) * 64 + tailBits b), 1)
      else
        match rest with
        | c :: rest =>
          if 0xe0 ≤ a && a ≤ 0xef && isTail b && isTail c && (a != 0xe0 || 0xa0 ≤ b) && (a != 0xed || b ≤ 0x9f) then
            some (Char.ofNat (((a.toNat - 0xe0) * 64 + tailBits b) * 64 + tailBits c), 2)
          else
            match rest with
            | d :: _ =>
              if 0xf0 ≤ a && a ≤ 0xf4 && isTail b && isTail c && isTail d && (a != 0xf0 || 0x90 ≤ b)
                  && (a != 0xf4 || b ≤ 0x8f) then
                some (Char.ofNat ((((a.toNat - 0xf0) * 64 + tailBits b) * 64 + tailBits c) * 64 + tailBits d), 3)
              else none
            | [] => none
        | [] => none
    | [] => none

/-- Reads bytes as characters; a byte that begins no character is kept as a stray byte. -/
def ofBytes : List UInt8 → Text
  | [] => []
  | a :: rest =>
    match character? a rest with
    | some (c, n) => .char c :: ofBytes (rest.drop n)
    | none => .stray a :: ofBytes rest
termination_by bytes => bytes.length

def toString? (t : Text) : Option String :=
  let char? : Glyph → Option Char
    | .char c => some c
    | .stray _ => none
  (t.mapM char?).map String.ofList

def le (s t : Text) : Bool := decide (s.toBytes ≤ t.toBytes)

/-! ## Trimming, splitting and joining -/

def dropEndWhile (p : Glyph → Bool) (t : Text) : Text := (t.reverse.dropWhile p).reverse

def trim (t : Text) : Text := dropEndWhile Glyph.isSpace (t.dropWhile Glyph.isSpace)

def isBlank (t : Text) : Bool := t.all Glyph.isSpace

def splitBy (p : Glyph → Bool) : Text → List Text
  | [] => [[]]
  | g :: t =>
    if p g then [] :: splitBy p t
    else
      match splitBy p t with
      | [] => [[g]]
      | part :: parts => (g :: part) :: parts

def split (sep : Char) (t : Text) : List Text := splitBy (· == .char sep) t

def fields (p : Glyph → Bool) (t : Text) : List Text := (splitBy p t).filter (· ≠ [])

-- only U+0020 separates, so that a tab is part of a word
def words (t : Text) : List Text := fields (· == .char ' ') t

def when (b : Bool) (t : Text) : Text := if b then t else []

def orElse (t other : Text) : Text := if t = [] then other else t

def join (sep : Text) (parts : List Text) : Text := List.intercalate sep parts

def replaceBy (p : Glyph → Bool) (c : Char) (t : Text) : Text := t.map fun g => if p g then .char c else g

def cut? (sep : Char) : Text → Option (Text × Text)
  | [] => none
  | g :: t =>
    if g = .char sep then some ([], t)
    else (cut? sep t).map fun (before, after) => (g :: before, after)

def dropEnd? (ending t : Text) : Option Text :=
  if ending.isSuffixOf t then some (t.take (t.length - ending.length)) else none

/-- Every text that is left after some bytes of `t` are taken from its front, longest first. A character that is cut
through leaves its last bytes as stray bytes. -/
def byteTails : Text → List Text
  | [] => [[]]
  | .stray b :: t => (.stray b :: t) :: byteTails t
  | .char c :: t =>
    let inner := (String.utf8EncodeChar c).tail
    (.char c :: t) :: (List.range inner.length).map (fun k => (inner.drop k).map .stray ++ t) ++ byteTails t

/-! ## Case -/

def capitalize : Text → Text
  -- a stray byte, and the replacement character, are left as they are
  | .char c :: t => .char (Unicode.toUpper c) :: t
  | t => t

def lower (t : Text) : Text :=
  -- a stray byte becomes the replacement character
  t.map fun
    | .char c => .char (Unicode.toLower c)
    | .stray _ => .char '\ufffd'

/-! ## Numbers -/

def ofNat (n : Nat) : Text := (Nat.toDigits 10 n).map .char

end Text

end Stencil
