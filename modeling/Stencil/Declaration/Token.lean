import Stencil.Target.Go

/-!
# Tokens of declarations

Names, keywords, numbers and signs. A line break ends a statement, as a semicolon does, after a name, a number or a
closing bracket.
-/

namespace Stencil.Declaration

inductive Sign where
  | openParen
  | closeParen
  | openBracket
  | closeBracket
  | openBrace
  | closeBrace
  | comma
  | semicolon
  | dot
  | dots
  | star
  | arrow
  | other (c : Char)
deriving DecidableEq

inductive Keyword where
  | chan
  | func
  | iface
  | map
  | struct
  | other
deriving DecidableEq

inductive Token where
  | name (t : Text)
  | number (t : Text)
  | keyword (k : Keyword)
  | sign (s : Sign)
deriving DecidableEq

def Keyword.of (t : Text) : Keyword :=
  if t = Text.ofString "chan" then .chan
  else if t = Text.ofString "func" then .func
  else if t = Text.ofString "interface" then .iface
  else if t = Text.ofString "map" then .map
  else if t = Text.ofString "struct" then .struct
  else .other

def isNameStart (g : Glyph) : Bool := g.satisfies fun c => c == '_' || Unicode.isLetter c

def isNamePart (g : Glyph) : Bool := g.satisfies fun c => c == '_' || Unicode.isLetter c || Unicode.isDigit c

def isName (t : Text) : Bool := t.head?.any isNameStart && t.all isNamePart && !Go.isKeyword t

def Token.ofWord (t : Text) : Token := if Go.isKeyword t then .keyword (Keyword.of t) else .name t

def Sign.of? (c : Char) : Option Sign :=
  if c = '(' then some .openParen
  else if c = ')' then some .closeParen
  else if c = '[' then some .openBracket
  else if c = ']' then some .closeBracket
  else if c = '\x7b' then some .openBrace
  else if c = '\x7d' then some .closeBrace
  else if c = ',' then some .comma
  else if c = ';' then some .semicolon
  else if c = '.' then some .dot
  else if c = '*' then some .star
  else if c ∈ "&=+-/|~:!<>%^".toList then some (.other c)
  else none

def Token.endsStatement : Token → Bool
  | .name _ => true
  | .number _ => true
  | .keyword _ => false
  | .sign s => s = .closeParen || s = .closeBracket || s = .closeBrace

/-- The tokens of a text, none if a character begins no token. The fuel is at least the length of the text. -/
def tokensFrom? : Nat → Bool → Text → Option (List Token)
  | _, _, [] => some []
  | 0, _, _ => none
  | fuel + 1, open?, g :: t =>
    if g = .char ' ' ∨ g = .char '\t' ∨ g = .char '\r' then tokensFrom? fuel open? t
    else if g = .char '\n' then
      if open? then (tokensFrom? fuel false t).map (.sign .semicolon :: ·) else tokensFrom? fuel false t
    else
      let follow (token : Token) (rest : Text) : Option (List Token) :=
        (tokensFrom? fuel token.endsStatement rest).map (token :: ·)
      if isNameStart g then follow (.ofWord (g :: t.takeWhile isNamePart)) (t.dropWhile isNamePart)
      else if g.satisfies Char.isDigit then
        follow (.number (g :: t.takeWhile isNamePart)) (t.dropWhile isNamePart)
      else
        match g, t with
        | .char '.', .char '.' :: .char '.' :: t => follow (.sign .dots) t
        | .char '<', .char '-' :: t => follow (.sign .arrow) t
        | .char c, t => (Sign.of? c).bind fun s => follow (.sign s) t
        | .stray _, _ => none

def tokens? (t : Text) : Option (List Token) := tokensFrom? t.length false t

end Stencil.Declaration
