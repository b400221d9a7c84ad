import Stencil.Text.Basic
import Stencil.Unicode.Printable

/-!
# Quoted texts

A quoted text stands between double quotes in messages. Printable characters are shown as they are; all others, and
stray bytes, are shown by an escape.
-/

namespace Stencil.Text

def hex : Nat → Nat → Text
  | 0, _ => []
  | width + 1, n => hex width (n / 16) ++ [.char (Nat.digitChar (n % 16))]

def escape : Glyph → Text
  | .stray b => "\\x" ++ hex 2 b.toNat
  | .char c =>
    if c = '"' then "\\\""
    else if c = '\\' then "\\\\"
    else if Unicode.isPrintable c then [.char c]
    else if c = '\x07' then "\\a"
    else if c = '\x08' then "\\b"
    else if c = '\x0c' then "\\f"
    else if c = '\n' then "\\n"
    else if c = '\r' then "\\r"
    else if c = '\t' then "\\t"
    else if c = '\x0b' then "\\v"
    else if c.toNat < 0x80 then "\\x" ++ hex 2 c.toNat
    else if c.toNat < 0x10000 then "\\u" ++ hex 4 c.toNat
    else "\\U" ++ hex 8 c.toNat

def quote (t : Text) : Text := "\"" ++ t.flatMap escape ++ "\""

def quoteChar (c : Char) : Text :=
  let inside : Text := if c = '\'' then "\\'" else if c = '"' then "\"" else escape (.char c)
  "'" ++ inside ++ "'"

end Stencil.Text
