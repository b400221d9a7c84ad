import Stencil.Document.Reader

/-!
# Scalars in YAML

Plain scalars, scalars in quotes and scalars in indented blocks. A scalar in the running text may go on in the next
line: one line break reads as a space, and each further one as a line break.
-/

namespace Stencil.Document.Yaml

def folded (breaks : Nat) : List Char := if breaks = 1 then [' '] else List.replicate (breaks - 1) '\n'

structure Scanned where
  text : Text
  inLine : Bool
  reader : Reader

/-! ## Plain scalars -/

def opensBracket (c : Char) : Bool := c == '[' || c == '\x7b'

def closesBracket (c : Char) : Bool := c == ']' || c == '\x7d'

def plainWord (inBrackets : Bool) : List Char → List Char × List Char
  | [] => ([], [])
  | c :: rest =>
    if isBlank c || c == '\n' || (c == ':' && endsWord rest)
        || (inBrackets && (c == ',' || (c == '?' && endsWord rest) || opensBracket c || closesBracket c)) then
      ([], c :: rest)
    else
      let (word, rest) := plainWord inBrackets rest
      (c :: word, rest)

structure Gap where
  blanks : List Char
  breaks : Nat
  rest : List Char
  column : Nat

def plainGap (least : Nat) (blanks : List Char) (breaks column : Nat) : List Char → Option Gap
  -- a tab must not indent a line
  | [] => some ⟨blanks, breaks, [], column⟩
  | c :: rest =>
    if c == '\n' then plainGap least [] (breaks + 1) 0 rest
    else if isBlank c then
      if breaks = 0 then plainGap least (blanks ++ [c]) 0 (column + 1) rest
      else if c == '\t' && column < least then none
      else plainGap least [] breaks (column + 1) rest
    else some ⟨blanks, breaks, c :: rest, column⟩

/-- The words of a plain scalar. Outside brackets its further lines begin at column `least` or behind it. -/
def plainWords (inBrackets : Bool) (least : Nat) : Nat → Reader → Option Scanned
  | 0, _ => none
  | fuel + 1, r => do
    let (word, rest) := plainWord inBrackets r.rest
    let gap ← plainGap least [] 0 (r.column + word.length) rest
    let behind : Reader := ⟨gap.rest, gap.column, decide (0 < gap.breaks), r.anchors⟩
    let ends := match gap.rest with
      | [] => true
      | c :: _ => c == '#' || (plainWord inBrackets gap.rest).1.isEmpty || behind.atMarker
          || (!inBrackets && 0 < gap.breaks && gap.column < least)
    if ends then some ⟨textOf word, gap.breaks = 0, behind⟩
    else
      let more ← plainWords inBrackets least fuel behind
      let joint := if gap.breaks = 0 then gap.blanks else folded gap.breaks
      some ⟨textOf (word ++ joint) ++ more.text, gap.breaks = 0 && more.inLine, more.reader⟩

def beginsPlain (inBrackets : Bool) : List Char → Bool
  | [] => false
  | c :: rest =>
    if c == '-' then !endsWord rest
    else if c == '?' || c == ':' then !inBrackets && !endsWord rest
    else
      !isBlank c && c != '\n' && !opensBracket c && !closesBracket c
        && !(c ∈ [',', '#', '&', '*', '!', '|', '>', '\'', '"', '%', '@', '\x60'])

/-! ## Scalars in quotes -/

inductive Piece where
  | char (c : Char)
  | blank (c : Char)
  | lineBreak
  /-- A line break behind a backslash, which joins two lines without a space. -/
  | joint

def piece (c : Char) : Piece := if c == '\n' then .lineBreak else if isBlank c then .blank c else .char c

def escapes : List (Char × Char) :=
  [('0', '\x00'), ('a', '\x07'), ('b', '\x08'), ('t', '\t'), ('\t', '\t'), ('n', '\n'), ('v', '\x0b'), ('f', '\x0c'),
    ('r', '\r'), ('e', '\x1b'), (' ', ' '), ('"', '"'), ('\'', '\''), ('\\', '\\'), ('N', '\u0085'), ('_', '\u00a0'),
    ('L', '\u2028'), ('P', '\u2029')]

def escapeWidth? (c : Char) : Option Nat := [('x', 2), ('u', 4), ('U', 8)].lookup c

def doubleQuoted? : Nat → List Char → Option (List Piece × List Char)
  | 0, _ => none
  | _, [] => none
  | _, '"' :: rest => some ([], rest)
  | fuel + 1, '\\' :: c :: rest => do
    let (p, rest) ←
      if c == '\n' then some (Piece.joint, rest)
      else
        match escapeWidth? c with
        | some width => (numbered? (rest.take width) width).map fun d => (Piece.char d, rest.drop width)
        | none => (escapes.lookup c).map fun d => (Piece.char d, rest)
    let (ps, rest) ← doubleQuoted? fuel rest
    some (p :: ps, rest)
  | fuel + 1, c :: rest => (doubleQuoted? fuel rest).map fun (ps, rest) => (piece c :: ps, rest)

def singleQuoted? : List Char → Option (List Piece × List Char)
  | [] => none
  | '\'' :: '\'' :: rest => (singleQuoted? rest).map fun (ps, rest) => (.char '\'' :: ps, rest)
  | '\'' :: rest => some ([], rest)
  | c :: rest => (singleQuoted? rest).map fun (ps, rest) => (piece c :: ps, rest)

inductive Pending where
  | blanks (cs : List Char)
  | breaks (n : Nat)
  | joined (n : Nat)

def Pending.chars : Pending → List Char
  | .blanks cs => cs
  | .breaks n => folded n
  | .joined n => List.replicate n '\n'

def runningText (pending : Pending) : List Piece → List Char
  -- blanks around a line break do not count
  | [] => pending.chars
  | .char c :: ps => pending.chars ++ c :: runningText (.blanks []) ps
  | .joint :: ps => pending.chars ++ runningText (.joined 0) ps
  | .blank c :: ps =>
    match pending with
    | .blanks cs => runningText (.blanks (cs ++ [c])) ps
    | pending => runningText pending ps
  | .lineBreak :: ps =>
    match pending with
    | .blanks _ => runningText (.breaks 1) ps
    | .breaks n => runningText (.breaks (n + 1)) ps
    | .joined n => runningText (.joined (n + 1)) ps

def hidesMarker : List Char → Bool
  | [] => false
  | c :: rest => (c == '\n' && isAnyMarker rest) || hidesMarker rest

def quoted? (r : Reader) (scanned : Option (List Piece × List Char)) : Option Scanned := do
  let (ps, rest) ← scanned
  let passed := r.rest.take (r.rest.length - rest.length)
  if hidesMarker passed then none
  else some ⟨textOf (runningText (.blanks []) ps), !passed.contains '\n', r.advance rest⟩

/-! ## Scalars in blocks -/

inductive Chomp where
  | strip
  | clip
  | keep

structure BlockHeader where
  folds : Bool
  chomp : Chomp := .clip
  /-- How much deeper than its surroundings the block is, if it says so. -/
  deeper : Option Nat := none

def chomp? (c : Char) : Option Chomp := [('+', Chomp.keep), ('-', Chomp.strip)].lookup c

def depth? (c : Char) : Option Nat := if '1' ≤ c ∧ c ≤ '9' then some (c.toNat - '0'.toNat) else none

def blockMarks (h : BlockHeader) : List Char → BlockHeader × List Char
  | [] => (h, [])
  | c :: rest =>
    let second (h : BlockHeader) (rest : List Char) : BlockHeader × List Char :=
      match rest with
      | d :: rest' =>
        match chomp? c, depth? d, depth? c, chomp? d with
        | some _, some n, _, _ => ({ h with deeper := some n }, rest')
        | _, _, some _, some chomp => ({ h with chomp }, rest')
        | _, _, _, _ => (h, rest)
      | [] => (h, [])
    match chomp? c, depth? c with
    | some chomp, _ => second { h with chomp } rest
    | none, some n => second { h with deeper := some n } rest
    | none, none => (h, c :: rest)

def headerEnd? (cs : List Char) : Option (List Char) :=
  match cs.dropWhile isBlank with
  | [] => some []
  | '#' :: rest => some ((rest.dropWhile (· != '\n')).drop 1)
  | '\n' :: rest => some rest
  | _ => none

structure BlankLines where
  breaks : Nat
  widest : Nat
  rest : List Char
  column : Nat

def blankLines (limit : Option Nat) (breaks widest column : Nat) : List Char → Option BlankLines
  | [] => some ⟨breaks, max widest column, [], column⟩
  | c :: rest =>
    if c == '\n' then blankLines limit (breaks + 1) (max widest column) 0 rest
    else if limit.any (· ≤ column) then some ⟨breaks, max widest column, c :: rest, column⟩
    else if c == ' ' then blankLines limit breaks widest (column + 1) rest
    else if c == '\t' then none
    else some ⟨breaks, max widest column, c :: rest, column⟩

/-- The lines of a block at its indentation. `before` tells how the line before them ended: whether there was one to
end, and whether it began with a blank. -/
def blockLines (folds : Bool) (indent : Nat) :
    Nat → Option Bool → BlankLines → Option (List Char × Bool × BlankLines)
  | 0, _, _ => none
  | fuel + 1, before, b =>
    match b.rest with
    | [] => some ([], before.isSome, b)
    | c :: _ =>
      if b.column ≠ indent then some ([], before.isSome, b)
      else do
        let line := b.rest.takeWhile (· != '\n')
        let rest := b.rest.dropWhile (· != '\n')
        let joint :=
          match before with
          | none => List.replicate b.breaks '\n'
          | some blank =>
            if folds && !blank && !isBlank c then folded (b.breaks + 1) else List.replicate (b.breaks + 1) '\n'
        let after ← blankLines (some indent) 0 0 0 (rest.drop 1)
        let (more, ended, b) ←
          if rest.isEmpty then some ([], false, ⟨0, 0, [], line.length⟩)
          else blockLines folds indent fuel (some (isBlank c)) after
        some (joint ++ line ++ more, ended, b)

/-- A block scalar, whose mark was passed already; `least` is the least column its surroundings leave to it. -/
def block? (folds : Bool) (least : Nat) (r : Reader) : Option Scanned := do
  let (header, rest) := blockMarks { folds } r.rest
  let rest ← headerEnd? rest
  let given := header.deeper.map fun n => least - 1 + n
  let leading ← blankLines given 0 0 0 rest
  let indent := given.getD (max (max leading.widest least) 1)
  let (body, ended, b) ← blockLines folds indent (rest.length + 1) none leading
  let tail : List Char :=
    match header.chomp with
    | .strip => []
    | .clip => if ended then ['\n'] else []
    | .keep => List.replicate (if ended then b.breaks + 1 else b.breaks) '\n'
  some ⟨textOf (body ++ tail), false, ⟨b.rest, b.column, true, r.anchors⟩⟩

end Stencil.Document.Yaml
