import Stencil.Document.Value

/-!
# Reading YAML by lines and columns

A reader stands somewhere in the characters of a document and knows its column. What a character means depends on
whether a key may begin there, and on whether it stands inside brackets.
-/

namespace Stencil.Document.Yaml

inductive Node where
  | scalar (tag : Option Text) (plain : Bool) (raw : Text)
  | list (items : List Node)
  | map (entries : List (Node × Node))
deriving Inhabited

def Node.nothing : Node := .scalar none true []

structure Reader where
  rest : List Char
  column : Nat := 0
  /-- A key may begin at the start of a line and after a dash, and not after a colon. -/
  keyable : Bool := true
  /-- The nodes that were given a name, last first. -/
  anchors : List (Text × Node) := []

def isBlank (c : Char) : Bool := c == ' ' || c == '\t'

def endsWord : List Char → Bool
  | [] => true
  | c :: _ => isBlank c || c == '\n'

def isMarker (c : Char) : List Char → Bool
  | a :: b :: d :: rest => a == c && b == c && d == c && endsWord rest
  | _ => false

def isAnyMarker (cs : List Char) : Bool := isMarker '-' cs || isMarker '.' cs

namespace Reader

def next (r : Reader) : Reader := { r with rest := r.rest.tail, column := r.column + 1, keyable := false }

def advance (r : Reader) (rest : List Char) : Reader :=
  let passed := r.rest.take (r.rest.length - rest.length)
  let column :=
    if passed.contains '\n' then (passed.reverse.takeWhile (· != '\n')).length else r.column + passed.length
  { r with rest, column, keyable := false }

-- three dashes or three points end a document
def atMarker (r : Reader) : Bool := r.column == 0 && isAnyMarker r.rest

def atEnd (r : Reader) : Bool := r.rest.isEmpty || r.atMarker

def leaves (r : Reader) (column : Nat) : Bool := r.atEnd || r.column < column

def atDash (r : Reader) : Bool :=
  match r.rest with
  | '-' :: rest => endsWord rest
  | _ => false

def atColon (inBrackets : Bool) (r : Reader) : Bool :=
  -- inside brackets nothing has to follow the colon
  match r.rest with
  | ':' :: rest => inBrackets || endsWord rest
  | _ => false

/-- Behind blanks, comments and line ends. A tab does not count as a blank where it would indent a key. -/
def skipFrom (inBrackets : Bool) (anchors : List (Text × Node)) : Bool → Nat → Bool → List Char → Reader
  | _, column, keyable, [] => ⟨[], column, keyable, anchors⟩
  | inComment, column, keyable, c :: rest =>
    if c == '\n' then skipFrom inBrackets anchors false 0 (keyable || !inBrackets) rest
    else if inComment then skipFrom inBrackets anchors true (column + 1) keyable rest
    else if c == ' ' || (c == '\t' && (inBrackets || !keyable)) then
      skipFrom inBrackets anchors false (column + 1) keyable rest
    else if c == '#' then skipFrom inBrackets anchors true (column + 1) keyable rest
    else ⟨c :: rest, column, keyable, anchors⟩

def skip (inBrackets : Bool) (r : Reader) : Reader := skipFrom inBrackets r.anchors false r.column r.keyable r.rest

def skipBlanks (r : Reader) : Reader := r.advance (r.rest.dropWhile isBlank)

end Reader

end Stencil.Document.Yaml
