import Stencil.Document.Value

/-!
# TOML documents

A document is a list of statements: a key with its value, a table whose keys follow, or the next table of a list of
tables. Keys may have several parts, which lead through tables.
-/

namespace Stencil.Document.Toml

open Scalar (Plain)

def isBlank (c : Char) : Bool := c == ' ' || c == '\t'

def skipBlanks (cs : List Char) : List Char := cs.dropWhile isBlank

def skipComment : List Char → List Char
  | '#' :: cs => cs.dropWhile (· != '\n')
  | cs => cs

def skipLines : Bool → List Char → List Char
  | _, [] => []
  | inComment, c :: cs =>
    if c == '\n' then skipLines false cs
    else if inComment || isBlank c then skipLines inComment cs
    else if c == '#' then skipLines true cs
    else c :: cs

/-! ## Strings -/

def escapes : List (Char × Char) :=
  [('b', '\x08'), ('t', '\t'), ('n', '\n'), ('f', '\x0c'), ('r', '\r'), ('e', '\x1b'), ('"', '"'), ('\\', '\\')]

def isControl (c : Char) : Bool := (c.toNat < 0x20 && c != '\t') || c.toNat == 0x7f

def basic? (lines : Bool) : Nat → List Char → Option (List Char × List Char)
  | 0, _ => none
  | _, [] => none
  | fuel + 1, '"' :: cs =>
    if !lines then some ([], cs)
    else
      match cs with
      | '"' :: '"' :: rest =>
        -- further quotes before the closing ones belong to the string
        match rest with
        | '"' :: _ => (basic? lines fuel cs).map fun (s, rest) => ('"' :: s, rest)
        | _ => some ([], rest)
      | _ => (basic? lines fuel cs).map fun (s, rest) => ('"' :: s, rest)
  | fuel + 1, '\\' :: c :: cs =>
    match [('u', 4), ('U', 8), ('x', 2)].lookup c with
    | some width => do
      let d ← numbered? (cs.take width) width
      let (s, rest) ← basic? lines fuel (cs.drop width)
      some (d :: s, rest)
    | none =>
      if lines && (c == '\n' || (isBlank c && (skipBlanks cs).head? == some '\n')) then
        basic? lines fuel (cs.dropWhile fun c => isBlank c || c == '\n')
      else do
        let d ← escapes.lookup c
        let (s, rest) ← basic? lines fuel cs
        some (d :: s, rest)
  | fuel + 1, c :: cs =>
    if (isControl c && !(lines && c == '\n')) || c == '\\' then none
    else (basic? lines fuel cs).map fun (s, rest) => (c :: s, rest)

def literal? (lines : Bool) : List Char → Option (List Char × List Char)
  | [] => none
  | c :: cs =>
    let more := (literal? lines cs).map fun (s, rest) => (c :: s, rest)
    if c == '\'' then
      if !lines then some ([], cs)
      else
        match cs with
        | '\'' :: '\'' :: '\'' :: _ => more
        | '\'' :: '\'' :: rest => some ([], rest)
        | _ => more
    else if isControl c && !(lines && c == '\n') then none
    else more

def dropFirstBreak : List Char → List Char
  | '\n' :: cs => cs
  | cs => cs

def string? : List Char → Option (Text × List Char)
  | '"' :: '"' :: '"' :: cs => (basic? true (cs.length + 1) (dropFirstBreak cs)).map fun (s, rest) => (textOf s, rest)
  | '"' :: cs => (basic? false (cs.length + 1) cs).map fun (s, rest) => (textOf s, rest)
  | '\'' :: '\'' :: '\'' :: cs => (literal? true (dropFirstBreak cs)).map fun (s, rest) => (textOf s, rest)
  | '\'' :: cs => (literal? false cs).map fun (s, rest) => (textOf s, rest)
  | _ => none

/-! ## Keys -/

def isBareChar (c : Char) : Bool := c.isAlphanum || c == '_' || c == '-'

def keyPart? (cs : List Char) : Option (Text × List Char) :=
  match cs with
  | '"' :: cs => (basic? false (cs.length + 1) cs).map fun (s, rest) => (textOf s, rest)
  | '\'' :: cs => (literal? false cs).map fun (s, rest) => (textOf s, rest)
  | cs =>
    let bare := cs.takeWhile isBareChar
    if bare.isEmpty then none else some (textOf bare, cs.dropWhile isBareChar)

def key? : Nat → List Char → Option (List Text × List Char)
  | 0, _ => none
  | fuel + 1, cs => do
    let (part, cs) ← keyPart? (skipBlanks cs)
    match skipBlanks cs with
    | '.' :: cs =>
      let (parts, cs) ← key? fuel cs
      some (part :: parts, cs)
    | cs => some ([part], cs)

/-! ## Words -/

def int? (t : Text) : Option Int :=
  -- no zero leads a whole number, and in a named base it has no sign
  let (negative, digits) := Scalar.splitSign t
  let fitted (n : Nat) : Option Int := Scalar.int64? (Scalar.signed negative n)
  match digits with
  | .char '0' :: .char c :: rest =>
    if t ≠ digits then none
    else if c = 'x' then (Scalar.nonemptyDigits? 16 rest).bind fitted
    else if c = 'o' then (Scalar.nonemptyDigits? 8 rest).bind fitted
    else if c = 'b' then (Scalar.nonemptyDigits? 2 rest).bind fitted
    else none
  | digits => (Scalar.nonemptyDigits? 10 digits).bind fitted

def isFraction (t : Text) : Bool :=
  -- digits stand on both sides of the point, and no zero leads them
  let (_, t) := Scalar.splitSign t
  let whole := t.takeWhile Scalar.isDigit
  let wholeFits := match whole with
    | [] => false
    | .char '0' :: rest => rest.isEmpty
    | _ => true
  wholeFits && match t.dropWhile Scalar.isDigit with
    | .char '.' :: g :: _ => Scalar.isDigit g
    | .char '.' :: [] => false
    | _ => true

def named : List (Text × Plain) :=
  [("true", .bool true), ("false", .bool false), ("inf", .infinity false), ("+inf", .infinity false),
    ("-inf", .infinity true), ("nan", .nan), ("+nan", .nan), ("-nan", .nan)]

def isLocal (t : Text) : Bool :=
  (Scalar.Moment.ofText? (t ++ "T00:00:00Z")).isSome || (Scalar.Moment.ofText? (t ++ "Z")).isSome
    || (Scalar.Moment.ofText? ("2000-01-01T" ++ t ++ "Z")).isSome

def word? (t : Text) : Option Plain :=
  let digits := if Scalar.underscoresBetweenDigits false t then Scalar.withoutUnderscores t else t
  let number := ((int? digits).map .int).or ((if isFraction digits then Scalar.float? digits else none).map .float)
  let moment := if 10 < t.length then (Scalar.Moment.ofText? t).map .moment else none
  let place := if isLocal t then some (.text t) else none
  (((named.lookup t).or number).or moment).or place

def isWordChar (c : Char) : Bool := c.isAlphanum || c ∈ ['+', '-', '_', '.', ':']

/-! ## Values -/

/-- The entries with a value put at the end of a path. The path leads through maps, and through the last item of a
list of maps. -/
def insert? (v : Value) : List Text → Entries → Option Entries
  | [], _ => none
  | [k], es => if (es.map Prod.fst).contains k then none else some (es ++ [(k, v)])
  | k :: ks, es =>
    match es.lookup k with
    | none => (insert? v ks []).map fun inner => es ++ [(k, .map inner)]
    | some (.map inner) => (insert? v ks inner).map fun inner => Keyed.put Prod.fst (k, .map inner) es
    | some (.list items) =>
      match items.getLast? with
      | some (.map inner) =>
        (insert? v ks inner).map fun inner => Keyed.put Prod.fst (k, .list (items.dropLast ++ [.map inner])) es
      | _ => none
    | some (.scalar _) => none

mutual

def value? : Nat → List Char → Option (Value × List Char)
  | 0, _ => none
  | fuel + 1, cs =>
    match skipBlanks cs with
    | '[' :: cs => (items? fuel cs).map fun (items, cs) => (.list items, cs)
    | '\x7b' :: cs =>
      match skipBlanks cs with
      | '\x7d' :: cs => some (.map [], cs)
      | cs => (inline? fuel [] cs).map fun (es, cs) => (.map es, cs)
    | cs =>
      if cs.head? == some '"' || cs.head? == some '\'' then (string? cs).map fun (t, cs) => (.ofText t, cs)
      else do
        let word := cs.takeWhile isWordChar
        let p ← word? (textOf word)
        some (.scalar p, cs.drop word.length)

def items? : Nat → List Char → Option (List Value × List Char)
  -- a comma may follow the last item
  | 0, _ => none
  | fuel + 1, cs =>
    match skipLines false cs with
    | ']' :: cs => some ([], cs)
    | cs => do
      let (v, cs) ← value? fuel cs
      match skipLines false cs with
      | ']' :: cs => some ([v], cs)
      | ',' :: cs =>
        let (vs, cs) ← items? fuel cs
        some (v :: vs, cs)
      | _ => none

def inline? : Nat → Entries → List Char → Option (Entries × List Char)
  | 0, _, _ => none
  | fuel + 1, es, cs => do
    let (path, cs) ← key? (cs.length + 1) cs
    match skipBlanks cs with
    | '=' :: cs =>
      let (v, cs) ← value? fuel cs
      let es ← insert? v path es
      match skipBlanks cs with
      | '\x7d' :: cs => some (es, cs)
      | ',' :: cs => inline? fuel es cs
      | _ => none
    | _ => none

end

/-! ## Statements -/

structure State where
  table : List Text := []
  opened : List (List Text) := []
  entries : Entries := []

def State.open? (s : State) (path : List Text) : Option State :=
  if s.opened.contains path then none
  else
    let opened := path :: s.opened
    match insert? (.map []) path s.entries with
    | some entries => some { table := path, opened, entries }
    -- a longer key may have made the table before
    | none => some { s with table := path, opened }

def extend? : List Text → Entries → Option Entries
  | [], _ => none
  | [k], es =>
    match es.lookup k with
    | none => some (es ++ [(k, .list [.map []])])
    | some (.list items) => some (Keyed.put Prod.fst (k, .list (items ++ [.map []])) es)
    | some _ => none
  | k :: ks, es =>
    match es.lookup k with
    | none => (extend? ks []).map fun inner => es ++ [(k, .map inner)]
    | some (.map inner) => (extend? ks inner).map fun inner => Keyed.put Prod.fst (k, .map inner) es
    | some (.list items) =>
      match items.getLast? with
      | some (.map inner) =>
        (extend? ks inner).map fun inner => Keyed.put Prod.fst (k, .list (items.dropLast ++ [.map inner])) es
      | _ => none
    | some (.scalar _) => none

def lineEnd? (cs : List Char) : Option (List Char) :=
  match skipComment (skipBlanks cs) with
  | [] => some []
  | '\n' :: cs => some cs
  | _ => none

def statements? : Nat → State → List Char → Option State
  | 0, _, _ => none
  | fuel + 1, s, cs =>
    match skipLines false cs with
    | [] => some s
    | '[' :: '[' :: cs => do
      let (path, cs) ← key? (cs.length + 1) cs
      match skipBlanks cs with
      | ']' :: ']' :: cs =>
        let entries ← extend? path s.entries
        let cs ← lineEnd? cs
        statements? fuel { s with table := path, entries } cs
      | _ => none
    | '[' :: cs => do
      let (path, cs) ← key? (cs.length + 1) cs
      match skipBlanks cs with
      | ']' :: cs =>
        let s ← s.open? path
        let cs ← lineEnd? cs
        statements? fuel s cs
      | _ => none
    | cs => do
      let (path, cs) ← key? (cs.length + 1) cs
      match skipBlanks cs with
      | '=' :: cs =>
        let (v, cs) ← value? (2 * cs.length + 2) cs
        let entries ← insert? v (s.table ++ path) s.entries
        let cs ← lineEnd? cs
        statements? fuel { s with entries } cs
      | _ => none

def unifyBreaks : List Char → List Char
  | [] => []
  | '\r' :: '\n' :: rest => '\n' :: unifyBreaks rest
  | c :: rest => c :: unifyBreaks rest

def read (t : Text) : Option Entries := do
  let s ← t.toString?
  let cs := unifyBreaks s.toList
  (statements? (cs.length + 1) {} cs).map State.entries

end Stencil.Document.Toml
