import Stencil.Document.Scanned

/-!
# Nodes of a YAML document

Blocks are told apart by columns: the entries of a list or a map begin in one column, and what belongs to an entry
stands further right. Inside brackets columns do not count.
-/

namespace Stencil.Document.Yaml

/-! ## Names and tags -/

structure Marks where
  name : Option Text := none
  tag : Option Text := none

def isNameChar (c : Char) : Bool := c.isAlphanum || c == '_' || c == '-'

def name? (cs : List Char) : Option (Text × List Char) :=
  let rest := cs.dropWhile isNameChar
  let ends := endsWord rest || match rest with
    | c :: _ => c ∈ ['?', ':', ',', '%', '@', '\x60'] || closesBracket c
    | [] => true
  if (cs.takeWhile isNameChar).isEmpty || !ends then none else some (textOf (cs.takeWhile isNameChar), rest)

def isTagEnd (inBrackets : Bool) (c : Char) : Bool :=
  isBlank c || c == '\n' || (inBrackets && (c == ',' || opensBracket c || closesBracket c))

def marks? (inBrackets : Bool) : Nat → Marks → Reader → Option (Marks × Reader)
  | 0, _, _ => none
  | fuel + 1, m, r =>
    match r.rest with
    | '&' :: cs =>
      match m.name, name? cs with
      | none, some (name, rest) => marks? inBrackets fuel { m with name } ((r.advance rest).skip inBrackets)
      | _, _ => none
    | '!' :: cs =>
      match m.tag with
      | none =>
        let tag := cs.takeWhile fun c => !isTagEnd inBrackets c
        let r := r.advance (cs.drop tag.length)
        marks? inBrackets fuel { m with tag := some (textOf tag) } (r.skip inBrackets)
      | some _ => none
    | _ => some (m, r)

def Marks.mark (m : Marks) (n : Node) (r : Reader) : Node × Reader :=
  -- a tag counts for a scalar, and a name is remembered
  let n := match n, m.tag with
    | .scalar _ plain raw, some (g :: tag) => .scalar (some (g :: tag)) plain raw
    | n, _ => n
  (n, match m.name with
    | some name => { r with anchors := (name, n) :: r.anchors }
    | none => r)

/-! ## Nodes in a line -/

structure Atom where
  node : Node
  /-- Whether it can be a key, which lies in one line with its colon. -/
  inLine : Bool
  reader : Reader

def atom? (inBrackets : Bool) (least : Nat) (r : Reader) : Option Atom :=
  let scalar (plain : Bool) (s : Scanned) : Atom := ⟨.scalar none plain s.text, s.inLine, s.reader⟩
  match r.rest with
  | '"' :: cs => (quoted? r (doubleQuoted? (cs.length + 1) cs)).map (scalar false)
  | '\'' :: cs => (quoted? r (singleQuoted? cs)).map (scalar false)
  | '*' :: cs => do
    let (name, rest) ← name? cs
    let node ← r.anchors.lookup name
    some ⟨node, true, r.advance rest⟩
  | cs => if beginsPlain inBrackets cs then (plainWords inBrackets least (cs.length + 1) r).map (scalar true) else none

def closesAt (close : Char) (r : Reader) : Bool := r.rest.head? == some close

mutual

def bracketed : Nat → Nat → Reader → Option Atom
  | 0, _, _ => none
  | fuel + 1, least, r => do
    let r := r.skip true
    let (m, r) ← if r.atMarker then none else marks? true 3 {} r
    let marked (a : Atom) : Atom :=
      let (node, reader) := m.mark a.node a.reader
      { a with node, reader }
    match r.rest with
    | '[' :: _ => (bracketItems fuel least r.next).map fun (items, r) => marked ⟨.list items, false, r⟩
    | '\x7b' :: _ => (bracketEntries fuel least r.next).map fun (entries, r) => marked ⟨.map entries, false, r⟩
    | c :: _ =>
      if (c == ',' || closesBracket c) && (m.name.isSome || m.tag.isSome) then some (marked ⟨.nothing, true, r⟩)
      else (atom? true least r).map marked
    | [] => none

def bracketValue : Nat → Nat → Char → Reader → Option (Node × Reader)
  | 0, _, _, _ => none
  | fuel + 1, least, close, r =>
    let r := r.skip true
    if closesAt close r || closesAt ',' r then some (.nothing, r)
    else (bracketed fuel least r).map fun a => (a.node, a.reader)

def bracketItems : Nat → Nat → Reader → Option (List Node × Reader)
  -- a key with its value is a map of its own
  | 0, _, _ => none
  | fuel + 1, least, r => do
    let r := r.skip true
    if closesAt ']' r then some ([], r.next)
    else
      let asked := closesAt '?' r
      let a ← bracketed fuel least (if asked then r.next else r)
      let behind := a.reader.skipBlanks
      let (item, r) ←
        if (a.inLine || asked) && behind.atColon true then
          (bracketValue fuel least ']' behind.next).map fun (v, r) => (Node.map [(a.node, v)], r)
        else some (if asked then Node.map [(a.node, .nothing)] else a.node, a.reader)
      let r := r.skip true
      if closesAt ']' r then some ([item], r.next)
      else if closesAt ',' r then
        let (items, r) ← bracketItems fuel least r.next
        some (item :: items, r)
      else none

def bracketEntries : Nat → Nat → Reader → Option (List (Node × Node) × Reader)
  | 0, _, _ => none
  | fuel + 1, least, r => do
    let r := r.skip true
    if closesAt '\x7d' r then some ([], r.next)
    else
      let asked := closesAt '?' r
      let a ← bracketed fuel least (if asked then r.next else r)
      let behind := a.reader.skipBlanks
      let (value, r) ←
        if (a.inLine || asked) && behind.atColon true then bracketValue fuel least '\x7d' behind.next
        else some (.nothing, a.reader)
      let r := r.skip true
      if closesAt '\x7d' r then some ([(a.node, value)], r.next)
      else if closesAt ',' r then
        let (entries, r) ← bracketEntries fuel least r.next
        some ((a.node, value) :: entries, r)
      else none

end

/-! ## Blocks -/

mutual

/-- The node here, which stands at column `least` or further right. Behind a key, a list may also begin in the column
of the key. -/
def block : Nat → Nat → Bool → Reader → Option (Node × Reader)
  | 0, _, _, _ => none
  | fuel + 1, least, behindKey, r => do
    let start := r.skip false
    let (m, r) ← if start.leaves least then some ({}, start) else marks? false 3 {} start
    if r.leaves least then
      if behindKey && r.atDash && !r.atEnd && r.column + 1 = least then
        (blockItems fuel r.column true r).map fun (items, r) => m.mark (.list items) r
      else some (m.mark .nothing r)
    else if r.atDash then
      if r.keyable then (blockItems fuel r.column false r).map fun (items, r) => m.mark (.list items) r else none
    else
      -- marks in the line of a key belong to the key, and marks above it to the map
      let ownLine := r.keyable
      let column := if ownLine then r.column else start.column
      match r.rest with
      | '|' :: _ => (block? false least r.next).map fun s => m.mark (.scalar none false s.text) s.reader
      | '>' :: _ => (block? true least r.next).map fun s => m.mark (.scalar none false s.text) s.reader
      | c :: _ =>
        let a ← if opensBracket c then bracketed fuel least r else atom? false least r
        let behind := a.reader.skipBlanks
        if a.inLine && (ownLine || start.keyable) && behind.atColon false then
          if ownLine then
            let (entries, r) ← blockEntry fuel column a.node behind.next
            some (m.mark (.map entries) r)
          else
            let (key, behind) := m.mark a.node behind.next
            (blockEntry fuel column key behind).map fun (entries, r) => (.map entries, r)
        else some (m.mark a.node a.reader)
      | [] => none

def blockItems : Nat → Nat → Bool → Reader → Option (List Node × Reader)
  | 0, _, _, _ => none
  | fuel + 1, column, behindKey, r => do
    let (item, r) ← block fuel (column + 1) false { r.next with keyable := true }
    let r := r.skip false
    if r.leaves column then some ([item], r)
    else if r.column ≠ column then none
    else if r.atDash then
      let (items, r) ← blockItems fuel column behindKey r
      some (item :: items, r)
    else if behindKey then some ([item], r)
    else none

/-- The entries of a map from the value of a key on. The next keys stand in the column of the first one. -/
def blockEntry : Nat → Nat → Node → Reader → Option (List (Node × Node) × Reader)
  | 0, _, _, _ => none
  | fuel + 1, column, key, r => do
    let (value, r) ← block fuel (column + 1) true { r with keyable := false }
    let r := r.skip false
    if r.leaves column then some ([(key, value)], r)
    else if r.column ≠ column || r.atDash then none
    else
      let (m, r) ← marks? false 3 {} r
      let a ← atom? false (column + 1) r
      let behind := a.reader.skipBlanks
      if a.inLine && behind.atColon false then
        let (key', behind) := m.mark a.node behind.next
        let (entries, r) ← blockEntry fuel column key' behind
        some ((key, value) :: entries, r)
      else none

end

/-! ## Documents -/

def isAllowed (c : Char) : Bool :=
  let n := c.toNat
  n == 0x09 || n == 0x0a || n == 0x0d || (0x20 ≤ n && n ≤ 0x7e) || n == 0x85 || (0xa0 ≤ n && n ≤ 0xfffd) || 0x10000 ≤ n

def unifyBreaks : List Char → List Char
  | [] => []
  | '\r' :: '\n' :: rest => '\n' :: unifyBreaks rest
  | c :: rest => (if c == '\r' || c == '\u0085' then '\n' else c) :: unifyBreaks rest

def couldFollow (r : Reader) : Bool :=
  !r.atColon false && match r.rest with
    | c :: _ => !(c ∈ ['@', '\x60', '\t'])
    | [] => true

/-- The first document: it may begin with a line of dashes, and what follows its node is not read. -/
def document? (cs : List Char) : Option Node := do
  let fuel := 3 * cs.length + 8
  let r := (Reader.mk cs 0 true []).skip false
  if r.rest.isEmpty then some .nothing
  else if r.column == 0 && isMarker '.' r.rest then none
  else
    let r := if r.column == 0 && isMarker '-' r.rest then r.advance (r.rest.drop 3) else r
    let (node, r) ← block fuel 0 false r
    if couldFollow (r.skip false) then some node else none

def node? (t : Text) : Option Node := do
  let s ← t.toString?
  let cs := match s.toList with
    | '\ufeff' :: cs => cs
    | cs => cs
  if cs.all isAllowed then document? (unifyBreaks cs) else none

end Stencil.Document.Yaml
