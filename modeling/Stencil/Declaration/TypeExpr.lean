import Stencil.Declaration.Token

/-!
# Type expressions

The types that a signature is made of, read from tokens and written in the one standard layout.
-/

namespace Stencil.Declaration

inductive Direction where
  | both
  | receive
  | send
deriving DecidableEq

/-- A type. Parameters and fields are groups of names with one type; a group without names is the type alone. -/
inductive TypeExpr where
  | name (t : Text)
  | number (t : Text)
  | member (package name : Text)
  | applied (head : TypeExpr) (args : List TypeExpr)
  | pointer (e : TypeExpr)
  | slice (e : TypeExpr)
  | array (size e : TypeExpr)
  | map (key value : TypeExpr)
  | channel (d : Direction) (e : TypeExpr)
  | function (params results : List (List Text × TypeExpr))
  | record (fields : List (List Text × TypeExpr))
  | contract (elements : List (List Text × TypeExpr))
  | parens (e : TypeExpr)
  | variadic (e : TypeExpr)

abbrev Group := List Text × TypeExpr

structure Item where
  name : Option Text
  type : Option TypeExpr

def Item.asType (i : Item) : Option Group :=
  -- if no item has both a name and a type, all items are types
  match i.type, i.name with
  | some e, _ => some ([], e)
  | none, some t => some ([], .name t)
  | none, none => none

def Item.asNames : List Item → Option (List Group)
  -- otherwise all items are names, and one without a type takes the type of the next one
  | [] => some []
  | i :: is =>
    match i.name, i.type, asNames is with
    | some t, some e, some groups => some (([t], e) :: groups)
    | some t, none, some ((names, e) :: groups) => some ((t :: names, e) :: groups)
    | _, _, _ => none

def Item.groups (is : List Item) : Option (List Group) :=
  if is.any fun i => i.name.isSome && i.type.isSome then asNames is else is.mapM Item.asType

def startsType : List Token → Bool
  | .name _ :: _ => true
  | .keyword k :: _ => k != .other
  | .sign s :: _ => s = .star || s = .arrow || s = .openParen
  | _ => false

def closing? (s : Sign) : List Token → Option (List Token)
  | .sign s' :: ts => if s' = s then some ts else none
  | _ => none

mutual

def type? : Nat → List Token → Option (TypeExpr × List Token)
  | 0, _ => none
  | fuel + 1, .name t :: ts =>
    match ts with
    | .sign .dot :: .name member :: ts => applied? fuel (.member t member) ts
    | .sign .dot :: _ => none
    | ts => applied? fuel (.name t) ts
  | fuel + 1, .sign .openBracket :: ts =>
    match ts with
    | .sign .closeBracket :: ts => (type? fuel ts).map fun (e, ts) => (.slice e, ts)
    | .sign .dots :: .sign .closeBracket :: ts => (type? fuel ts).map fun (e, ts) => (.array (.name "...") e, ts)
    | ts => do
      let (size, ts) ← operand? fuel ts
      let ts ← closing? .closeBracket ts
      let (e, ts) ← type? fuel ts
      some (.array size e, ts)
  | fuel + 1, .sign .star :: ts => (type? fuel ts).map fun (e, ts) => (.pointer e, ts)
  | fuel + 1, .sign .openParen :: ts => do
    let (e, ts) ← type? fuel ts
    let ts ← closing? .closeParen ts
    some (.parens e, ts)
  | fuel + 1, .sign .arrow :: .keyword .chan :: ts =>
    (type? fuel ts).map fun (e, ts) => (.channel .receive e, ts)
  | fuel + 1, .keyword .chan :: .sign .arrow :: ts => (type? fuel ts).map fun (e, ts) => (.channel .send e, ts)
  | fuel + 1, .keyword .chan :: ts => (type? fuel ts).map fun (e, ts) => (.channel .both e, ts)
  | fuel + 1, .keyword .map :: .sign .openBracket :: ts => do
    let (key, ts) ← type? fuel ts
    let ts ← closing? .closeBracket ts
    let (value, ts) ← type? fuel ts
    some (.map key value, ts)
  | fuel + 1, .keyword .func :: ts => signature? fuel ts
  | fuel + 1, .keyword .struct :: .sign .openBrace :: ts =>
    (fields? fuel ts).map fun (fields, ts) => (.record fields, ts)
  | fuel + 1, .keyword .iface :: .sign .openBrace :: ts =>
    (elements? fuel ts).map fun (elements, ts) => (.contract elements, ts)
  | _ + 1, _ => none

def operand? : Nat → List Token → Option (TypeExpr × List Token)
  | 0, _ => none
  | _ + 1, .number t :: ts => some (.number t, ts)
  | fuel + 1, ts => type? fuel ts

def applied? : Nat → TypeExpr → List Token → Option (TypeExpr × List Token)
  | 0, _, _ => none
  | fuel + 1, head, .sign .openBracket :: ts => do
    let (args, ts) ← arguments? fuel ts
    if args.isEmpty then none else some (.applied head args, ts)
  | _ + 1, head, ts => some (head, ts)

def arguments? : Nat → List Token → Option (List TypeExpr × List Token)
  | 0, _ => none
  | _ + 1, .sign .closeBracket :: ts => some ([], ts)
  | fuel + 1, ts => do
    let (e, ts) ← operand? fuel ts
    match ts with
    | .sign .comma :: ts =>
      let (es, ts) ← arguments? fuel ts
      some (e :: es, ts)
    | .sign .closeBracket :: ts => some ([e], ts)
    | _ => none

def bracketed? : Nat → Text → List Token → Option (Item × List Token)
  | 0, _, _ => none
  | fuel + 1, t, ts => do
    let (args, ts) ← arguments? fuel ts
    match args with
    | [] =>
      let (e, ts) ← type? fuel ts
      some (⟨some t, some (.slice e)⟩, ts)
    | [size] =>
      if startsType ts || ts.head?.any (· = .sign .openBracket) then
        let (e, ts) ← type? fuel ts
        some (⟨some t, some (.array size e)⟩, ts)
      else some (⟨none, some (.applied (.name t) [size])⟩, ts)
    | args => some (⟨none, some (.applied (.name t) args)⟩, ts)

def item? : Nat → List Token → Option (Item × List Token)
  | 0, _ => none
  | fuel + 1, .name t :: ts =>
    match ts with
    | .sign .openBracket :: ts => bracketed? fuel t ts
    | .sign .dots :: ts => (type? fuel ts).map fun (e, ts) => (⟨some t, some (.variadic e)⟩, ts)
    | .sign .dot :: _ => (type? fuel (.name t :: ts)).map fun (e, ts) => (⟨none, some e⟩, ts)
    | ts =>
      if startsType ts then (type? fuel ts).map fun (e, ts) => (⟨some t, some e⟩, ts)
      else some (⟨some t, none⟩, ts)
  | fuel + 1, .sign .dots :: ts => (type? fuel ts).map fun (e, ts) => (⟨none, some (.variadic e)⟩, ts)
  | fuel + 1, ts => (type? fuel ts).map fun (e, ts) => (⟨none, some e⟩, ts)

def items? : Nat → List Token → Option (List Item × List Token)
  | 0, _ => none
  | _ + 1, .sign .closeParen :: ts => some ([], ts)
  | fuel + 1, ts => do
    let (i, ts) ← item? fuel ts
    match ts with
    | .sign .comma :: ts =>
      let (is, ts) ← items? fuel ts
      some (i :: is, ts)
    | .sign .closeParen :: ts => some ([i], ts)
    | _ => none

def params? : Nat → List Token → Option (List Group × List Token)
  | 0, _ => none
  | fuel + 1, ts => do
    let (is, ts) ← items? fuel ts
    let groups ← Item.groups is
    some (groups, ts)

def signature? : Nat → List Token → Option (TypeExpr × List Token)
  -- results in parentheses are a list as well
  | 0, _ => none
  | fuel + 1, .sign .openParen :: ts => do
    let (params, ts) ← params? fuel ts
    match ts with
    | .sign .openParen :: ts =>
      let (results, ts) ← params? fuel ts
      some (.function params results, ts)
    | ts =>
      if startsType ts || ts.head?.any (· = .sign .openBracket) then
        let (e, ts) ← type? fuel ts
        some (.function params [([], e)], ts)
      else some (.function params [], ts)
  | _ + 1, _ => none

def fields? : Nat → List Token → Option (List Group × List Token)
  | 0, _ => none
  | _ + 1, .sign .closeBrace :: ts => some ([], ts)
  | fuel + 1, ts => do
    let (names, ts) ← fieldNames? fuel ts
    let (e, ts) ← type? fuel ts
    match ts with
    | .sign .semicolon :: ts =>
      let (groups, ts) ← fields? fuel ts
      some ((names, e) :: groups, ts)
    | .sign .closeBrace :: ts => some ([(names, e)], ts)
    | _ => none

def fieldNames? : Nat → List Token → Option (List Text × List Token)
  | 0, _ => none
  | fuel + 1, .name t :: .sign .comma :: ts => (fieldNames? fuel ts).map fun (names, ts) => (t :: names, ts)
  | _ + 1, .name t :: ts =>
    if startsType ts || ts.head?.any (· = .sign .openBracket) then some ([t], ts) else some ([], .name t :: ts)
  | _ + 1, .sign .star :: ts => some ([], .sign .star :: ts)
  | _ + 1, _ => none

def elements? : Nat → List Token → Option (List Group × List Token)
  | 0, _ => none
  | _ + 1, .sign .closeBrace :: ts => some ([], ts)
  | fuel + 1, .name t :: ts => do
    let (element, ts) ←
      match ts with
      | .sign .openParen :: _ => (signature? fuel ts).map fun (e, ts) => (([t], e), ts)
      | _ => (type? fuel (.name t :: ts)).map fun (e, ts) => (([], e), ts)
    match ts with
    | .sign .semicolon :: ts =>
      let (elements, ts) ← elements? fuel ts
      some (element :: elements, ts)
    | .sign .closeBrace :: ts => some ([element], ts)
    | _ => none
  | _ + 1, _ => none

end

/-! ## Layout -/

def tabs (depth : Nat) : Text := List.replicate depth (.char '\t')

def spaces (n : Nat) : Text := List.replicate n (.char ' ')

structure Row where
  names : Text
  type : Text

def Row.isShort (r : Row) : Bool := min r.names.length 1 + r.type.length ≤ 30

def Row.text (r : Row) : Text := Text.join " " ([r.names, r.type].filter (· ≠ []))

def aligned (rows : List Row) : List Text :=
  let width := (rows.map fun r => r.names.length).foldl max 0
  rows.map fun r => Text.when (r.names ≠ []) (r.names ++ spaces (width + 1 - r.names.length)) ++ r.type

def onOneLine (keyword row : Text) : Text := keyword ++ "\x7b " ++ row ++ " \x7d"

def onLines (depth : Nat) (keyword : Text) (rows : List Text) : Text :=
  let line (row : Text) : Text := tabs (depth + 1) ++ row ++ "\n"
  keyword ++ " \x7b\n" ++ rows.flatMap line ++ tabs depth ++ "\x7d"

def recordText (depth : Nat) (rows : List Row) : Text :=
  match rows with
  | [] => "struct\x7b\x7d"
  | [row] => if row.isShort then onOneLine "struct" row.text else onLines depth "struct" (aligned rows)
  | rows => onLines depth "struct" (aligned rows)

def methodRow (r : Row) : Text := r.names ++ if r.names = [] then r.type else r.type.drop 4

def contractText (depth : Nat) (rows : List Row) : Text :=
  match rows with
  | [] => "interface\x7b\x7d"
  | [row] =>
    if row.isShort then onOneLine "interface" (methodRow row) else onLines depth "interface" [methodRow row]
  | rows => onLines depth "interface" (rows.map methodRow)

def signatureText (params results : List Row) : Text :=
  let list (rows : List Row) : Text := Text.join ", " (rows.map Row.text)
  let written : Text :=
    match results with
    | [] => []
    | [⟨[], type⟩] => " " ++ type
    | results => " (" ++ list results ++ ")"
  "(" ++ list params ++ ")" ++ written

mutual

/-- A type in the standard layout, on a line that is indented by `depth` tabs. The type of a parameter is written
`bare`, without parentheses around it. -/
def TypeExpr.text (depth : Nat) (bare : Bool) : TypeExpr → Text
  | .name t => t
  | .number t => t
  | .member p t => p ++ "." ++ t
  | .applied head args => head.text depth false ++ "[" ++ Text.join ", " (texts depth args) ++ "]"
  | .pointer e => "*" ++ e.text depth false
  | .slice e => "[]" ++ e.text depth false
  | .array size e => "[" ++ size.text depth false ++ "]" ++ e.text depth false
  | .map key value => "map[" ++ key.text depth false ++ "]" ++ value.text depth false
  | .channel .both e => "chan " ++ e.text depth false
  | .channel .receive e => "<-chan " ++ e.text depth false
  | .channel .send e => "chan<- " ++ e.text depth false
  | .function params results => "func" ++ signatureText (rows depth true params) (rows depth true results)
  | .record fields => recordText depth (rows (depth + 1) false fields)
  | .contract elements => contractText depth (rows (depth + 1) false elements)
  | .parens e => if bare then e.text depth true else "(" ++ e.text depth true ++ ")"
  | .variadic e => "..." ++ e.text depth false

def texts (depth : Nat) : List TypeExpr → List Text
  | [] => []
  | e :: es => e.text depth false :: texts depth es

def rows (depth : Nat) (bare : Bool) : List (List Text × TypeExpr) → List Row
  | [] => []
  | (names, e) :: groups => ⟨Text.join ", " names, e.text depth bare⟩ :: rows depth bare groups

end

/-! ## Qualified names in types -/

mutual

def TypeExpr.members : TypeExpr → List (Text × Text)
  | .name _ => []
  | .number _ => []
  | .member p t => [(p, t)]
  | .applied head args => head.members ++ listMembers args
  | .pointer e => e.members
  | .slice e => e.members
  | .array size e => size.members ++ e.members
  | .map key value => key.members ++ value.members
  | .channel _ e => e.members
  | .function params results => groupMembers params ++ groupMembers results
  | .record fields => groupMembers fields
  | .contract elements => groupMembers elements
  | .parens e => e.members
  | .variadic e => e.members

def listMembers : List TypeExpr → List (Text × Text)
  | [] => []
  | e :: es => e.members ++ listMembers es

def groupMembers : List (List Text × TypeExpr) → List (Text × Text)
  | [] => []
  | (_, e) :: groups => e.members ++ groupMembers groups

end

/-! ## Signatures -/

structure Signature where
  name : Text
  type : TypeExpr

def Signature.ofText? (t : Text) : Option Signature := do
  let ts ← tokens? t
  match ts with
  | .name name :: ts =>
    let (type, rest) ← signature? (8 * ts.length + 8) ts
    if rest.isEmpty then some ⟨name, type⟩ else none
  | _ => none

def Signature.text (depth : Nat) (s : Signature) : Text :=
  s.name ++
    match s.type with
    | .function params results => signatureText (rows depth true params) (rows depth true results)
    | e => e.text depth false

end Stencil.Declaration
