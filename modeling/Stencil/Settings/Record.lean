import Stencil.Text.Basic

/-!
# Records

A record is a line of fields with commas between them. A field between double quotes may hold commas, line ends and,
written twice, double quotes. Columns count bytes from one.
-/

namespace Stencil

inductive RecordFault where
  /-- A quote inside a field that does not begin with one. -/
  | bareQuote
  /-- A closing quote that is missing, or is followed by more of the field. -/
  | looseQuote
deriving DecidableEq

def RecordFault.message : RecordFault → Text
  | .bareQuote => "bare \" in non-quoted-field"
  | .looseQuote => "extraneous or missing \" in quoted-field"

structure RecordError where
  /-- The line in which the record begins. -/
  start : Nat
  line : Nat
  column : Nat
  fault : RecordFault
deriving DecidableEq

def RecordError.message (e : RecordError) : Text :=
  let record : Text := "record on line " ++ Text.ofNat e.start ++ "; "
  Text.when (e.start ≠ e.line) record ++ "parse error on line " ++ Text.ofNat e.line ++ ", column "
    ++ Text.ofNat e.column ++ ": " ++ e.fault.message

namespace Record

structure Line where
  content : Text
  ended : Bool

def dropReturn (t : Text) : Text := (Text.dropEnd? "\r" t).getD t

def lines (t : Text) : List Line :=
  -- nothing behind the last line end is no line
  let contents := (t.split '\n').map dropReturn
  let last := contents.getLastD []
  contents.dropLast.map (⟨·, true⟩) ++ if last.isEmpty then [] else [⟨last, false⟩]

structure Position where
  start : Nat
  line : Nat
  column : Nat

def Position.behind (p : Position) (t : Text) (more : Nat) : Position :=
  { p with column := p.column + t.toBytes.length + more }

def Position.fails (p : Position) (fault : RecordFault) : RecordError := ⟨p.start, p.line, p.column, fault⟩

def bare (p : Position) (field : Text) : Except RecordError Text :=
  match field.cut? '"' with
  | some (before, _) => .error ((p.behind before 0).fails .bareQuote)
  | none => .ok field

mutual

def fields : Nat → Position → Line → List Line → Except RecordError (List Text)
  | 0, p, _, _ => .error (p.fails .looseQuote)
  | fuel + 1, p, line, more =>
    match line.content with
    | .char '"' :: inner => quotedField fuel (p.behind [] 1) [] { line with content := inner } more
    | content =>
      match Text.cut? ',' content with
      | some (before, after) => do
        let field ← bare p before
        let others ← fields fuel (p.behind before 1) { line with content := after } more
        .ok (field :: others)
      | none => do
        let field ← bare p content
        .ok [field]

/-- The fields from inside a quoted one on, of which `field` was read already. -/
def quotedField : Nat → Position → Text → Line → List Line → Except RecordError (List Text)
  | 0, p, _, _, _ => .error (p.fails .looseQuote)
  | fuel + 1, p, field, line, more =>
    match line.content.cut? '"' with
    | some (before, after) =>
      let p := p.behind before 1
      let field := field ++ before
      match after with
      | .char '"' :: after => quotedField fuel (p.behind [] 1) (field ++ "\"") { line with content := after } more
      | .char ',' :: after => do
        let others ← fields fuel (p.behind [] 1) { line with content := after } more
        .ok (field :: others)
      | [] => .ok [field]
      | _ => .error (({ p with column := p.column - 1 } : Position).fails .looseQuote)
    | none =>
      match more with
      | [] => .error ((p.behind line.content (if line.ended then 1 else 0)).fails .looseQuote)
      | next :: more => quotedField fuel { p with line := p.line + 1, column := 1 } (field ++ line.content ++ "\n") next more

end

def firstLine : Nat → List Line → Option (Nat × Line × List Line)
  | _, [] => none
  | n, line :: more => if line.content.isEmpty then firstLine (n + 1) more else some (n, line, more)

def read (t : Text) : Except RecordError (List Text) :=
  match firstLine 1 (lines t) with
  | none => .ok []
  | some (n, line, more) => fields (2 * t.length + 2) ⟨n, n, 1⟩ line more

end Record

end Stencil
