import Stencil.Structure
import Stencil.Text.Quoted

/-!
# Lines and headers

An outline is read line by line. What a line is for shows at its start: a comment begins with `#` or `//`, a method is
indented by a space, and every other line that is not blank declares a structure. Such a header gives its kind and its
name, then perhaps `extends` and a base, then perhaps `implements` and interfaces. Commas count as spaces.
-/

namespace Stencil.Outline

inductive LineKind where
  | blank
  | comment
  | method
  | header
deriving DecidableEq, Inhabited

/-- The lines of a source, without the carriage returns at their ends. A source has one line more than line breaks. -/
def lines (src : Text) : List Text := (src.split '\n').map (Text.dropEndWhile (· == .char '\r'))

def startsComment : Text → Bool
  | .char '#' :: _ => true
  | .char '/' :: .char '/' :: _ => true
  | _ => false

def startsIndented : Text → Bool
  | .char ' ' :: _ => true
  | _ => false

def LineKind.of (line : Text) : LineKind :=
  if line.isBlank then .blank
  else if startsComment line then .comment
  else if startsIndented line then .method
  else .header

/-! ## Headers -/

inductive HeaderError where
  | malformed (line : Text)
  | unknownKind (word : Text)
  | missingBase
  | unexpected (word : Text)
deriving DecidableEq

def HeaderError.message : HeaderError → Text
  | .malformed line => "malformed structure signature " ++ line.trim.quote
  | .unknownKind word => "unknown structure " ++ word.quote
  | .missingBase => "extends without a base structure"
  | .unexpected word => "unexpected token " ++ word.quote

def headerWords (line : Text) : List Text := line.fields fun g => g == .char ' ' || g == .char ','

def kind? (word : Text) : Option Kind :=
  if word = Kind.word .klass then some .klass
  else if word = Kind.word .iface then some .iface
  else none

def base? : List Text → Except HeaderError (QName × List Text)
  | [] => .ok (.unset, [])
  | word :: rest =>
    if word = Text.ofString "extends" then
      match rest with
      | base :: rest => .ok (.ofText base, rest)
      | [] => .error .missingBase
    else .ok (.unset, word :: rest)

def interfaces? : List Text → Except HeaderError (List QName)
  -- nothing may follow the interfaces
  | [] => .ok []
  | word :: rest =>
    if word = Text.ofString "implements" then .ok (rest.map .ofText) else .error (.unexpected word)

def structure? (line : Text) : Except HeaderError Structure :=
  match headerWords line with
  | word :: name :: rest =>
    match kind? word with
    | none => .error (.unknownKind word)
    | some kind => do
      let (base, rest) ← base? rest
      let interfaces ← interfaces? rest
      .ok (.make kind (.ofText name) base interfaces)
  | _ => .error (.malformed line)

end Stencil.Outline
