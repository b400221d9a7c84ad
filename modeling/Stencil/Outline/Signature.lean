import Stencil.Structure
import Stencil.Text.Quoted

/-!
# Method lines

A method line holds, somewhere, a return type and a name, both of word characters and with one space between them, and
right after the name a list of parameters in parentheses. The leftmost such place counts.
-/

namespace Stencil.Outline

inductive SignatureError where
  | noSignature
  | emptyParam (body : Text)
  | unnamedParam (part : Text)
  | untypedParam (name : Text)
deriving DecidableEq

def SignatureError.message : SignatureError → Text
  | .noSignature => "expected \"<type> <name>(<args>)\""
  | .emptyParam body => "empty argument in " ++ body.quote
  | .unnamedParam part => "argument " ++ part.quote ++ " has no name"
  | .untypedParam name => "argument " ++ name.quote ++ " has no type"

/-- Word characters: letters of the Latin alphabet in both cases, digits and `_`. The long s U+017F and the kelvin sign
U+212A count too, because they are other cases of `s` and `k`. -/
def isWord : Glyph → Bool
  | .char c => c.isAlphanum || c == '_' || c == '\u017f' || c == '\u212a'
  | .stray _ => false

structure SignatureText where
  returns : Text
  name : Text
  params : Text
deriving DecidableEq

def SignatureText.atStart? (t : Text) : Option SignatureText :=
  match t.takeWhile isWord, t.dropWhile isWord with
  | returns@(_ :: _), .char ' ' :: t =>
    match t.takeWhile isWord, t.dropWhile isWord with
    | name@(_ :: _), .char '(' :: t =>
      match Text.cut? ')' t with
      | some (params, _) => some ⟨returns, name, params⟩
      | none => none
    | _, _ => none
  | _, _ => none

def SignatureText.find? : Text → Option SignatureText
  | [] => none
  | g :: t => (atStart? (g :: t)).or (find? t)

/-- One parameter: its type, then its name; what follows is ignored. A type that ends in `[]` makes an array. -/
def param? (part : Text) : Except SignatureError Param :=
  match part.words with
  | type :: name :: _ =>
    let element := Text.dropEnd? "[]" type
    match element.getD type with
    | [] => .error (.untypedParam name)
    | written => .ok ⟨.ofText written, name, element.isSome⟩
  | _ => .error (.unnamedParam part)

def part? (body part : Text) : Except SignatureError Param :=
  match part.trim with
  | [] => .error (.emptyParam body)
  | part => param? part

def params? (body : Text) : Except SignatureError (List Param) :=
  if body.isBlank then .ok [] else (body.split ',').mapM (part? body)

def method? (line : Text) : Except SignatureError Method :=
  match SignatureText.find? line with
  | none => .error .noSignature
  | some s => (params? s.params).map fun params => ⟨s.name, .ofText s.returns, params⟩

end Stencil.Outline
