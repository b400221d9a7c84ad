import Stencil.Document.Value
import Stencil.Settings.Record
import Stencil.Text.Quoted
import Stencil.TypeMapping

/-!
# Flags

The words of a command line are flags with their values, and inputs. A flag has a long name and perhaps a letter;
letters of switches may be written together. The first word that fits no flag ends the reading.
-/

namespace Stencil

inductive Flag where
  | config
  | format
  | goPackage
  | inherited
  | only
  | outDir
  | strict
  | type
  | verbose
  | version
deriving DecidableEq

namespace Flag

def all : List Flag :=
  [.config, .format, .goPackage, .inherited, .only, .outDir, .strict, .type, .verbose, .version]

def long : Flag → Text
  | .config => "config"
  | .format => "format"
  | .goPackage => "go-package"
  | .inherited => "inherited"
  | .only => "only"
  | .outDir => "out-dir"
  | .strict => "strict"
  | .type => "type"
  | .verbose => "verbose"
  | .version => "version"

def letter? : Flag → Option Char
  | .config => some 'c'
  | .format => some 'f'
  | .outDir => some 'o'
  | .version => some 'v'
  | _ => none

def isSwitch : Flag → Bool
  | .inherited => true
  | .strict => true
  | .verbose => true
  | .version => true
  | _ => false

def ofLong? (name : Text) : Option Flag := all.find? fun f => f.long = name

def ofLetter? (g : Glyph) : Option Flag := all.find? fun f => f.letter?.any fun c => g = .char c

def names (f : Flag) : Text :=
  let letter : Text := match f.letter? with
    | some c => [.char '-', .char c, .char ',', .char ' ']
    | none => []
  letter ++ "--" ++ f.long

end Flag

inductive FlagFault where
  | noTruth
  | noPair (part : Text)
  | record (e : RecordError)
deriving DecidableEq

inductive FlagError where
  | help
  | malformed (word : Text)
  | unknown (name : Text)
  | unknownLetter (letters : Text)
  | missing (flag : Flag)
  | missingLetter (letters : Text)
  | refused (flag : Flag) (value : Text) (fault : FlagFault)
deriving DecidableEq

namespace FlagError

def lettersText (letters : Text) : Text :=
  Text.quoteChar (Char.ofNat ((letters.toBytes.headD 0).toNat)) ++ " in -" ++ letters

def message : FlagError → Text
  | .help => "pflag: help requested"
  | .malformed word => "bad flag syntax: " ++ word
  | .unknown name => "unknown flag: --" ++ name
  | .unknownLetter letters => "unknown shorthand flag: " ++ lettersText letters
  | .missing flag => "flag needs an argument: --" ++ flag.long
  | .missingLetter letters => "flag needs an argument: " ++ lettersText letters
  | .refused flag value fault =>
    let cause : Text := match fault with
      | .noTruth => "strconv.ParseBool: parsing " ++ value.quote ++ ": invalid syntax"
      | .noPair part => part ++ " must be formatted as key=value"
      | .record e => e.message
    "invalid argument " ++ value.quote ++ " for " ++ flag.names.quote ++ " flag: " ++ cause

end FlagError

/-- What a command line says. A flag that is not there says nothing. -/
structure Flags where
  config : Text := []
  format : Option Text := none
  goPackage : Option Text := none
  inherited : Option Bool := none
  only : Option Text := none
  outDir : Option Text := none
  strict : Option Bool := none
  types : List Replacement := []
  verbose : Option Bool := none
  version : Bool := false
  inputs : List Text := []
deriving DecidableEq

namespace Flags

/-! ## Values -/

def trimQuotes (t : Text) : Text := Text.dropEndWhile (· == .char '"') (t.dropWhile (· == .char '"'))

def parts (value : Text) : Except FlagFault (List Text) :=
  match value.count (.char '=') with
  | 0 => .error (.noPair value)
  | 1 => .ok [trimQuotes value]
  | _ =>
    match Record.read value with
    | .ok fields => .ok fields
    | .error e => .error (.record e)

def pair (part : Text) : Except FlagFault Replacement :=
  match part.cut? '=' with
  | some (source, target) => .ok ⟨source, target⟩
  | none => .error (.noPair part)

def withTypes (f : Flags) (value : Text) : Except FlagFault Flags := do
  -- of two pairs with the same source the later one counts
  let pairs ← (← parts value).mapM pair
  .ok { f with types := Replacement.table (f.types ++ pairs) }

def truth (value : Text) : Except FlagFault Bool :=
  match Document.truth? value with
  | some b => .ok b
  | none => .error .noTruth

def assign (f : Flags) (flag : Flag) (value : Text) : Except FlagFault Flags :=
  match flag with
  | .config => .ok { f with config := value }
  | .format => .ok { f with format := some value }
  | .goPackage => .ok { f with goPackage := some value }
  | .only => .ok { f with only := some value }
  | .outDir => .ok { f with outDir := some value }
  | .type => f.withTypes value
  | .inherited => (truth value).map fun b => { f with inherited := some b }
  | .strict => (truth value).map fun b => { f with strict := some b }
  | .verbose => (truth value).map fun b => { f with verbose := some b }
  | .version => (truth value).map fun b => { f with version := b }

def set (f : Flags) (flag : Flag) (value : Text) : Except FlagError Flags :=
  match f.assign flag value with
  | .ok f => .ok f
  | .error fault => .error (.refused flag value fault)

/-! ## Words -/

structure Waiting where
  flag : Flag
  letters : Option Text

def long (f : Flags) (word : Text) : Except FlagError (Flags × Option Waiting) :=
  let written : Text := word.drop 2
  match written with
  | .char '-' :: _ => .error (.malformed word)
  | .char '=' :: _ => .error (.malformed word)
  | _ =>
    let (name, value?) : Text × Option Text := match Text.cut? '=' written with
      | some (name, value) => (name, some value)
      | none => (written, none)
    match Flag.ofLong? name, value? with
    | none, _ => .error (if name = Text.ofString "help" then .help else .unknown name)
    | some flag, some value => (f.set flag value).map (·, none)
    | some flag, none =>
      if flag.isSwitch then (f.set flag "true").map (·, none) else .ok (f, some ⟨flag, none⟩)

def isForTests (letters : Text) : Bool := (Text.ofString "test.").isPrefixOf letters

/-- The letters of a word. Switches may follow each other; what follows another flag is its value. -/
def letters (f : Flags) : Text → Except FlagError (Flags × Option Waiting)
  | [] => .ok (f, none)
  | g :: rest =>
    if isForTests (g :: rest) then .ok (f, none)
    else
      match Flag.ofLetter? g with
      | none => .error (if g = .char 'h' then .help else .unknownLetter (g :: rest))
      | some flag =>
        match rest with
        | .char '=' :: v :: value => (f.set flag (v :: value)).map (·, none)
        | [] => if flag.isSwitch then (f.set flag "true").map (·, none) else .ok (f, some ⟨flag, some [g]⟩)
        | rest => do
          if flag.isSwitch then
            let f ← f.set flag "true"
            f.letters rest
          else (f.set flag rest).map (·, none)

def readFrom (f : Flags) : Option Waiting → List Text → Except FlagError Flags
  -- behind `--` there are only inputs, and `-` is one
  | none, [] => .ok f
  | some w, [] => .error (match w.letters with
    | some letters => .missingLetter letters
    | none => .missing w.flag)
  | some w, word :: words => do
    let f ← f.set w.flag word
    f.readFrom none words
  | none, word :: words =>
    match word with
    | [.char '-', .char '-'] => .ok { f with inputs := f.inputs ++ words }
    | .char '-' :: .char '-' :: _ => do
      let (f, waiting) ← f.long word
      f.readFrom waiting words
    | .char '-' :: g :: rest => do
      let (f, waiting) ← f.letters (g :: rest)
      f.readFrom waiting words
    | _ => ({ f with inputs := f.inputs ++ [word] } : Flags).readFrom none words

def read (words : List Text) : Except FlagError Flags := ({} : Flags).readFrom none words

def usage : Text :=
  "Usage of prototype:\n"
    ++ "  -c, --config string         config file (default ./prototype.yml if present)\n"
    ++ "  -f, --format string         output format: php, go or yaml (default \"php\")\n"
    ++ "      --go-package string     package name for go output\n"
    ++ "      --inherited             render parent and interface methods too\n"
    ++ "      --only string           comma-separated Fqn glob patterns to generate\n"
    ++ "  -o, --out-dir string        output directory (default stdout)\n"
    ++ "      --strict                fail on any parse error\n"
    ++ "      --type stringToString   type mapping as from=to, repeatable (default [])\n"
    ++ "      --verbose               enable debug logging\n"
    ++ "  -v, --version               show version\n"

end Flags

end Stencil
