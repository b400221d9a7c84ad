import Stencil.Settings.ConfigFile
import Stencil.Settings.Flags

/-!
# Settings

A setting comes from the command line, else from an environment variable that is not empty, else from the
configuration file. What comes out is checked: the format is known, and every type mapping names the type it replaces.
-/

namespace Stencil

inductive Key where
  | input
  | outDir
  | format
  | inherited
  | only
  | goPackage
  | types
  | strict
  | verbose
deriving DecidableEq

namespace Key

def all : List Key := [.input, .outDir, .format, .inherited, .only, .goPackage, .types, .strict, .verbose]

def name : Key → Text
  | .input => "input"
  | .outDir => "out_dir"
  | .format => "format"
  | .inherited => "inherited"
  | .only => "only"
  | .goPackage => "go_package"
  | .types => "types"
  | .strict => "strict"
  | .verbose => "verbose"

def envName : Key → Text
  | .input => "PROTOTYPE_INPUT"
  | .outDir => "PROTOTYPE_OUT_DIR"
  | .format => "PROTOTYPE_FORMAT"
  | .inherited => "PROTOTYPE_INHERITED"
  | .only => "PROTOTYPE_ONLY"
  | .goPackage => "PROTOTYPE_GO_PACKAGE"
  | .types => "PROTOTYPE_TYPES"
  | .strict => "PROTOTYPE_STRICT"
  | .verbose => "PROTOTYPE_VERBOSE"

def default : Key → Text
  | .format => "php"
  | _ => []

end Key

inductive SettingsError where
  | flags (e : FlagError)
  | inputs (count : Nat)
  | config (e : ConfigError)
  /-- Type mappings have to be a list, because keys of a map may be written in any case. -/
  | typesInMap
  | types
  | noSource (target : Text)
  | format (name : Text)
deriving DecidableEq

def SettingsError.message : SettingsError → Text
  | .flags e => e.message
  | .inputs count => "expected at most one input file, got " ++ Text.ofNat count
  | .config e => e.message
  | .typesInMap => "config types: expected a list of \x7bfrom, to\x7d entries, got a map"
  | .types => "config types"
  | .noSource target => "type mapping to " ++ target.quote ++ " has no source type"
  | .format name => "unknown format " ++ name.quote ++ " (supported: php, go, yaml)"

structure Settings where
  input : Text := []
  outDir : Text := []
  format : Text := []
  inherited : Bool := false
  only : List Text := []
  goPackage : Text := []
  types : List Replacement := []
  strict : Bool := false
  verbose : Bool := false
deriving DecidableEq

/-! ## From answers to settings -/

/-- What is answered under the keys, by the kind of value that is asked for. -/
structure Answers where
  text : Key → Text
  truth : Key → Bool
  texts : Key → List Text
  types : Except SettingsError (List Replacement)

def Flags.mappings (f : Flags) : List Replacement :=
  (f.types.mergeSort fun a b => Text.le a.source b.source).map fun r => ⟨r.source.trim, r.target.trim⟩

namespace Answers

def input (a : Answers) (f : Flags) : Text := f.inputs.head?.getD (a.text .input)

def format (a : Answers) : Text := (a.text .format).trim.lower

def listed (t : Text) : List Text := ((t.split ',').map Text.trim).filter (· ≠ [])

def only (a : Answers) (f : Flags) : List Text :=
  match f.only with
  | some t => listed t
  | none => (a.texts .only).flatMap listed

def checkSources (types : List Replacement) : Except SettingsError Unit :=
  match types.find? fun r => r.source.trim = [] with
  | some r => .error (.noSource r.target)
  | none => .ok ()

def mappings (a : Answers) (f : Flags) : Except SettingsError (List Replacement) := do
  let types := (← a.types) ++ f.mappings
  checkSources types
  .ok types

def formats : List Text := ["php", "go", "yaml"]

def settings (a : Answers) (f : Flags) : Except SettingsError Settings := do
  let types ← a.mappings f
  if a.format ∉ formats then .error (.format a.format)
  else
    .ok {
      input := a.input f
      outDir := a.text .outDir
      format := a.format
      inherited := a.truth .inherited
      only := a.only f
      goPackage := a.text .goPackage
      types
      strict := a.truth .strict
      verbose := a.truth .verbose }

end Answers

/-! ## Where answers come from -/

inductive FlagValue where
  | text (t : Text)
  | truth (b : Bool)
deriving DecidableEq

def Flags.bound? (f : Flags) : Key → Option FlagValue
  -- inputs, patterns and type mappings are bound to no key
  | .outDir => f.outDir.map .text
  | .format => f.format.map .text
  | .goPackage => f.goPackage.map .text
  | .inherited => f.inherited.map .truth
  | .strict => f.strict.map .truth
  | .verbose => f.verbose.map .truth
  | _ => none

/-- Values of some kind that are found under keys, and what is answered from them. -/
structure Store (β : Type) where
  ofFlag : FlagValue → β
  ofVariable : Text → β
  /-- What the configuration file at a path says, by the names of keys. -/
  ofFile : Lookup → Text → Except ConfigError (Text → Option β)
  text : Key → Option β → Text
  truth : Key → Option β → Bool
  texts : Key → Option β → List Text
  types : Option β → Except SettingsError (List Replacement)

namespace Store

section
variable {β : Type} (store : Store β) (flags : Flags) (env : Key → Text)

-- a variable that is not set is empty
def get? (file : Text → Option β) (k : Key) : Option β :=
  ((flags.bound? k).map store.ofFlag).or <|
    (if env k = [] then none else some (store.ofVariable (env k))).or (file k.name)

def answers (find : Lookup) : Except ConfigError Answers :=
  (store.ofFile find flags.config).map fun file =>
    { text := fun k => store.text k (store.get? flags env file k)
      truth := fun k => store.truth k (store.get? flags env file k)
      texts := fun k => store.texts k (store.get? flags env file k)
      types := store.types (store.get? flags env file .types) }

end

open Document (Value)

def side (entries : Document.Entries) (key : Text) : Except SettingsError Text :=
  -- truth values are written as digits
  match entries.get? key with
  | none => .ok []
  | some (.scalar (.bool true)) => .ok "1"
  | some (.scalar (.bool false)) => .ok "0"
  | some (.scalar (.moment _)) => .error .types
  | some (.scalar p) => .ok p.toText
  | some _ => .error .types

def mapping : Value → Except SettingsError Replacement
  | .map entries => do
    let source ← side entries "from"
    let target ← side entries "to"
    .ok ⟨source, target⟩
  | .scalar .null => .ok ⟨[], []⟩
  | _ => .error .types

def mappings : Option Value → Except SettingsError (List Replacement)
  | none => .ok []
  | some (.map _) => .error .typesInMap
  | some (.list items) => items.mapM mapping
  | some (.scalar (.text [])) => .ok []
  | some (.scalar _) => .error .types

def standard : Store Value where
  ofFlag
    | .text t => .ofText t
    | .truth b => .scalar (.bool b)
  ofVariable := .ofText
  ofFile find path := (ConfigFile.read find path).map Document.Entries.get?
  text k v := (v.map Value.text).getD k.default
  truth _ v := (v.map Value.truth).getD false
  texts _ v := (v.map Value.texts).getD []
  types := mappings

end Store

/-! ## All together -/

structure Invocation where
  config : Text
  settings : Option Settings
deriving DecidableEq

/-- Who reads the words of a command line, and who answers for what they leave open. -/
structure Readers where
  flags : List Text → Except FlagError Flags
  answers : Flags → (Key → Text) → Lookup → Except ConfigError Answers

namespace Readers

def read (r : Readers) (words : List Text) (env : Key → Text) (find : Lookup) : Except SettingsError Invocation :=
  -- the version is told before anything else is looked at
  match r.flags words with
  | .error e => .error (.flags e)
  | .ok flags =>
    if flags.version then .ok ⟨flags.config, none⟩
    else if 1 < flags.inputs.length then .error (.inputs flags.inputs.length)
    else
      match r.answers flags env find with
      | .error e => .error (.config e)
      | .ok answers => (answers.settings flags).map fun settings => ⟨flags.config, some settings⟩

def standard : Readers where
  flags := Flags.read
  answers := Store.standard.answers

end Readers

def Invocation.read (words : List Text) (env : Key → Text) (find : Lookup) : Except SettingsError Invocation :=
  Readers.standard.read words env find

end Stencil
