import Stencil.Generation
import Stencil.Outline.Reading
import Stencil.Selection
import Stencil.Settings

/-!
# Runs

A run reads an outline, reports what it found, and generates the files of the structures that were selected. It is a
function from settings and input to what was logged and written, so that nothing else can happen in it.
-/

namespace Stencil

/-! ## Logs -/

inductive Level where
  | debug
  | warning
  | fatal
deriving DecidableEq

def Level.word : Level → Text
  | .debug => "debug"
  | .warning => "warning"
  | .fatal => "fatal"

inductive FieldValue where
  | text (t : Text)
  | number (n : Nat)
deriving DecidableEq

def FieldValue.word : FieldValue → Text
  | .text t => t.quote
  | .number n => Text.ofNat n

structure LogEntry where
  level : Level
  message : Text
  fields : List (Text × FieldValue) := []
deriving DecidableEq

def LogEntry.line (e : LogEntry) : Text :=
  let fields := e.fields.map fun (name, value) => name ++ "=" ++ value.word
  Text.join " " (["level=" ++ e.level.word, "msg=" ++ e.message.quote] ++ fields)

/-- What the log says about an outline: its counts, then one warning for every line that was not understood. -/
def Outline.Reading.log (r : Reading) (name : Text) : List LogEntry :=
  let counts : LogEntry :=
    { level := .debug
      message := "parsed"
      fields := [("input", .text name), ("lines", .number r.counts.lines), ("empty", .number r.counts.blank),
        ("comments", .number r.counts.comments), ("structures", .number r.catalogue.size),
        ("diagnostics", .number r.diagnostics.length)] }
  counts :: r.diagnostics.map fun d =>
    { level := .warning, message := d.message, fields := [("input", .text name), ("line", .number d.line)] }

/-! ## Errors -/

inductive RunError where
  | pattern (e : PatternError)
  | format (name : Text)
  | input (e : DiskError)
  | complaints (name : Text) (count : Nat)
  | nothing (name : Text)
  | generation (e : GenerationError)
deriving DecidableEq

def RunError.message : RunError → Text
  | .pattern e => e.message
  | .format name => "unknown format " ++ name.quote
  | .input e => "read input: " ++ e.message
  | .complaints name count => name ++ ": " ++ Text.ofNat count ++ " parse errors"
  | .nothing name => "no structures to generate in " ++ name
  | .generation e => "generate: " ++ e.message

/-! ## Settings of a run -/

namespace Settings

def inputFile? (s : Settings) : Option Text :=
  if s.input = [] ∨ s.input = Text.ofString "-" then none else some s.input

def inputName (s : Settings) : Text := s.inputFile?.getD "stdin"

def rules (s : Settings) : List TypeRule := (TypeRule.ofReplacements (Replacement.table s.types)).toList

def target? (s : Settings) : Option Target :=
  -- no format means PHP
  if s.format = [] ∨ s.format = Text.ofString "php" then some (.php s.rules)
  else if s.format = Text.ofString "go" then some (.go ⟨s.rules ++ [.builtins], s.goPackage⟩)
  else if s.format = Text.ofString "yaml" then some .yaml
  else none

def job? (s : Settings) : Option Job := s.target?.map fun target => ⟨target, .standard, s.outDir, s.inherited⟩

def prepare (s : Settings) : Except RunError (Selection × Job) :=
  match Selection.ofTexts s.only with
  | .error e => .error (.pattern e)
  | .ok selection =>
    match s.job? with
    | none => .error (.format s.format)
    | some job => .ok (selection, job)

def chosen (s : Settings) (select : Catalogue → List Structure) (r : Outline.Reading) :
    Except RunError (List Structure) :=
  -- in strict settings there must not be a complaint
  if s.strict && r.hasComplaints then .error (.complaints s.inputName r.diagnostics.length)
  else
    match select r.catalogue with
    | [] => .error (.nothing s.inputName)
    | structures => .ok structures

end Settings

/-! ## Running -/

structure Outcome (σ : Type) where
  log : List LogEntry
  state : σ
  result : Except RunError Unit

namespace Settings

variable {δ σ : Type}

def plan (s : Settings) (select : Catalogue → List Structure) (press : Press δ) (source : Text) :
    List LogEntry × Except RunError (List PlannedFile) :=
  let r := Outline.read source
  (r.log s.inputName,
    (s.chosen select r).map fun structures => press.plan s.inherited structures (some r.catalogue))

section
variable {m : Type → Type} [Monad m] (s : Settings) (note : LogEntry → m Unit)
  (write : σ → Text → Text → m (Except Text σ)) (st : σ)

/-- A run on the text of an input: everything is logged before the first file is written. -/
def processM (select : Catalogue → List Structure) (press : Press δ) (source : Text) : m (Outcome σ) := do
  let (log, planned) := s.plan select press source
  log.forM note
  match planned with
  | .error e => return ⟨log, st, .error e⟩
  | .ok files =>
    match ← deliverM write st files with
    | (st, .ok ()) => return ⟨log, st, .ok ()⟩
    | (st, .error e) => return ⟨log, st, .error (.generation e)⟩

/-- A run with what it takes, what makes its files and what writes them. The input is a text, or the reason why there is
none. -/
def runWithM (select : Catalogue → List Structure) (press : Press δ) (source : m (Except DiskError Text)) :
    m (Outcome σ) := do
  match ← source with
  | .error e => return ⟨[], st, .error (.input e)⟩
  | .ok source => s.processM note write st select press source

def runM (source : m (Except DiskError Text)) : m (Outcome σ) :=
  match s.prepare with
  | .error e => return ⟨[], st, .error e⟩
  | .ok (selection, job) => s.runWithM note write st selection.select job.press source

end

/-! The same runs with a writer that is a function. -/

section
variable (s : Settings) (select : Catalogue → List Structure) (press : Press δ)
  (write : σ → Text → Text → Except Text σ) (st : σ)

def process (source : Text) : Outcome σ := s.processM (m := Id) (fun _ => ()) write st select press source

theorem process_eq (source : Text) :
    s.process select press write st source =
      match s.plan select press source with
      | (log, .error e) => ⟨log, st, .error e⟩
      | (log, .ok files) =>
        match deliver write st files with
        | (st, .ok ()) => ⟨log, st, .ok ()⟩
        | (st, .error e) => ⟨log, st, .error (.generation e)⟩ := by
  unfold process processM
  rcases s.plan select press source with ⟨log, _ | files⟩
  · rfl
  · rfl

def runWith (source : Except DiskError Text) : Outcome σ :=
  s.runWithM (m := Id) (fun _ => ()) write st select press source

end

def run (s : Settings) (write : σ → Text → Text → Except Text σ) (st : σ) (source : Except DiskError Text) : Outcome σ :=
  s.runM (m := Id) (fun _ => ()) write st source

end Settings

/-! ## Sessions -/

structure Output where
  disk : Disk := {}
  stdout : Text := []

def Output.write (outDir : Text) (o : Output) (path text : Text) : Except Text Output :=
  -- without a folder files go to the standard output, one after the other
  if outDir = [] then .ok { o with stdout := o.stdout ++ text }
  else
    match o.disk.write path text with
    | .ok disk => .ok { o with disk }
    | .error e => .error e.message

def Settings.runOn (s : Settings) (disk : Disk) (stdin : Text) : Outcome Output :=
  let source := match s.inputFile? with
    | none => .ok stdin
    | some path => disk.find.read path
  s.run (Output.write s.outDir) { disk } source

structure Transcript where
  failed : Bool := false
  output : Output
  stderr : Text := []
  log : List LogEntry := []

def fatal (message : Text) : LogEntry := { level := .fatal, message }

def SettingsError.stderr : SettingsError → Text
  | .flags .help => Flags.usage
  | _ => []

def versionText : Text := "dev\n"

-- only verbose settings show what is logged for debugging
def Settings.shows (s : Settings) (e : LogEntry) : Bool := s.verbose || e.level ≠ .debug

def session (words : List Text) (env : Key → Text) (disk : Disk) (stdin : Text) : Transcript :=
  match Invocation.read words env disk.find with
  | .error e => { failed := true, output := { disk }, stderr := e.stderr, log := [fatal e.message] }
  | .ok ⟨_, none⟩ => { output := { disk, stdout := versionText } }
  | .ok ⟨_, some s⟩ =>
    let o := s.runOn disk stdin
    let log := o.log.filter s.shows
    match o.result with
    | .ok () => { output := o.state, log }
    | .error e => { failed := true, output := o.state, log := log ++ [fatal e.message] }

end Stencil
