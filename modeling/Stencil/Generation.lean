import Stencil.Declaration.Layout
import Stencil.Target

/-!
# Generation

A run plans one file for every structure it was given, and delivers the files in order. It stops at the first file that
cannot be finished or written, and keeps what it wrote before.
-/

namespace Stencil

inductive GenerationError where
  | nothing
  | unformatted (name : QName)
  | unwritten (name : QName) (cause : Text)
deriving DecidableEq

def GenerationError.message : GenerationError → Text
  | .nothing => "no structures to generate"
  | .unformatted name => "format " ++ name.dotted
  | .unwritten name cause => "write " ++ name.dotted ++ ": " ++ cause

structure PlannedFile where
  name : QName
  path : Text
  text : Option Text
deriving DecidableEq

/-- What is known in a run: the structures it writes are known to each other, and the catalogue only if methods are
inherited. -/
def Scope.ofRun (inherited : Bool) (structures : List Structure) (c : Option Catalogue) : Scope where
  selected := some (.ofList structures)
  inherited := if inherited then c else none

/-- What makes files of structures: where the file of a structure stands, its draft, and the text that a draft becomes at
a path, unless it cannot be finished. -/
structure Press (δ : Type) where
  path : Structure → Text
  draft : Scope → Structure → δ
  finish : Text → δ → Option Text

def Press.plan {δ : Type} (press : Press δ) (inherited : Bool) (structures : List Structure) (c : Option Catalogue) :
    List PlannedFile :=
  let scope := Scope.ofRun inherited structures c
  structures.map fun s => ⟨s.name, press.path s, press.finish (press.path s) (press.draft scope s)⟩

inductive Draft where
  | text (t : Text)
  | go (f : Go.File)

def Target.draft : Target → Scope → Structure → Draft
  | .go o, scope, s => .go (Go.File.of o scope s)
  | target, scope, s => .text (target.render scope (.structure s))

abbrev Formatter := Text → Go.File → Option Text

def Formatter.plain : Formatter := fun _ f => some f.text

def Formatter.standard : Formatter := fun _ f => Declaration.format? f

-- only Go files are laid out anew
def Draft.finish? (format : Formatter) (path : Text) : Draft → Option Text
  | .text t => some t
  | .go f => format path f

structure Job where
  target : Target
  format : Formatter
  /-- An empty directory means that paths are used as they are. -/
  outDir : Text
  inherited : Bool

namespace Job

def scope (job : Job) (structures : List Structure) (c : Option Catalogue) : Scope :=
  .ofRun job.inherited structures c

def path (job : Job) (s : Structure) : Text :=
  if job.outDir = [] then job.target.path s else FilePath.join [job.outDir, job.target.path s]

def finish (job : Job) (scope : Scope) (s : Structure) : Option Text :=
  (job.target.draft scope s).finish? job.format (job.path s)

def press (job : Job) : Press Draft where
  path := job.path
  draft := job.target.draft
  finish path d := d.finish? job.format path

def plan (job : Job) (structures : List Structure) (c : Option Catalogue) : List PlannedFile :=
  job.press.plan job.inherited structures c

@[simp] theorem plan_press (job : Job) (inherited : Bool) (structures : List Structure) (c : Option Catalogue) :
    job.press.plan inherited structures c =
      structures.map fun s => ⟨s.name, job.path s, job.finish (.ofRun inherited structures c) s⟩ := rfl

end Job

/-! ## Delivery -/

section
variable {σ : Type} {m : Type → Type} [Monad m]

/-- Hands the files over one by one. The writer's state shows what was written, and nothing follows a failure. -/
def deliverM (write : σ → Text → Text → m (Except Text σ)) :
    σ → List PlannedFile → m (σ × Except GenerationError Unit)
  | st, [] => return (st, .ok ())
  | st, f :: fs =>
    match f.text with
    | none => return (st, .error (.unformatted f.name))
    | some text => do
      match ← write st f.path text with
      | .error cause => return (st, .error (.unwritten f.name cause))
      | .ok st => deliverM write st fs

end

section
variable {σ : Type} (write : σ → Text → Text → Except Text σ)

def deliver : σ → List PlannedFile → σ × Except GenerationError Unit := deliverM (m := Id) write

theorem deliver_nil (st : σ) : deliver write st [] = (st, .ok ()) := rfl

theorem deliver_cons (st : σ) (f : PlannedFile) (fs : List PlannedFile) :
    deliver write st (f :: fs) =
      match f.text with
      | none => (st, .error (.unformatted f.name))
      | some text =>
        match write st f.path text with
        | .error cause => (st, .error (.unwritten f.name cause))
        | .ok st => deliver write st fs := by
  rw [deliver, deliverM]
  cases f.text <;> rfl

end

def generate {σ : Type} (job : Job) (write : σ → Text → Text → Except Text σ) (st : σ) (structures : List Structure)
    (c : Option Catalogue) : σ × Except GenerationError Unit :=
  -- there has to be a structure
  if structures.isEmpty then (st, .error .nothing) else deliver write st (job.plan structures c)

end Stencil
