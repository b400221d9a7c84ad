import Stencil.Generation
import Stencil.Outline.Reading
import Stencil.Selection

/-!
# What a run writes

The files of a run as they reach a writer that refuses nothing: one for every selected structure, in the order of the
selection.
-/

namespace Stencil

def record (written : List (Text × Text)) (path text : Text) : Except Text (List (Text × Text)) :=
  .ok (written ++ [(path, text)])

def Job.written (job : Job) (sel : Selection) (source : Text) : List (Text × Text) × Except GenerationError Unit :=
  let c := (Outline.read source).catalogue
  generate job record [] (sel.select c) (some c)

-- only Go files are laid out anew
def Job.IsPlain (job : Job) : Prop := job.format = .plain ∨ ∀ o, job.target ≠ .go o

theorem Job.finish_of_isPlain {job : Job} (h : job.IsPlain) (scope : Scope) (s : Structure) :
    job.finish scope s = some (job.target.render scope (.structure s)) := by
  unfold finish
  cases ht : job.target with
  | php rules => rfl
  | yaml => rfl
  | go o =>
    rcases h with hplain | hother
    · rw [hplain]
      rfl
    · exact absurd ht (hother o)

theorem deliver_record {path text : Structure → Text} (structures : List Structure) (st : List (Text × Text)) :
    deliver record st (structures.map fun s => ⟨s.name, path s, some (text s)⟩) =
      (st ++ structures.map fun s => (path s, text s), .ok ()) := by
  induction structures generalizing st with
  | nil => simp [deliver_nil]
  | cons s structures ih =>
    simp only [List.map_cons, deliver_cons, record]
    rw [ih]
    simp

/-- Nothing is left out and nothing comes twice. A run that has nothing to write says so. -/
theorem Job.written_of_isPlain {job : Job} (h : job.IsPlain) (sel : Selection) (source : Text) :
    let c := (Outline.read source).catalogue
    job.written sel source =
      ((sel.select c).map fun s =>
          (job.path s, job.target.render (job.scope (sel.select c) (some c)) (.structure s)),
        if sel.select c = [] then .error .nothing else .ok ()) := by
  intro c
  unfold written generate plan
  simp only [plan_press, finish_of_isPlain h, deliver_record, List.nil_append, List.isEmpty_iff]
  split
  · rename_i hnone
    rw [hnone]
    rfl
  · rfl

end Stencil
