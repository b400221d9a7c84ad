import Mathlib.Data.List.Basic
import Stencil.Proofs.Delivery

/-!
# PHP and YAML files are local

The file of a structure shows the structure and the methods of its supertypes, and nothing else. Which structures are
selected with it does not matter, nor what else the catalogue holds, so that a run with patterns writes a part of what
a run without patterns writes.
-/

namespace Stencil

def Scope.methods? (scope : Scope) (q : QName) : Option (List Method) :=
  (scope.inherited.bind (·.get? q)).map Structure.methods

theorem Scope.methods?_some {scope : Scope} {c : Catalogue} (h : scope.inherited = some c) (q : QName) :
    scope.methods? q = (c.get? q).map Structure.methods := by
  unfold methods?
  rw [h]
  rfl

theorem Scope.methods?_none {scope : Scope} (h : scope.inherited = none) (q : QName) : scope.methods? q = none := by
  unfold methods?
  rw [h]
  rfl

theorem Structure.methodsIn_eq (s : Structure) (scope : Scope) :
    s.methodsIn scope.inherited = s.methods ++ (s.supertypes.filterMap scope.methods?).flatten := by
  unfold methodsIn
  cases hc : scope.inherited with
  | none =>
    have hnone : s.supertypes.filterMap scope.methods? = [] :=
      List.filterMap_eq_nil_iff.2 fun q _ => Scope.methods?_none hc q
    simp [hnone]
  | some c =>
    have hfind : scope.methods? = fun q => (c.get? q).map Structure.methods :=
      funext fun q => Scope.methods?_some hc q
    rw [hfind, ← List.map_filterMap]
    rfl

section
variable {s : Structure} {a b : Scope} (h : ∀ q ∈ s.supertypes, a.methods? q = b.methods? q)
include h

theorem Structure.methodsIn_congr : s.methodsIn a.inherited = s.methodsIn b.inherited := by
  rw [methodsIn_eq, methodsIn_eq, List.filterMap_congr h]

theorem Target.render_congr_of_local {target : Target} (htarget : ∀ o, target ≠ .go o) :
    target.render a (.structure s) = target.render b (.structure s) := by
  have hmethods := Structure.methodsIn_congr h
  cases target with
  | go o => exact absurd rfl (htarget o)
  | php rules =>
    simp only [render, Php.render, Php.file]
    rw [hmethods]
  | yaml =>
    simp only [render, Yaml.render, Yaml.StructureRecord.of]
    rw [hmethods]

end

/-- The file of a structure, in PHP and as a document, depends on the methods that are known for its supertypes, and not
on what else is selected or known. Supertypes that are not known count as if there were no catalogue. A run with
patterns therefore writes the files of the structures it selects just as they are written without patterns. -/
theorem output_local (job : Job) (hjob : ∀ o, job.target ≠ .go o) :
    let text (scope : Scope) (s : Structure) := job.target.render scope (.structure s)
    (∀ s a b, a.inherited = b.inherited → text a s = text b s) ∧
      (∀ s a b c c', a.inherited = some c → b.inherited = some c' →
        (∀ q ∈ s.supertypes, (c.get? q).map Structure.methods = (c'.get? q).map Structure.methods) →
        text a s = text b s) ∧
      (∀ s a b c, a.inherited = some c → b.inherited = none → (∀ q ∈ s.supertypes, c.get? q = none) →
        text a s = text b s) ∧
      ∀ source patterns sel, Selection.ofTexts patterns = .ok sel →
        let c := (Outline.read source).catalogue
        let file (s : Structure) := (job.path s, text { inherited := if job.inherited then some c else none } s)
        sel.select c ≠ [] →
          job.written ⟨[]⟩ source = (c.entries.map file, .ok ()) ∧
          job.written sel source = ((sel.select c).map file, .ok ()) ∧
          sel.select c = c.entries.filter fun s => sel.patterns.isEmpty || sel.accepts s := by
  intro text
  have hcongr : ∀ s a b, (∀ q ∈ s.supertypes, a.methods? q = b.methods? q) → text a s = text b s :=
    fun s a b h => Target.render_congr_of_local h hjob
  have hselected : ∀ s a b, a.inherited = b.inherited → text a s = text b s := by
    intro s a b h
    apply hcongr
    intro q _
    unfold Scope.methods?
    rw [h]
  refine ⟨hselected, ?_, ?_, ?_⟩
  · intro s a b c c' ha hb hmethods
    apply hcongr
    intro q hq
    rw [Scope.methods?_some ha, Scope.methods?_some hb, hmethods q hq]
  · intro s a b c ha hb hnone
    apply hcongr
    intro q hq
    rw [Scope.methods?_some ha, Scope.methods?_none hb, hnone q hq]
    rfl
  · intro source patterns sel _ c file hne
    have hfiles : ∀ structures : List Structure,
        (structures.map fun s => (job.path s, text (job.scope structures (some c)) s)) = structures.map file :=
      fun structures => List.map_congr_left fun s _ => congrArg _ (hselected s _ _ rfl)
    have hall : Selection.select ⟨[]⟩ c = c.entries := rfl
    have hentries : c.entries ≠ [] := by
      rintro hnil
      rw [Selection.select_eq_filter, hnil] at hne
      exact hne rfl
    refine ⟨?_, ?_, sel.select_eq_filter c⟩
    · rw [Job.written_of_isPlain (.inr hjob), hall, if_neg hentries, hfiles]
    · rw [Job.written_of_isPlain (.inr hjob), if_neg hne, hfiles]

def chain : Text :=
  "class a.A extends a.B\n  void run()\nclass a.B extends a.C\n  void stop()\nclass a.C\n  a.A next()"

/-- The class in the middle, selected alone, shows what it inherits from the last one as it does among all. -/
theorem chain_middle_written :
    let job : Job := ⟨.php [], .standard, "out", true⟩
    let middle : Selection := ⟨[⟨[.literal 'B'], []⟩]⟩
    let c := (Outline.read chain).catalogue
    (∀ o, job.target ≠ .go o) ∧ Selection.ofTexts [Text.ofString "B"] = .ok middle ∧ middle.select c ≠ [] ∧
      (job.written middle chain).1 = ((job.written ⟨[]⟩ chain).1.drop 1).take 1 := by
  intro job middle c
  have hjob : ∀ o, job.target ≠ .go o := by simp [job]
  have haccepted : Selection.ofTexts [Text.ofString "B"] = .ok middle := by cbv
  have hmiddle : middle.select c = (c.entries.drop 1).take 1 := by decide +kernel
  have hne : middle.select c ≠ [] := by decide +kernel
  obtain ⟨hall, hpart, _⟩ := (output_local job hjob).2.2.2 chain _ middle haccepted hne
  refine ⟨hjob, haccepted, hne, ?_⟩
  rw [hall, hpart, hmiddle, List.map_take, List.map_drop]

end Stencil
