import Stencil.Proofs.Locality
import Stencil.Run

/-!
# What a run leaves behind

A run that cannot read its input, that must not go on, or that has nothing to do writes nothing. Any other run writes
its files in order, up to the first that cannot be finished or that the writer refuses.
-/

namespace Stencil

variable {δ σ τ : Type}

section
variable (write : σ → Text → Text → Except Text σ)

/-- All planned files are finished, and the writer takes them one after the other: the files as they are written, and
the state of the writer after them. -/
inductive Written : σ → List PlannedFile → List (Text × Text) → σ → Prop
  | nil (st : σ) : Written st [] [] st
  | cons {st next last : σ} {f : PlannedFile} {text : Text} {planned : List PlannedFile} {files : List (Text × Text)} :
      f.text = some text → write st f.path text = .ok next → Written next planned files last →
      Written st (f :: planned) ((f.path, text) :: files) last

/-- Why a file is not written: its text cannot be finished, or the writer refuses it. -/
inductive Refused (st : σ) (f : PlannedFile) : GenerationError → Prop
  | unformatted : f.text = none → Refused st f (.unformatted f.name)
  | unwritten {text cause : Text} : f.text = some text → write st f.path text = .error cause →
      Refused st f (.unwritten f.name cause)

/-- The first failure among planned files: the files before it are written, and it is refused after them. -/
def FirstFailure (st : σ) (planned : List PlannedFile) (files : List (Text × Text)) (last : σ)
    (e : GenerationError) : Prop :=
  ∃ above f below, planned = above ++ f :: below ∧ Written write st above files last ∧ Refused write last f e

end

/-! ## Delivering -/

section
variable {write : σ → Text → Text → Except Text σ}

theorem deliver_written {st last : σ} {planned : List PlannedFile} {files : List (Text × Text)}
    (h : Written write st planned files last) (rest : List PlannedFile) :
    deliver write st (planned ++ rest) = deliver write last rest := by
  induction h with
  | nil st => rfl
  | cons htext hwrite _ ih => simp only [List.cons_append, deliver_cons, htext, hwrite, ih]

theorem deliver_refused {st : σ} {f : PlannedFile} {e : GenerationError} (h : Refused write st f e)
    (rest : List PlannedFile) : deliver write st (f :: rest) = (st, .error e) := by
  cases h with
  | unformatted htext => simp only [deliver_cons, htext]
  | unwritten htext hwrite => simp only [deliver_cons, htext, hwrite]

theorem deliver_of_written {st last : σ} {planned : List PlannedFile} {files : List (Text × Text)}
    (h : Written write st planned files last) : deliver write st planned = (last, .ok ()) := by
  have hall := deliver_written h []
  rw [List.append_nil] at hall
  exact hall

theorem deliver_of_firstFailure {st last : σ} {planned : List PlannedFile} {files : List (Text × Text)}
    {e : GenerationError} (h : FirstFailure write st planned files last e) :
    deliver write st planned = (last, .error e) := by
  obtain ⟨above, f, below, rfl, hwritten, hrefused⟩ := h
  rw [deliver_written hwritten, deliver_refused hrefused]

variable (write) in
theorem written_or_firstFailure (st : σ) (planned : List PlannedFile) :
    (∃ files last, Written write st planned files last) ∨
      ∃ files last e, FirstFailure write st planned files last e := by
  induction planned generalizing st with
  | nil => exact .inl ⟨[], st, .nil st⟩
  | cons f planned ih =>
    have hstop : ∀ {e}, Refused write st f e → ∃ files last e, FirstFailure write st (f :: planned) files last e :=
      fun hrefused => ⟨[], st, _, [], f, planned, rfl, .nil st, hrefused⟩
    cases htext : f.text with
    | none => exact .inr (hstop (.unformatted htext))
    | some text =>
      cases hwrite : write st f.path text with
      | error cause => exact .inr (hstop (.unwritten htext hwrite))
      | ok next =>
        rcases ih next with ⟨files, last, hwritten⟩ | ⟨files, last, e, above, f', below, rfl, hwritten, hrefused⟩
        · exact .inl ⟨_, last, .cons htext hwrite hwritten⟩
        · exact .inr ⟨_, last, e, f :: above, f', below, rfl, .cons htext hwrite hwritten, hrefused⟩

end

/-! ## Files of the same structures -/

theorem Written.finished {write : σ → Text → Text → Except Text σ} {st last : σ} {planned : List PlannedFile}
    {files : List (Text × Text)} (h : Written write st planned files last) :
    planned.map (fun f => f.text.map fun text => (f.path, text)) = files.map some := by
  induction h with
  | nil st => rfl
  | cons htext _ _ ih => simp [htext, ih]

/-- What is made of the first elements does not change when more of them can be made. -/
theorem prefix_of_extends {α β : Type} {g g' : α → Option β} (h : ∀ a b, g a = some b → g' a = some b) {l : List α}
    {bs bs' : List β} {rest : List (Option β)} (hg : l.map g = bs.map some ++ rest) (hg' : l.map g' = bs'.map some) :
    bs <+: bs' := by
  induction bs generalizing l bs' with
  | nil => exact List.nil_prefix
  | cons b bs ih =>
    cases l with
    | nil => simp at hg
    | cons a l =>
      rw [List.map_cons, List.map_cons, List.cons_append, List.cons.injEq] at hg
      cases bs' with
      | nil => simp at hg'
      | cons b' bs' =>
        rw [List.map_cons, List.map_cons, List.cons.injEq, h a b hg.1, Option.some.injEq] at hg'
        rw [hg'.1, List.prefix_cons_inj]
        exact ih hg.2 hg'.2

/-- The files before a failure are the same where more drafts can be finished. -/
theorem prefix_of_firstFailure {press : Press δ} {finish : Text → δ → Option Text}
    (hfinish : ∀ path d text, press.finish path d = some text → finish path d = some text)
    {inherited : Bool} {structures : List Structure} {c : Option Catalogue}
    {write : σ → Text → Text → Except Text σ} {st last : σ} {files : List (Text × Text)} {e : GenerationError}
    (h : FirstFailure write st (press.plan inherited structures c) files last e)
    {write' : τ → Text → Text → Except Text τ} {st' last' : τ} {files' : List (Text × Text)}
    (h' : Written write' st' (Press.plan { press with finish } inherited structures c) files' last') :
    files <+: files' := by
  obtain ⟨above, f, below, hplan, hwritten, _⟩ := h
  have hfiles := congrArg (List.map fun f : PlannedFile => f.text.map fun text => (f.path, text)) hplan
  rw [List.map_append, hwritten.finished] at hfiles
  have hfiles' := h'.finished
  simp only [Press.plan, List.map_map] at hfiles hfiles'
  refine prefix_of_extends ?_ hfiles hfiles'
  intro s file hfile
  simp only [Function.comp_apply, Option.map_eq_some_iff] at hfile ⊢
  obtain ⟨text, htext, rfl⟩ := hfile
  exact ⟨text, hfinish _ _ _ htext, rfl⟩

/-! ## Runs -/

namespace Settings

section
variable (s : Settings) (select : Catalogue → List Structure)

theorem chosen_strict {r : Outline.Reading} (hstrict : s.strict = true) (h : r.diagnostics ≠ []) :
    s.chosen select r = .error (.complaints s.inputName r.diagnostics.length) := by
  simp [chosen, Outline.Reading.hasComplaints, hstrict, h]

theorem chosen_of_allowed {r : Outline.Reading} (h : s.strict = true → r.diagnostics = []) :
    s.chosen select r =
      if select r.catalogue = [] then .error (.nothing s.inputName) else .ok (select r.catalogue) := by
  have hgo : (s.strict && r.hasComplaints) = false := by
    cases hs : s.strict with
    | false => rfl
    | true => simp [Outline.Reading.hasComplaints, h hs]
  unfold chosen
  rw [hgo]
  cases select r.catalogue <;> simp

end

section
variable {s : Settings} {select : Catalogue → List Structure} {source : Text} {press : Press δ}
  {write : σ → Text → Text → Except Text σ} {st : σ}

theorem process_of_error {e : RunError} (h : s.chosen select (Outline.read source) = .error e) :
    (s.process select press write st source).result = .error e ∧
      (s.process select press write st source).state = st := by
  simp [process_eq, plan, h, Except.map]

variable {structures : List Structure} (hchosen : s.chosen select (Outline.read source) = .ok structures)
include hchosen

theorem process_of_deliver {last : σ} {result : Except GenerationError Unit}
    (h : deliver write st (press.plan s.inherited structures (some (Outline.read source).catalogue)) = (last, result)) :
    (s.process select press write st source).result = result.mapError .generation ∧
      (s.process select press write st source).state = last := by
  simp only [process_eq, plan, hchosen, Except.map, h]
  cases result with
  | ok done => exact ⟨rfl, rfl⟩
  | error e => exact ⟨rfl, rfl⟩

theorem process_of_written {files : List (Text × Text)} {last : σ}
    (h : Written write st (press.plan s.inherited structures (some (Outline.read source).catalogue)) files last) :
    (s.process select press write st source).result = .ok () ∧
      (s.process select press write st source).state = last :=
  process_of_deliver hchosen (deliver_of_written h)

theorem process_of_firstFailure {files : List (Text × Text)} {last : σ} {e : GenerationError}
    (h : FirstFailure write st (press.plan s.inherited structures (some (Outline.read source).catalogue)) files last e) :
    (s.process select press write st source).result = .error (.generation e) ∧
      (s.process select press write st source).state = last :=
  process_of_deliver hchosen (deliver_of_firstFailure h)

theorem written_of_process (h : (s.process select press write st source).result = .ok ()) :
    ∃ files, Written write st (press.plan s.inherited structures (some (Outline.read source).catalogue)) files
      (s.process select press write st source).state := by
  rcases written_or_firstFailure write st
    (press.plan s.inherited structures (some (Outline.read source).catalogue)) with
    ⟨files, last, hwritten⟩ | ⟨files, last, e, hfailure⟩
  · rw [(process_of_written hchosen hwritten).2]
    exact ⟨files, hwritten⟩
  · rw [(process_of_firstFailure hchosen hfailure).1] at h
    cases h

theorem firstFailure_of_process {e : RunError} (h : (s.process select press write st source).result = .error e) :
    ∃ files last e,
      FirstFailure write st (press.plan s.inherited structures (some (Outline.read source).catalogue)) files last e := by
  rcases written_or_firstFailure write st
    (press.plan s.inherited structures (some (Outline.read source).catalogue)) with ⟨files, last, hwritten⟩ | hfailure
  · rw [(process_of_written hchosen hwritten).1] at h
    cases h
  · exact hfailure

end

end Settings

/-- A run writes nothing if its input cannot be read, if it is strict and there is a complaint, or if nothing is
selected. Otherwise it fails exactly if there is a first failure among the files of the selected structures; it has
then written the files before, and they are the first of those that a run without the failure writes. A run that does
not fail has written all of them. Whatever is selected, the program's own patterns keep the order of the catalogue. -/
theorem run_writes_up_to_failure (s : Settings) (select : Catalogue → List Structure) (press : Press δ)
    (write : σ → Text → Text → Except Text σ) (st : σ) (source : Except DiskError Text) :
    let o := s.runWith select press write st source
    (∀ e, source = .error e → o.result = .error (.input e) ∧ o.state = st) ∧
      ∀ text, source = .ok text →
        let r := Outline.read text
        let structures := select r.catalogue
        let scope : Scope := ⟨none, some (.ofList structures), if s.inherited then some r.catalogue else none⟩
        let planned (finish : Text → δ → Option Text) : List PlannedFile := structures.map fun x =>
          ⟨x.name, press.path x, finish (press.path x) (press.draft scope x)⟩
        (s.strict = true → r.diagnostics ≠ [] →
          o.result = .error (.complaints s.inputName r.diagnostics.length) ∧ o.state = st) ∧
        ((s.strict = true → r.diagnostics = []) → structures = [] →
          o.result = .error (.nothing s.inputName) ∧ o.state = st) ∧
        ((s.strict = true → r.diagnostics = []) → structures ≠ [] →
          ((∃ e, o.result = .error e) ↔ ∃ files last e, FirstFailure write st (planned press.finish) files last e) ∧
          (∀ files last e, FirstFailure write st (planned press.finish) files last e →
            o.result = .error (.generation e) ∧ o.state = last ∧
            ∀ (finish : Text → δ → Option Text) (τ : Type) (write' : τ → Text → Text → Except Text τ) (st' : τ),
              (∀ path d text, press.finish path d = some text → finish path d = some text) →
              let o' := s.runWith select { press with finish } write' st' source
              o'.result = .ok () →
                ∃ files', Written write' st' (planned finish) files' o'.state ∧ files <+: files') ∧
          (o.result = .ok () → ∃ files, Written write st (planned press.finish) files o.state)) ∧
        ∀ sel : Selection, (sel.select r.catalogue).Sublist r.catalogue.entries := by
  intro o
  refine ⟨?_, ?_⟩
  · rintro e rfl
    exact ⟨rfl, rfl⟩
  · rintro text rfl r structures scope planned
    refine ⟨?_, ?_, ?_, ?_⟩
    · intro hstrict hcomplaints
      exact Settings.process_of_error (s.chosen_strict select hstrict hcomplaints)
    · intro hallowed hnone
      apply Settings.process_of_error
      rw [s.chosen_of_allowed select hallowed, if_pos hnone]
    · intro hallowed hsome
      have hchosen : s.chosen select r = .ok structures := by
        rw [s.chosen_of_allowed select hallowed, if_neg hsome]
      refine ⟨⟨?_, ?_⟩, ?_, Settings.written_of_process hchosen⟩
      · rintro ⟨e, he⟩
        exact Settings.firstFailure_of_process hchosen he
      · rintro ⟨files, last, e, h⟩
        exact ⟨_, (Settings.process_of_firstFailure hchosen h).1⟩
      · intro files last e h
        obtain ⟨hresult, hstate⟩ := Settings.process_of_firstFailure hchosen h
        refine ⟨hresult, hstate, ?_⟩
        intro finish τ write' st' hfinish o' hok
        obtain ⟨files', h'⟩ := Settings.written_of_process hchosen hok
        exact ⟨files', h', prefix_of_firstFailure hfinish h h'⟩
    · intro sel
      rw [sel.select_eq_filter]
      exact List.filter_sublist

example :
    let press : Press Text :=
      ⟨Structure.shortName, fun _ s => s.shortName, fun _ d => if d = Text.ofString "C" then none else some (d ++ d)⟩
    (Settings.runWith {} Catalogue.entries press record [] (.ok "class A\nclass B\nclass C\nclass D")).state =
      [(Text.ofString "A", Text.ofString "AA"), (Text.ofString "B", Text.ofString "BB")] := by
  decide +kernel

end Stencil
