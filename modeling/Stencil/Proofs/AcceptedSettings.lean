import Mathlib.Control.Monad.Basic
import Stencil.Proofs.Names
import Stencil.Proofs.TypeMappings
import Stencil.Run

/-!
# Settings that were accepted

Whatever the readers of flags, variables and files answer, settings come out only if their format is known and their
type mappings name types, and patterns come out one by one.
-/

namespace Stencil

namespace Answers

/-! ## Patterns -/

theorem of_mem_listed {t p : Text} (h : p ∈ listed t) :
    p ≠ [] ∧ .char ',' ∉ p ∧ ∀ g, p.head? = some g ∨ p.getLast? = some g → g.isSpace = false := by
  obtain ⟨hpart, hne⟩ := List.mem_filter.1 h
  obtain ⟨part, hsplit, rfl⟩ := List.mem_map.1 hpart
  refine ⟨by simpa using hne, ?_, ?_⟩
  · intro hcomma
    have hsep := (Text.of_mem_splitBy hsplit (Text.mem_of_mem_trim hcomma)).2
    simp at hsep
  · intro g hg
    rcases hg with hg | hg
    · exact Text.head?_trim hg
    · exact Text.getLast?_trim hg

theorem exists_listed_of_mem_only {a : Answers} {f : Flags} {p : Text} (h : p ∈ a.only f) : ∃ t, p ∈ listed t := by
  unfold only at h
  split at h
  · exact ⟨_, h⟩
  · obtain ⟨t, -, ht⟩ := List.mem_flatMap.1 h
    exact ⟨t, ht⟩

/-! ## Type mappings and format -/

theorem source_of_checkSources {types : List Replacement} (h : checkSources types = .ok ()) :
    ∀ r ∈ types, r.source.trim ≠ [] := by
  unfold checkSources at h
  cases hfind : types.find? fun r => r.source.trim = [] with
  | none => simpa using hfind
  | some r => simp [hfind] at h

theorem source_of_mappings {a : Answers} {f : Flags} {types : List Replacement} (h : a.mappings f = .ok types) :
    ∀ r ∈ types, r.source.trim ≠ [] := by
  unfold mappings at h
  cases hown : a.types with
  | error e => simp [hown, bind, Except.bind] at h
  | ok own =>
    cases hcheck : checkSources (own ++ f.mappings) with
    | error e => simp [hown, hcheck, bind, Except.bind] at h
    | ok u =>
      simp [hown, hcheck, bind, Except.bind] at h
      exact h ▸ source_of_checkSources hcheck

theorem of_settings_eq_ok {a : Answers} {f : Flags} {s : Settings} (h : a.settings f = .ok s) :
    a.mappings f = .ok s.types ∧ s.format ∈ formats ∧ s.only = a.only f := by
  unfold settings at h
  cases htypes : a.mappings f with
  | error e => simp [htypes, bind, Except.bind] at h
  | ok types =>
    by_cases hformat : a.format ∈ formats
    · simp [htypes, bind, Except.bind, hformat] at h
      subst h
      exact ⟨rfl, hformat, rfl⟩
    · simp [htypes, bind, Except.bind, hformat] at h

end Answers

theorem Readers.of_read_eq_ok {r : Readers} {words : List Text} {env : Key → Text} {find : Lookup} {config : Text}
    {s : Settings} (h : r.read words env find = .ok ⟨config, some s⟩) :
    ∃ flags answers, r.flags words = .ok flags ∧ r.answers flags env find = .ok answers ∧
      answers.settings flags = .ok s := by
  unfold read at h
  cases hflags : r.flags words with
  | error e => simp [hflags] at h
  | ok flags =>
    simp only [hflags] at h
    split at h
    · cases h
    · split at h
      · cases h
      · cases hanswers : r.answers flags env find with
        | error e => simp [hanswers] at h
        | ok answers =>
          cases hsettings : answers.settings flags with
          | error e => simp [hanswers, hsettings, Except.map] at h
          | ok settings =>
            simp only [hanswers, hsettings, Except.map, Except.ok.injEq, Invocation.mk.injEq, Option.some.injEq] at h
            exact ⟨flags, answers, rfl, hanswers, h.2 ▸ hsettings⟩

/-- The formats of the settings are those that there are targets for. -/
theorem Settings.exists_job {s : Settings} (h : s.format ∈ Answers.formats) : ∃ job, s.job? = some job := by
  simp only [Answers.formats, List.mem_cons, List.not_mem_nil, or_false] at h
  unfold job? target?
  rcases h with h | h | h <;> rw [h] <;> exact ⟨_, rfl⟩

/-- A table in which every replacement is for some type replaces no type without a name. -/
theorem TypeRule.resolveIn_of_text_nil {rs order : List Replacement} (h : ∀ r ∈ rs, r.subject ≠ [])
    (horder : order.Perm (Replacement.table rs)) (others : List TypeRule) {t : TypeRef} (ht : t.text = []) :
    resolveIn order others t = resolve others t := by
  have hnone : (order.reverse.find? fun r => r.subject = t.text) = none := by
    apply List.find?_eq_none.2
    intro r hr
    have hmem : r ∈ rs := Replacement.mem_of_mem_table (horder.mem_iff.1 (List.mem_reverse.1 hr))
    simpa [ht] using h r hmem
  rw [resolveIn_eq, Replacement.lastCounts, hnone]

/-- Settings that were accepted have a format that there is a target for, patterns that are not empty and have neither
commas nor white space around them, and type mappings whose sources are names. No type without a name is replaced by
them, in whatever order the table of the mappings is visited. -/
theorem accepted_settings_well_formed (readers : Readers) (words : List Text) (env : Key → Text) (find : Lookup)
    (config : Text) (s : Settings) (h : readers.read words env find = .ok ⟨config, some s⟩) :
    (s.format ∈ [Text.ofString "php", Text.ofString "go", Text.ofString "yaml"] ∧ ∃ job, s.job? = some job) ∧
      (∀ p ∈ s.only, p ≠ [] ∧ .char ',' ∉ p ∧ ∀ g, p.head? = some g ∨ p.getLast? = some g → g.isSpace = false) ∧
      (∀ r ∈ s.types, (QName.ofText r.source).dotted ≠ []) ∧
      ∀ order : List Replacement, order.Perm (Replacement.table s.types) →
        ∀ (others : List TypeRule) (t : TypeRef), t.text = [] →
          TypeRule.resolveIn order others t = TypeRule.resolve others t := by
  obtain ⟨flags, answers, -, -, hsettings⟩ := Readers.of_read_eq_ok h
  obtain ⟨htypes, hformat, honly⟩ := Answers.of_settings_eq_ok hsettings
  have hsources : ∀ r ∈ s.types, (QName.ofText r.source).dotted ≠ [] := fun r hr =>
    QName.dotted_ofText_ne_nil (Answers.source_of_mappings htypes r hr)
  refine ⟨⟨hformat, Settings.exists_job hformat⟩, ?_, hsources, ?_⟩
  · intro p hp
    rw [honly] at hp
    obtain ⟨t, ht⟩ := Answers.exists_listed_of_mem_only hp
    exact Answers.of_mem_listed ht
  · intro order horder others t ht
    exact TypeRule.resolveIn_of_text_nil hsources horder others ht

/-- The flags of a command line that names a file, and the file, are read into settings that were accepted. -/
theorem named_file_accepted :
    let words : List Text := ["-c", "p.json", "--type", "a/B= C "]
    let find : Lookup := fun path =>
      if path = Text.ofString "p.json" then
        .ok (.file ("\x7b\"format\": \" Go \", \"only\": [\"x, y.*\", \" \"]," ++
          " \"types\": [\x7b\"from\": \" Clock \", \"to\": \"T\"\x7d]\x7d"))
      else .error .missing
    let s : Settings :=
      { format := "go", only := ["x", "y.*"], types := [⟨" Clock ", "T"⟩, ⟨"a/B", "C"⟩] }
    Readers.standard.read words (fun _ => []) find = .ok ⟨"p.json", some s⟩ ∧ (∃ job, s.job? = some job) ∧
      TypeRule.resolve s.rules (.named (.ofText [])) = .type (.named (.ofText [])) := by
  intro words find s
  have hread : Readers.standard.read words (fun _ => []) find = .ok ⟨"p.json", some s⟩ := by decide +kernel
  obtain ⟨⟨-, hjob⟩, -, -, hempty⟩ := accepted_settings_well_formed Readers.standard words _ find _ s hread
  refine ⟨hread, hjob, ?_⟩
  have hrules := hempty (Replacement.table s.types) (.refl _) [] (.named (.ofText [])) (by decide)
  rw [TypeRule.resolveIn, List.append_nil] at hrules
  exact hrules

end Stencil
