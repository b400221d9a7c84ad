import Mathlib.Data.List.Basic
import Stencil.Generation
import Stencil.Proofs.Casing

/-!
# Where files are written

The files of a run stand in the output directory, under paths that are made of names. A path has not all of the name of
its structure in it, so that two structures may have the same path; `paths_distinct_iff` says exactly when no two have.
-/

namespace Stencil

/-! ## Places of files -/

theorem QName.isPart_segment {q : QName} {t : Text} (ht : t ∈ q.segments) (hne : t ≠ []) : FilePath.IsPart t := by
  have hdot : .char '.' ∉ t := fun hmem => (of_mem_segment ht hmem).1 rfl
  refine ⟨hne, ?_, ?_, ?_⟩
  · rintro rfl
    exact hdot (by decide)
  · rintro rfl
    exact hdot (by decide)
  · intro hmem
    exact absurd (of_mem_segment ht hmem).2 (by decide)

theorem QName.slash_not_mem_shortName (q : QName) : .char '/' ∉ q.shortName := by
  intro hmem
  unfold shortName at hmem
  rw [List.getLastD_eq_getLast?] at hmem
  cases hl : q.segments.getLast? with
  | none =>
    rw [hl] at hmem
    cases hmem
  | some t =>
    rw [hl] at hmem
    exact absurd (of_mem_segment (List.mem_of_getLast? hl) hmem).2 (by decide)

namespace Target

/-- Whether the files of two structures stand in one place. A Go file is known by the lower case of the exported short
name; any other file stands in a directory for every package segment, and empty segments do not count. -/
def SamePlace : Target → Structure → Structure → Prop
  | .go _, s, t => (Go.exported s.shortName).lower = (Go.exported t.shortName).lower
  | _, s, t => s.name.segments.filter (· ≠ []) = t.name.segments.filter (· ≠ [])

theorem nestedPath_eq (s : Structure) (extension : Text) :
    nestedPath s extension = Text.join [.char '/'] (s.name.segments.filter (· ≠ [])) ++ extension := by
  unfold nestedPath
  rw [FilePath.join_segments fun t ht hne => QName.isPart_segment ht hne]

theorem isPart_of_mem_filter {s : Structure} {part : Text} (h : part ∈ s.name.segments.filter (· ≠ [])) :
    FilePath.IsPart part := by
  obtain ⟨hmem, hne⟩ := List.mem_filter.1 h
  exact QName.isPart_segment hmem (by simpa using hne)

theorem isRelative_nestedPath (s : Structure) {extension : Text} (hlen : 2 < extension.length)
    (hslash : .char '/' ∉ extension) : FilePath.IsRelative (nestedPath s extension) := by
  rw [nestedPath_eq]
  exact FilePath.isRelative_append (fun part hp => isPart_of_mem_filter hp) hlen hslash

theorem isPart_fileName (s : Structure) : FilePath.IsPart (Go.fileName s) := by
  apply FilePath.isPart_of_length
  · unfold Go.fileName
    rw [List.length_append]
    exact Nat.lt_of_lt_of_le (by decide : 2 < (Text.ofString ".go").length) (Nat.le_add_left ..)
  · unfold Go.fileName
    rw [List.mem_append, not_or]
    refine ⟨?_, by decide⟩
    exact Text.sign_not_mem_lower (by decide) (Text.sign_not_mem_capitalize (by decide) s.name.slash_not_mem_shortName)

theorem isRelative_path (target : Target) (s : Structure) : FilePath.IsRelative (target.path s) := by
  have hphp : FilePath.IsRelative (nestedPath s ".php") := isRelative_nestedPath s (by decide) (by decide)
  have hyaml : FilePath.IsRelative (nestedPath s ".yaml") := isRelative_nestedPath s (by decide) (by decide)
  cases target with
  | php rules => exact hphp
  | go o => exact FilePath.isRelative_of_isPart (isPart_fileName s)
  | yaml => exact hyaml

theorem nestedPath_eq_iff {s t : Structure} {extension : Text} :
    nestedPath s extension = nestedPath t extension ↔
      s.name.segments.filter (· ≠ []) = t.name.segments.filter (· ≠ []) := by
  rw [nestedPath_eq, nestedPath_eq, List.append_cancel_right_eq]
  constructor
  · intro h
    refine Text.join_inj ?_ ?_ h
    · exact fun part hp => ⟨(isPart_of_mem_filter hp).1, (isPart_of_mem_filter hp).2.2.2⟩
    · exact fun part hp => ⟨(isPart_of_mem_filter hp).1, (isPart_of_mem_filter hp).2.2.2⟩
  · intro h
    rw [h]

theorem path_eq_iff {target : Target} {s t : Structure} : target.path s = target.path t ↔ target.SamePlace s t := by
  cases target with
  | php rules => exact nestedPath_eq_iff
  | go o => exact List.append_left_inj _
  | yaml => exact nestedPath_eq_iff

end Target

theorem Job.path_eq_iff {job : Job} {s t : Structure} : job.path s = job.path t ↔ job.target.SamePlace s t := by
  unfold Job.path
  by_cases hdir : job.outDir = []
  · rw [if_pos hdir, if_pos hdir, Target.path_eq_iff]
  · rw [if_neg hdir, if_neg hdir, ← Target.path_eq_iff]
    constructor
    · exact FilePath.join_dir_inj hdir (Target.isRelative_path ..) (Target.isRelative_path ..)
    · intro h
      rw [h]

/-- All files of a run have different paths exactly if no two structures have their files in one place. For Go, the
exported short names have to differ even in lower case, and for the other targets, the names even without their empty
segments. The output directory does not matter. -/
theorem paths_distinct_iff (job : Job) (structures : List Structure) (c : Option Catalogue) :
    ((job.plan structures c).map PlannedFile.path).Nodup ↔
      structures.Pairwise fun s t => ¬ job.target.SamePlace s t := by
  have hpaths : (job.plan structures c).map PlannedFile.path = structures.map job.path := by
    simp [Job.plan, Function.comp_def]
  rw [hpaths, List.Nodup, List.pairwise_map]
  simp only [ne_eq, Job.path_eq_iff]

/-- Two classes whose names differ in case have the same Go file. -/
theorem paths_not_distinct :
    ¬ ∀ (job : Job) (structures : List Structure) (c : Option Catalogue),
        (structures.Pairwise fun s t => s.name.dotted ≠ t.name.dotted) →
          ((job.plan structures c).map PlannedFile.path).Nodup := by
  intro h
  have hclash := h ⟨.go ⟨[.builtins], []⟩, .standard, "out", false⟩
    [.make .klass (.ofText "FooBar") .unset [], .make .klass (.ofText "Foobar") .unset []] none (by decide)
  exact absurd hclash (by decide)

end Stencil
