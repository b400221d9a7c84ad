import Stencil.Proofs.Paths

/-!
# Files stay in the output directory

The path of a file leads down from the output directory: it goes on where the cleaned directory ends, through parts that
are names. Where a directory has `..` at its start, it keeps them, and the path of a file adds none.
-/

namespace Stencil

namespace FilePath

def components (path : Text) : List Text := (path.split '/').filter fun part => part ≠ [] && part ≠ Text.ofString "."

theorem components_join {ps : List Text} (h : ∀ part ∈ ps, part ≠ [] ∧ part ≠ Text.ofString "." ∧ .char '/' ∉ part)
    (rooted : Bool) : components (Text.when rooted "/" ++ Text.join [.char '/'] ps) = ps := by
  have hkept : ps.filter (fun part => part ≠ [] && part ≠ Text.ofString ".") = ps := by
    apply List.filter_eq_self.2
    intro part hp
    simp [h part hp]
  have hsplit : components (Text.join [.char '/'] ps) = ps := by
    by_cases hnil : ps = []
    · subst hnil
      rfl
    · unfold components
      rw [Text.split_join hnil fun part hp => (h part hp).2.2, hkept]
  cases rooted with
  | false => exact hsplit
  | true =>
    -- the slash in front only adds an empty part
    have hslash : components (.char '/' :: Text.join [.char '/'] ps) = components (Text.join [.char '/'] ps) := by
      have hparts : Text.split '/' (.char '/' :: Text.join [.char '/'] ps) =
          [] :: Text.split '/' (Text.join [.char '/'] ps) := Text.split_append [] _
      unfold components
      rw [hparts, List.filter_cons_of_neg (by simp)]
    exact hslash.trans hsplit

theorem clean_eq (dir : Text) :
    clean dir = Text.orElse (Text.when (isRooted dir) "/" ++ Text.join [.char '/'] (parts dir)) "." := by
  unfold clean Text.orElse
  cases isRooted dir with
  | true => rfl
  | false => rfl

theorem components_clean (dir : Text) : components (clean dir) = parts dir := by
  have hjoin : components (Text.when (isRooted dir) "/" ++ Text.join [.char '/'] (parts dir)) = parts dir :=
    components_join (fun part hp => of_mem_parts hp) (isRooted dir)
  rw [clean_eq]
  unfold Text.orElse
  split
  · rename_i hnil
    rw [hnil] at hjoin
    exact hjoin
  · exact hjoin

end FilePath

/-- The path of a file from the output directory is made of names, and a Go file has one. In an output directory the file
stands below the cleaned directory, at the end of just these names. Only the empty segments of a name do not show in the
path of a file that is not a Go file. -/
theorem output_inside (job : Job) (s : Structure) :
    let path := job.target.path s
    let names := path.split '/'
    (∀ part ∈ names, part ≠ [] ∧ part ≠ Text.ofString "." ∧ part ≠ Text.ofString "..") ∧
      (∀ o, job.target = .go o → names = [path]) ∧
      (job.outDir ≠ [] →
        FilePath.components (job.path s) = FilePath.components (FilePath.clean job.outDir) ++ names ∧
        job.path s =
          Text.when (FilePath.isRooted job.outDir) "/" ++
            Text.join "/" (FilePath.components (FilePath.clean job.outDir) ++ names)) ∧
      ((∀ o, job.target ≠ .go o) → ∀ t : Structure,
        job.target.path s = job.target.path t ↔
          s.name.segments.filter (· ≠ []) = t.name.segments.filter (· ≠ [])) := by
  intro path names
  obtain ⟨ps, hne, hps, hpath⟩ := Target.isRelative_path job.target s
  have hnames : names = ps := by
    simp only [names, path, hpath]
    exact Text.split_join hne fun part hp => (hps part hp).2.2.2
  refine ⟨?_, ?_, ?_, ?_⟩
  · intro part hp
    obtain ⟨hnil, hdot, hdots, _⟩ := hps part (hnames ▸ hp)
    exact ⟨hnil, hdot, hdots⟩
  · intro o ho
    have hfile : path = Go.fileName s := by
      simp only [path, ho]
      rfl
    simp only [names, hfile]
    exact Text.split_of_not_mem (Target.isPart_fileName s).2.2.2
  · intro hdir
    have hproper : ∀ part ∈ FilePath.parts job.outDir ++ ps,
        part ≠ [] ∧ part ≠ Text.ofString "." ∧ .char '/' ∉ part := by
      intro part hp
      rcases List.mem_append.1 hp with hp | hp
      · exact FilePath.of_mem_parts hp
      · obtain ⟨hnil, hdot, _, hslash⟩ := hps part hp
        exact ⟨hnil, hdot, hslash⟩
    have hjoined : job.path s =
        Text.when (FilePath.isRooted job.outDir) "/" ++ Text.join [.char '/'] (FilePath.parts job.outDir ++ ps) := by
      unfold Job.path
      rw [if_neg hdir, hpath, FilePath.join_dir hne hps hdir]
    rw [FilePath.components_clean, hnames, hjoined]
    exact ⟨FilePath.components_join hproper _, rfl⟩
  · intro hother t
    rw [Target.path_eq_iff]
    cases htarget : job.target with
    | php rules => rfl
    | go o => exact absurd htarget (hother o)
    | yaml => rfl

example :
    Job.path ⟨.php [], .standard, "../out/./tmp/..", false⟩ (.make .klass (.ofText "..\\app//..Job") .unset []) =
      Text.ofString "../out/app/Job.php" := by
  decide

end Stencil
