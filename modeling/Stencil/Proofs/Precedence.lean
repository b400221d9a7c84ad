import Mathlib.Control.Monad.Basic
import Stencil.Settings

/-!
# What is said first counts

Readers that ask the command line before the variables, and these before the configuration file, hide what a file says
under a key behind the variable, and both behind the command line, whatever else they make of flags and files.
-/

namespace Stencil

def Flags.gives (f : Flags) : Key → Bool
  | .input => !f.inputs.isEmpty
  | .outDir => f.outDir.isSome
  | .format => f.format.isSome
  | .inherited => f.inherited.isSome
  | .only => f.only.isSome
  | .goPackage => f.goPackage.isSome
  | .types => false
  | .strict => f.strict.isSome
  | .verbose => f.verbose.isSome

/-- What is said under a key is found by its flag, else by a variable that is not empty, else in the file. -/
def Readers.FollowOrder {β : Type} (r : Readers) (store : Store β) : Prop :=
  ∀ flags env find, r.answers flags env find = store.answers flags env find

theorem Readers.standard_followOrder : standard.FollowOrder Store.standard := fun _ _ _ => rfl

/-- The configuration files can be read, and differ at most under one key. -/
def Store.SameBut {β : Type} (store : Store β) (k : Key) (path : Text) (find₁ find₂ : Lookup) : Prop :=
  ∃ file₁ file₂, store.ofFile find₁ path = .ok file₁ ∧ store.ofFile find₂ path = .ok file₂ ∧
    ∀ name ≠ k.name, file₁ name = file₂ name

def ConfigFile.keys? (find : Lookup) (path : Text) : Option (List Text) :=
  (read find path).toOption.map (List.map Prod.fst)

theorem ConfigFile.exists_read_of_keys? {find : Lookup} {path key : Text} (h : keys? find path = some [key]) :
    ∃ v, read find path = .ok [(key, v)] := by
  unfold keys? at h
  cases hread : read find path with
  | error e => simp [hread, Except.toOption] at h
  | ok entries =>
    simp only [hread, Except.toOption, Option.map_some, Option.some.injEq, List.map_eq_singleton_iff] at h
    obtain ⟨⟨key, v⟩, rfl, rfl⟩ := h
    exact ⟨v, rfl⟩

namespace Key

theorem mem_all (k : Key) : k ∈ all := by cases k <;> decide

theorem name_injective {k k' : Key} (h : k'.name = k.name) : k' = k := by
  have hall : ∀ a ∈ all, ∀ b ∈ all, a.name = b.name → a = b := by decide
  exact hall k' k'.mem_all k k.mem_all h

/-- Behind `PROTOTYPE_` a variable has the name of its key. -/
theorem lower_envName (k : Key) : Text.lower (k.envName.drop 10) = k.name := by cases k <;> decide

theorem envName_injective {k k' : Key} (h : k'.envName = k.envName) : k' = k := by
  apply name_injective
  rw [← lower_envName, h, lower_envName]

end Key

/-! ## Settings depend on few answers -/

theorem Answers.settings_congr {a b : Answers} {f : Flags} (htypes : a.types = b.types)
    (htext : ∀ k ∈ [Key.outDir, .format, .goPackage], a.text k = b.text k)
    (htruth : ∀ k ∈ [Key.inherited, .strict, .verbose], a.truth k = b.truth k) (hinput : a.input f = b.input f)
    (honly : a.only f = b.only f) : a.settings f = b.settings f := by
  have hmappings : a.mappings f = b.mappings f := by simp only [mappings, htypes]
  have hformat : a.format = b.format := by simp only [format, htext .format (by simp)]
  simp only [settings, hmappings, hformat, hinput, honly, htext .outDir (by simp), htext .goPackage (by simp),
    htruth .inherited (by simp), htruth .strict (by simp), htruth .verbose (by simp)]

namespace Store

section
variable {β : Type} (store : Store β) {f : Flags} {env₁ env₂ : Key → Text} {file₁ file₂ : Text → Option β} {k : Key}

theorem get?_congr (henv : env₁ k = env₂ k) (hfile : file₁ k.name = file₂ k.name) :
    store.get? f env₁ file₁ k = store.get? f env₂ file₂ k := by
  simp only [get?, henv, hfile]

/-- A flag hides the variable and the file. Inputs and patterns cannot be asked for by their keys. -/
theorem get?_of_gives (h : f.gives k = true) :
    store.get? f env₁ file₁ k = store.get? f env₂ file₂ k ∨ k = .input ∨ k = .only := by
  have hbound : (f.bound? k).isSome = true ∨ k = .input ∨ k = .only := by
    cases k <;> simp_all [Flags.bound?, Flags.gives]
  rcases hbound with hbound | hkey
  · obtain ⟨v, hv⟩ := Option.isSome_iff_exists.1 hbound
    simp only [get?, hv, Option.map_some, Option.some_or, true_or]
  · exact .inr hkey

theorem get?_of_env (henv : env₁ k = env₂ k) (hne : env₁ k ≠ []) :
    store.get? f env₁ file₁ k = store.get? f env₂ file₂ k := by
  simp only [get?, ← henv, if_neg hne, Option.some_or]

variable (henv : ∀ k' ≠ k, env₁ k' = env₂ k') (hfile : ∀ k' ≠ k, file₁ k'.name = file₂ k'.name)
  (hidden : f.gives k = true ∨ env₁ k = env₂ k ∧ env₁ k ≠ [])
include henv hfile hidden

theorem get?_of_hidden (k' : Key) :
    store.get? f env₁ file₁ k' = store.get? f env₂ file₂ k' ∨ f.gives k' = true ∧ (k' = .input ∨ k' = .only) := by
  by_cases hk : k' = k
  · subst hk
    rcases hidden with hgives | ⟨hsame, hne⟩
    · rcases store.get?_of_gives hgives with heq | hkey
      · exact .inl heq
      · exact .inr ⟨hgives, hkey⟩
    · exact .inl (store.get?_of_env hsame hne)
  · exact .inl (store.get?_congr (henv k' hk) (hfile k' hk))

theorem settings_of_hidden {find₁ find₂ : Lookup} (hfile₁ : store.ofFile find₁ f.config = .ok file₁)
    (hfile₂ : store.ofFile find₂ f.config = .ok file₂) :
    ∃ a b, store.answers f env₁ find₁ = .ok a ∧ store.answers f env₂ find₂ = .ok b ∧ a.settings f = b.settings f := by
  have hget := store.get?_of_hidden henv hfile hidden
  have hasked : ∀ k' ∉ [Key.input, .only], store.get? f env₁ file₁ k' = store.get? f env₂ file₂ k' := by
    intro k' hk'
    apply (hget k').resolve_right
    rintro ⟨-, rfl | rfl⟩ <;> simp at hk'
  rw [answers, answers, hfile₁, hfile₂]
  refine ⟨_, _, rfl, rfl, Answers.settings_congr ?_ ?_ ?_ ?_ ?_⟩
  · simp only [hasked .types (by simp)]
  · intro k' hk'
    simp only [hasked k' (by revert k'; decide)]
  · intro k' hk'
    simp only [hasked k' (by revert k'; decide)]
  · rcases hget .input with heq | ⟨hgives, -⟩
    · simp only [Answers.input, heq]
    · have hne : f.inputs ≠ [] := by simpa [Flags.gives] using hgives
      obtain ⟨input, inputs, hinputs⟩ := List.exists_cons_of_ne_nil hne
      simp [Answers.input, hinputs]
  · rcases hget .only with heq | ⟨hgives, -⟩
    · simp only [Answers.only, heq]
    · obtain ⟨t, ht⟩ := Option.isSome_iff_exists.1 hgives
      simp [Answers.only, ht]

end

end Store

/-- Where the command line says something under a key, or a variable does in both cases, it does not matter what the
configuration file says under this key, nor in the first case what the variable says. -/
theorem hidden_values_irrelevant {β : Type} (readers : Readers) (store : Store β) (horder : readers.FollowOrder store)
    (words : List Text) (k : Key) (vars₁ vars₂ : Text → Text) (find₁ find₂ : Lookup)
    (hvars : ∀ name ≠ k.envName, vars₁ name = vars₂ name)
    (hfiles : ∀ flags, readers.flags words = .ok flags → store.SameBut k flags.config find₁ find₂)
    (hidden : (∀ flags, readers.flags words = .ok flags → flags.gives k = true) ∨
      vars₁ k.envName = vars₂ k.envName ∧ vars₁ k.envName ≠ []) :
    readers.read words (fun k => vars₁ k.envName) find₁ = readers.read words (fun k => vars₂ k.envName) find₂ := by
  unfold Readers.read
  cases hflags : readers.flags words with
  | error e => rfl
  | ok flags =>
    obtain ⟨file₁, file₂, hfile₁, hfile₂, hsame⟩ := hfiles flags hflags
    have hkeys : ∀ k' ≠ k, file₁ k'.name = file₂ k'.name := fun k' hk => hsame k'.name (mt Key.name_injective hk)
    have henv : ∀ k' ≠ k, vars₁ k'.envName = vars₂ k'.envName := fun k' hk =>
      hvars k'.envName (mt Key.envName_injective hk)
    have hsaid := hidden.imp (fun h => h flags hflags) id
    obtain ⟨a, b, ha, hb, hsettings⟩ := store.settings_of_hidden henv hkeys hsaid hfile₁ hfile₂
    simp only [horder flags, ha, hb, hsettings]

/-- A flag gives the format, so that it does not matter which ones the file names. One of them is none that there is. -/
theorem hidden_format_irrelevant :
    let words : List Text := ["-c", "p.json", "--format", "php"]
    let vars (format : Text) : Text → Text := fun name => if name = Key.format.envName then format else []
    let find (format : Text) : Lookup := fun _ => .ok (.file ("\x7b\"Format\":\"" ++ format ++ "\"\x7d"))
    Flags.read words = .ok { config := "p.json", format := some "php" } ∧
      Store.standard.SameBut .format "p.json" (find "cobol") (find "go") ∧
      Invocation.read words (fun k => vars "yaml" k.envName) (find "cobol") =
        Invocation.read words (fun k => vars [] k.envName) (find "go") ∧
      Invocation.read words (fun k => vars [] k.envName) (find "go") =
        .ok ⟨"p.json", some { format := "php" }⟩ := by
  intro words vars find
  have hflags : Flags.read words = .ok { config := "p.json", format := some "php" } := by decide
  have hfiles : Store.standard.SameBut .format "p.json" (find "cobol") (find "go") := by
    have hkeys : ConfigFile.keys? (find "cobol") "p.json" = some [Text.ofString "Format"] ∧
        ConfigFile.keys? (find "go") "p.json" = some [Text.ofString "Format"] := by decide +kernel
    obtain ⟨v₁, hcobol⟩ := ConfigFile.exists_read_of_keys? hkeys.1
    obtain ⟨v₂, hgo⟩ := ConfigFile.exists_read_of_keys? hkeys.2
    refine ⟨Document.Entries.get? [(Text.ofString "Format", v₁)], Document.Entries.get? [(Text.ofString "Format", v₂)],
      by simp [Store.standard, hcobol, Except.map], by simp [Store.standard, hgo, Except.map], ?_⟩
    intro name hname
    have hkey : Text.lower (Text.ofString "Format") = Key.format.name := by decide
    simp [Document.Entries.get?, hkey, Ne.symm hname]
  refine ⟨hflags, hfiles, ?_, by decide +kernel⟩
  apply hidden_values_irrelevant .standard .standard Readers.standard_followOrder words .format (vars "yaml") (vars [])
  · intro name hname
    simp [vars, hname]
  · intro flags h
    obtain rfl := Except.ok.inj (hflags.symm.trans h)
    exact hfiles
  · left
    intro flags h
    obtain rfl := Except.ok.inj (hflags.symm.trans h)
    rfl

end Stencil
