import Mathlib.Data.List.TakeWhile
import Stencil.Text.Lemmas

/-!
# Words of a text

The words of a text are its longest runs without separators. Taking a text apart into words and the gaps around them has
one result only, and `fields` finds it.
-/

namespace Stencil.Text

/-- A text taken apart into words: each stands behind a gap, and ends where a gap begins or the text ends. -/
inductive Runs (p : Glyph → Bool) : Text → List Text → Prop
  | gap {gap : Text} (hgap : ∀ g ∈ gap, p g = true) : Runs p gap []
  | word {gap w rest : Text} {ws : List Text} (hgap : ∀ g ∈ gap, p g = true) (hne : w ≠ [])
      (hw : ∀ g ∈ w, p g = false) (hend : ∀ g, rest.head? = some g → p g = true) (hrest : Runs p rest ws) :
      Runs p (gap ++ w ++ rest) (w :: ws)

section
variable {p : Glyph → Bool}

theorem of_mem_fields {t w : Text} (h : w ∈ fields p t) : w ≠ [] ∧ ∀ g ∈ w, g ∈ t ∧ p g = false := by
  obtain ⟨hpart, hne⟩ := List.mem_filter.1 h
  exact ⟨by simpa using hne, fun g hg => of_mem_splitBy hpart hg⟩

theorem fields_gap_append {gap : Text} (hgap : ∀ g ∈ gap, p g = true) (t : Text) :
    fields p (gap ++ t) = fields p t := by
  induction gap with
  | nil => rfl
  | cons g gap ih =>
    rw [List.cons_append, fields_cons (hgap g (by simp)), ih fun g hg => hgap g (List.mem_cons_of_mem _ hg)]

theorem fields_gap {gap : Text} (hgap : ∀ g ∈ gap, p g = true) : fields p gap = [] := by
  have h := fields_gap_append hgap []
  rwa [List.append_nil] at h

theorem fields_gap_word {gap w rest : Text} (hgap : ∀ g ∈ gap, p g = true) (hne : w ≠ []) (hw : ∀ g ∈ w, p g = false)
    (hend : ∀ g, rest.head? = some g → p g = true) : fields p (gap ++ w ++ rest) = w :: fields p rest := by
  rw [List.append_assoc, fields_gap_append hgap, fields_append_of_head w hend, fields_of_word hne hw]
  rfl

theorem Runs.fields_eq {t : Text} {ws : List Text} (h : Runs p t ws) : fields p t = ws := by
  induction h with
  | gap hgap => exact fields_gap hgap
  | word hgap hne hw hend _ ih => rw [fields_gap_word hgap hne hw hend, ih]

/-- The first word stands at the start of a text that does not begin with a gap. -/
theorem Runs.isPrefix {t w : Text} {ws : List Text} (h : Runs p t (w :: ws))
    (hstart : ∀ g, t.head? = some g → p g = false) : w <+: t := by
  cases h with
  | @word gap _ rest _ hgap =>
    cases gap with
    | nil => exact List.prefix_append w rest
    | cons g gap =>
      have hg := hstart g rfl
      rw [hgap g (List.mem_cons_self ..)] at hg
      cases hg

theorem runs_fields (t : Text) : Runs p t (fields p t) := by
  have hgap : ∀ g ∈ t.takeWhile p, p g = true := fun g hg => List.mem_takeWhile_imp hg
  have hsplit : t = t.takeWhile p ++ t.dropWhile p := List.takeWhile_append_dropWhile.symm
  by_cases hnil : t.dropWhile p = []
  · rw [hnil, List.append_nil] at hsplit
    rw [hsplit, fields_gap hgap]
    exact .gap hgap
  · -- a word begins here, and the next separator ends it
    let w := (t.dropWhile p).takeWhile fun g => !p g
    let rest := (t.dropWhile p).dropWhile fun g => !p g
    have hparts : t = t.takeWhile p ++ w ++ rest := by
      rw [List.append_assoc, List.takeWhile_append_dropWhile]
      exact hsplit
    have hne : w ≠ [] := by
      obtain ⟨g, u, hu⟩ := List.exists_cons_of_ne_nil hnil
      have hg : p g = false := head?_dropWhile (t := t) (by rw [hu]; rfl)
      simp [w, hu, hg]
    have hw : ∀ g ∈ w, p g = false := by
      intro g hg
      simpa using List.mem_takeWhile_imp hg
    have hend : ∀ g, rest.head? = some g → p g = true := by
      intro g hg
      simpa using head?_dropWhile hg
    have hshort : rest.length < t.length := by
      have hlen := congrArg List.length hparts
      have hpos := List.length_pos_iff.2 hne
      simp only [List.length_append] at hlen
      omega
    have hrest := runs_fields rest
    rw [hparts, fields_gap_word hgap hne hw hend]
    exact .word hgap hne hw hend hrest
termination_by t.length

theorem runs_iff {t : Text} {ws : List Text} : Runs p t ws ↔ fields p t = ws := by
  constructor
  · exact Runs.fields_eq
  · rintro rfl
    exact runs_fields t

end

end Stencil.Text
