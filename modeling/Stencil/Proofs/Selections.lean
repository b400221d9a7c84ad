import Stencil.Proofs.Catalogues
import Stencil.Proofs.Globs
import Stencil.Selection

/-!
# What a selection takes

A selection tries its patterns on the empty name only, before it has seen any other name. Names are matched later, and
what is reported then is passed over in silence. Nothing is lost by that, because a pattern that is not reported for the
empty name is not reported for any other.
-/

namespace Stencil

namespace Glob

def Matches (pattern t : Text) : Prop := (ofText pattern).matches? t = .ok true

theorem accepts_iff {pattern t : Text} : (ofText pattern).accepts t = true ↔ Matches pattern t := by
  unfold accepts Matches
  split
  · rename_i matched h
    simp [h]
  · rename_i e h
    simp [h]

instance (pattern t : Text) : Decidable (Matches pattern t) := decidable_of_iff _ accepts_iff

theorem wellFormed_iff_isOk {pattern : Text} (t : Text) :
    WellFormed pattern ↔ ∃ matched, (ofText pattern).matches? t = .ok matched := by
  rw [wellFormed_iff, ← matches?_eq_error_iff (t := t)]
  cases (ofText pattern).matches? t <;> simp

end Glob

namespace Selection

theorem pattern?_eq (p : Text) : pattern? p = if Glob.WellFormed p then .ok (Glob.ofText p) else .error ⟨p⟩ := by
  unfold pattern?
  by_cases hp : Glob.WellFormed p
  · obtain ⟨matched, hmatched⟩ := (Glob.wellFormed_iff_isOk []).1 hp
    simp [hp, hmatched]
  · have herror : (Glob.ofText p).matches? [] = .error ⟨⟩ := by
      rw [Glob.matches?_eq_error_iff]
      exact not_not.1 fun h => hp ((Glob.wellFormed_iff p).2 h)
    simp [hp, herror]

/-- The first pattern that is not well formed is refused, and the patterns are taken as they are if there is none. -/
theorem mapM_pattern? (ps : List Text) :
    ps.mapM pattern? =
      match ps.find? fun p => ¬ Glob.WellFormed p with
      | some p => .error ⟨p⟩
      | none => .ok (ps.map Glob.ofText) := by
  induction ps with
  | nil => rfl
  | cons p ps ih =>
    rw [List.mapM_cons, pattern?_eq, ih]
    by_cases hp : Glob.WellFormed p
    · rw [List.find?_cons_of_neg (by simpa using hp), if_pos hp]
      cases ps.find? fun p => ¬ Glob.WellFormed p <;> rfl
    · rw [List.find?_cons_of_pos (by simpa using hp), if_neg hp]
      rfl

/-- The patterns that count: those that are not blank, with dots for slashes. -/
def kept (patterns : List Text) : List Text :=
  ((patterns.map Text.trim).filter (· ≠ [])).map (Text.replaceBy QName.isSlash '.')

theorem kept_eq (patterns : List Text) : kept patterns = (patterns.map normalize).filter (· ≠ []) := by
  have hnormalize : patterns.map normalize = (patterns.map Text.trim).map (Text.replaceBy QName.isSlash '.') := by
    rw [List.map_map]
    rfl
  rw [hnormalize, List.filter_map, kept]
  congr 1
  apply List.filter_congr
  intro p _
  simp [Text.replaceBy]

theorem ofTexts_eq (patterns : List Text) :
    ofTexts patterns =
      match (kept patterns).find? fun p => ¬ Glob.WellFormed p with
      | some p => .error ⟨p⟩
      | none => .ok ⟨(kept patterns).map Glob.ofText⟩ := by
  rw [ofTexts, ← kept_eq, mapM_pattern?]
  cases (kept patterns).find? fun p => ¬ Glob.WellFormed p <;> rfl

theorem ofTexts_eq_error_iff {patterns : List Text} {e : PatternError} :
    ofTexts patterns = .error e ↔ (kept patterns).find? (fun p => ¬ Glob.WellFormed p) = some e.pattern := by
  rw [ofTexts_eq]
  cases (kept patterns).find? fun p => ¬ Glob.WellFormed p with
  | none => simp
  | some p => rw [Except.error.injEq, PatternError.mk.injEq, Option.some.injEq]

theorem ofTexts_eq_ok_iff {patterns : List Text} {sel : Selection} :
    ofTexts patterns = .ok sel ↔
      (∀ p ∈ kept patterns, Glob.WellFormed p) ∧ sel = ⟨(kept patterns).map Glob.ofText⟩ := by
  have hnone : (∀ p ∈ kept patterns, Glob.WellFormed p) ↔
      (kept patterns).find? (fun p => ¬ Glob.WellFormed p) = none := by simp
  rw [ofTexts_eq, hnone]
  cases (kept patterns).find? fun p => ¬ Glob.WellFormed p with
  | none => simp [eq_comm]
  | some p => simp

theorem accepts_iff {patterns : List Text} {s : Structure} :
    accepts ⟨patterns.map Glob.ofText⟩ s = true ↔
      ∃ p ∈ patterns, Glob.Matches p s.name.dotted ∨ Glob.Matches p s.shortName := by
  simp [accepts, Glob.accepts_iff]

end Selection

/-- A list of patterns is refused if one of the patterns that count is not well formed; the first such pattern is named.
Otherwise matching reports none of them for any name, and the selection takes the structures, in the order of the
catalogue and each once, of which one of the patterns matches the dotted name or the short name. It takes all of them if
no pattern counts. -/
theorem selection_by_patterns (patterns : List Text) :
    let kept := ((patterns.map Text.trim).filter (· ≠ [])).map (Text.replaceBy QName.isSlash '.')
    ((∃ e, Selection.ofTexts patterns = .error e) ↔ ∃ p ∈ kept, ¬ Glob.WellFormed p) ∧
      (∀ e, Selection.ofTexts patterns = .error e ↔
        kept.find? (fun p => ¬ Glob.WellFormed p) = some e.pattern) ∧
      ∀ sel, Selection.ofTexts patterns = .ok sel →
        (∀ p ∈ kept, ∀ t, ∃ matched, (Glob.ofText p).matches? t = .ok matched) ∧
        (∀ c, sel.select c = c.entries.filter fun s =>
          kept = [] ∨ ∃ p ∈ kept, Glob.Matches p s.name.dotted ∨ Glob.Matches p s.shortName) ∧
        ∀ structures, ((sel.select (.ofList structures)).map Catalogue.key).Nodup := by
  intro kept
  refine ⟨?_, fun e => Selection.ofTexts_eq_error_iff, ?_⟩
  · constructor
    · intro h
      obtain ⟨e, he⟩ := h
      have hfound := Selection.ofTexts_eq_error_iff.1 he
      exact ⟨e.pattern, List.mem_of_find?_eq_some hfound, by simpa using List.find?_some hfound⟩
    · intro h
      obtain ⟨p, hp, hbad⟩ := h
      cases hread : Selection.ofTexts patterns with
      | error e => exact ⟨e, rfl⟩
      | ok sel => exact absurd ((Selection.ofTexts_eq_ok_iff.1 hread).1 p hp) hbad
  · intro sel hsel
    obtain ⟨hwell, rfl⟩ := Selection.ofTexts_eq_ok_iff.1 hsel
    refine ⟨fun p hp t => (Glob.wellFormed_iff_isOk t).1 (hwell p hp), ?_, ?_⟩
    · intro c
      rw [Selection.select_eq_filter]
      apply List.filter_congr
      intro s _
      rw [Bool.eq_iff_iff, Bool.or_eq_true, Selection.accepts_iff]
      simp [kept, Selection.kept]
    · intro structures
      have hnames : ((Catalogue.ofList structures).entries.map Catalogue.key).Nodup := by
        rw [Catalogue.entries_ofList_eq_foldl]
        exact List.pairwise_map.2 (Keyed.pairwise_foldl_put Catalogue.key structures)
      rw [Selection.select_eq_filter]
      exact hnames.sublist (List.filter_sublist.map _)

end Stencil
