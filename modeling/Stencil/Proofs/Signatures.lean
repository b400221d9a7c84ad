import Mathlib.Data.List.TakeWhile
import Stencil.Proofs.MethodPattern
import Stencil.Proofs.WrittenLines

/-!
# Where a signature is found

A line has a signature exactly if it can be cut into a text, a signature and another text. There may be many ways to cut
it; the one with the shortest text in front counts, and there the return type and the parameters reach as far as they
can.
-/

namespace Stencil.Outline

namespace SignatureText

structure StandsIn (s : SignatureText) (line before after : Text) : Prop where
  line_eq : line = before ++ (s.returns ++ .char ' ' :: (s.name ++ .char '(' :: (s.params ++ .char ')' :: after)))
  returns_ne_nil : s.returns ≠ []
  returns_word : ∀ g ∈ s.returns, isWord g = true
  name_ne_nil : s.name ≠ []
  name_word : ∀ g ∈ s.name, isWord g = true
  params_free : .char ')' ∉ s.params

/-- No signature has a shorter text in front of it. -/
def IsFirst (line before : Text) : Prop :=
  ∀ s' before' after', StandsIn s' line before' after' → before.length ≤ before'.length

/-! ## At the start of a text -/

theorem atStart?_of_standsIn {s : SignatureText} {t after : Text} (h : s.StandsIn t [] after) : atStart? t = some s := by
  rw [h.line_eq, List.nil_append]
  exact atStart?_words h.returns_ne_nil h.returns_word h.name_ne_nil h.name_word h.params_free after

theorem exists_standsIn_of_atStart? {s : SignatureText} {t : Text} (h : atStart? t = some s) :
    ∃ after, s.StandsIn t [] after := by
  have hsplit : ∀ u : Text, u = u.takeWhile isWord ++ u.dropWhile isWord := fun u =>
    List.takeWhile_append_dropWhile.symm
  have hword : ∀ u : Text, ∀ g ∈ u.takeWhile isWord, isWord g = true := fun u g hg => List.mem_takeWhile_imp hg
  unfold atStart? at h
  split at h
  · rename_i a returns rest hr hrest
    split at h
    · rename_i b name body hn hbody
      cases hcut : Text.cut? ')' body with
      | none => simp [hcut] at h
      | some parts =>
        obtain ⟨params, after⟩ := parts
        rw [hcut] at h
        cases h
        obtain ⟨hbody_eq, hfree⟩ := Text.cut?_eq_some_iff.1 hcut
        refine ⟨after, ?_, by simp, hr ▸ hword t, by simp, hn ▸ hword rest, hfree⟩
        rw [hsplit t, hr, hrest, hsplit rest, hn, hbody, hbody_eq]
        rfl
    · cases h
  · cases h

/-! ## Anywhere in a text -/

theorem StandsIn.cons {s : SignatureText} {t before after : Text} (h : s.StandsIn t before after) (g : Glyph) :
    s.StandsIn (g :: t) (g :: before) after :=
  ⟨by rw [h.line_eq]; rfl, h.returns_ne_nil, h.returns_word, h.name_ne_nil, h.name_word, h.params_free⟩

theorem StandsIn.of_cons {s : SignatureText} {g g' : Glyph} {t before after : Text}
    (h : s.StandsIn (g :: t) (g' :: before) after) : g' = g ∧ s.StandsIn t before after := by
  obtain ⟨hg, ht⟩ := List.cons.inj h.line_eq
  exact ⟨hg.symm, ht, h.returns_ne_nil, h.returns_word, h.name_ne_nil, h.name_word, h.params_free⟩

theorem not_standsIn_nil {s : SignatureText} {before after : Text} : ¬ s.StandsIn [] before after := by
  intro h
  simpa using h.line_eq

theorem find?_eq_some_iff {t : Text} {s : SignatureText} :
    find? t = some s ↔ ∃ before after, s.StandsIn t before after ∧ IsFirst t before := by
  induction t with
  | nil =>
    constructor
    · intro h
      cases h
    · rintro ⟨before, after, h, _⟩
      exact absurd h not_standsIn_nil
  | cons g t ih =>
    rw [find?]
    cases hstart : atStart? (g :: t) with
    | some s' =>
      rw [Option.some_or, Option.some.injEq]
      constructor
      · rintro rfl
        obtain ⟨after, h⟩ := exists_standsIn_of_atStart? hstart
        exact ⟨[], after, h, fun _ _ _ _ => Nat.zero_le _⟩
      · rintro ⟨before, after, h, hfirst⟩
        obtain ⟨after', h'⟩ := exists_standsIn_of_atStart? hstart
        have hnil : before = [] := List.eq_nil_of_length_eq_zero (Nat.le_zero.1 (hfirst s' [] after' h'))
        subst hnil
        rw [atStart?_of_standsIn h] at hstart
        exact (Option.some.inj hstart).symm
    | none =>
      -- no signature stands at the start, so all of them stand in the rest
      have hback : ∀ {s : SignatureText} {before after : Text}, s.StandsIn (g :: t) before after →
          ∃ rest, before = g :: rest ∧ s.StandsIn t rest after := by
        intro s before after h
        cases before with
        | nil => rw [atStart?_of_standsIn h] at hstart; cases hstart
        | cons g' rest => exact ⟨rest, by rw [h.of_cons.1], h.of_cons.2⟩
      rw [Option.none_or, ih]
      constructor
      · rintro ⟨before, after, h, hfirst⟩
        refine ⟨g :: before, after, h.cons g, ?_⟩
        intro s' before' after' h'
        obtain ⟨rest, rfl, hrest⟩ := hback h'
        exact Nat.succ_le_succ (hfirst s' rest after' hrest)
      · rintro ⟨before, after, h, hfirst⟩
        obtain ⟨rest, rfl, hrest⟩ := hback h
        refine ⟨rest, after, hrest, ?_⟩
        intro s' before' after' h'
        exact Nat.le_of_succ_le_succ (hfirst s' (g :: before') after' (h'.cons g))

theorem isSome_find?_of_standsIn {s : SignatureText} {t before after : Text} (h : s.StandsIn t before after) :
    (find? t).isSome = true := by
  induction t generalizing before with
  | nil => exact absurd h not_standsIn_nil
  | cons g t ih =>
    rw [find?, Option.isSome_or, Bool.or_eq_true]
    cases before with
    | nil => rw [atStart?_of_standsIn h]; exact .inl rfl
    | cons g' before => exact .inr (ih h.of_cons.2)

theorem isSome_find?_iff {t : Text} : (find? t).isSome = true ↔ ∃ s before after, StandsIn s t before after := by
  constructor
  · intro h
    obtain ⟨s, hs⟩ := Option.isSome_iff_exists.1 h
    obtain ⟨before, after, hstands, _⟩ := find?_eq_some_iff.1 hs
    exact ⟨s, before, after, hstands⟩
  · rintro ⟨s, before, after, h⟩
    exact isSome_find?_of_standsIn h

/-- In front of the first signature there is no word character, since its return type would begin there. -/
theorem StandsIn.not_word_before {s : SignatureText} {t before after : Text} (h : s.StandsIn t before after)
    (hfirst : IsFirst t before) : ∀ g ∈ before.getLast?, isWord g = false := by
  intro g hg
  obtain ⟨front, rfl⟩ := List.getLast?_eq_some_iff.1 hg
  by_contra hword
  have hlonger : StandsIn ⟨g :: s.returns, s.name, s.params⟩ t front after := by
    refine ⟨?_, by simp, ?_, h.name_ne_nil, h.name_word, h.params_free⟩
    · simpa using h.line_eq
    · rw [List.forall_mem_cons]
      exact ⟨by simpa using hword, h.returns_word⟩
  have hle := hfirst _ front after hlonger
  rw [List.length_append, List.length_singleton] at hle
  omega

theorem StandsIn.takeWhile_params {s : SignatureText} {t before after : Text} (h : s.StandsIn t before after) :
    (s.params ++ .char ')' :: after).takeWhile (· ≠ .char ')') = s.params := by
  have hfree : ∀ g ∈ s.params, decide (g ≠ .char ')') = true := by
    intro g hg
    simpa using fun heq : g = .char ')' => h.params_free (heq ▸ hg)
  rw [List.takeWhile_append_of_pos hfree]
  simp

end SignatureText

/-! ## Method lines -/

theorem error_of_mapM {ε α β : Type} {f : α → Except ε β} {l : List α} {e : ε} (h : l.mapM f = .error e) :
    ∃ a ∈ l, f a = .error e := by
  induction l with
  | nil => cases h
  | cons a l ih =>
    rw [List.mapM_cons] at h
    cases ha : f a with
    | error e' =>
      rw [ha] at h
      cases h
      exact ⟨a, by simp, ha⟩
    | ok b =>
      rw [ha] at h
      cases hl : l.mapM f with
      | error e' =>
        rw [hl] at h
        cases h
        obtain ⟨a', ha', hfa⟩ := ih hl
        exact ⟨a', List.mem_cons_of_mem _ ha', hfa⟩
      | ok bs =>
        rw [hl] at h
        cases h

theorem part?_ne_noSignature (body part : Text) : part? body part ≠ .error .noSignature := by
  unfold part?
  split
  · simp
  · unfold param?
    split
    · simp only
      split <;> simp
    · simp

theorem params?_ne_noSignature (body : Text) : params? body ≠ .error .noSignature := by
  intro h
  unfold params? at h
  split at h
  · cases h
  · obtain ⟨part, _, hpart⟩ := error_of_mapM h
    exact part?_ne_noSignature body part hpart

theorem method?_of_find? {line : Text} {s : SignatureText} (h : SignatureText.find? line = some s) :
    method? line = (params? s.params).map fun params => ⟨s.name, .ofText s.returns, params⟩ := by
  unfold method?
  rw [h]

theorem method?_eq_noSignature_iff {line : Text} :
    method? line = .error .noSignature ↔ SignatureText.find? line = none := by
  constructor
  · intro h
    cases hs : SignatureText.find? line with
    | none => rfl
    | some s =>
      rw [method?_of_find? hs] at h
      cases hp : params? s.params with
      | ok ps =>
        rw [hp] at h
        cases h
      | error e =>
        rw [hp] at h
        cases h
        exact absurd hp (params?_ne_noSignature s.params)
  · intro h
    unfold method?
    rw [h]

open SignatureText in
/-- A line has a signature exactly if it can be cut around one. What is found is then the signature with the shortest
text in front of it: no word character stands right before it, and its parameters end at the first parenthesis that
closes. A method line is refused for want of a signature exactly if there is none, and is read by the parts of the first
one otherwise. They are the groups of the pattern of method lines, where it first matches. -/
theorem signature_found (line : Text) :
    ((find? line).isSome = true ↔ ∃ s before after, StandsIn s line before after) ∧
      (∀ s, find? line = some s ↔ ∃ before after, s.StandsIn line before after ∧ IsFirst line before) ∧
      (∀ (s : SignatureText) (before after : Text), s.StandsIn line before after → IsFirst line before →
        (∀ g ∈ before.getLast?, isWord g = false) ∧
          (s.params ++ .char ')' :: after).takeWhile (· ≠ .char ')') = s.params ∧
          method? line = (params? s.params).map fun params => ⟨s.name, .ofText s.returns, params⟩) ∧
      (method? line = .error .noSignature ↔ ¬ ∃ s before after, StandsIn s line before after) ∧
      methodPattern.search line = (find? line).map (fun s => [s.returns, s.name, s.params]) ∧
      ∀ g, isWord g = true ↔ ∃ c, g = .char c ∧ ('a' ≤ c ∧ c ≤ 'z' ∨ 'A' ≤ c ∧ c ≤ 'Z' ∨ '0' ≤ c ∧ c ≤ '9' ∨
        c ∈ ['_', '\u017f', '\u212a']) := by
  refine ⟨isSome_find?_iff, fun s => find?_eq_some_iff, ?_, ?_, search_methodPattern line, isWord_iff⟩
  · intro s before after h hfirst
    have hfound := find?_eq_some_iff.2 ⟨before, after, h, hfirst⟩
    exact ⟨h.not_word_before hfirst, h.takeWhile_params, method?_of_find? hfound⟩
  · rw [method?_eq_noSignature_iff, ← isSome_find?_iff]
    simp

end Stencil.Outline
