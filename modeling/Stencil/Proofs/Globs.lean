import Stencil.Glob

/-!
# Well-formed patterns

A pattern is well formed if each of its classes is. Matching goes through a pattern on a way that depends on the text,
tries a part at many places, and stops at the first part that fits nowhere. Whether it reports the pattern does not
depend on this way: it reports the patterns that are not well formed, for every text, and no other (`matches?_eq_error_iff`).
-/

namespace Stencil.Glob

/-! ## Grammar -/

inductive IsItem : Text → Prop where
  | single {c : Char} (hc : c ≠ '-' ∧ c ≠ ']') : IsItem [.char c]
  | range {c d : Char} (hc : c ≠ '-' ∧ c ≠ ']') (hd : d ≠ '-' ∧ d ≠ ']') : IsItem [.char c, .char '-', .char d]

/-- What stands between the brackets of a class. A `^` at its start belongs to no item. -/
inductive IsClass : Text → Prop where
  | listed {items : List Text} (hne : items ≠ []) (hitems : ∀ item ∈ items, IsItem item)
      (hhead : items.flatten.head? ≠ some (.char '^')) : IsClass items.flatten
  | negated {items : List Text} (hne : items ≠ []) (hitems : ∀ item ∈ items, IsItem item) :
      IsClass (.char '^' :: items.flatten)

inductive WellFormed : Text → Prop where
  | nil : WellFormed []
  | glyph {g : Glyph} {t : Text} (hg : g ≠ .char '[') (ht : WellFormed t) : WellFormed (g :: t)
  | bracket {body t : Text} (hbody : IsClass body) (ht : WellFormed t) :
      WellFormed (.char '[' :: (body ++ .char ']' :: t))

/-! ## Classes -/

theorem classChar?_eq_some_iff {t rest : Text} {c : Char} :
    classChar? t = some (c, rest) ↔ t = .char c :: rest ∧ rest ≠ [] ∧ c ≠ '-' ∧ c ≠ ']' := by
  unfold classChar?
  split
  · rename_i d g t
    by_cases hd : d = '-' ∨ d = ']'
    · rw [if_pos hd]
      constructor
      · intro h
        cases h
      · rintro ⟨h, _, hne⟩
        cases h
        exact absurd hd (not_or.2 hne)
    · rw [if_neg hd]
      constructor
      · intro h
        cases h
        exact ⟨rfl, by simp, not_or.1 hd⟩
      · rintro ⟨h, _, _⟩
        cases h
        rfl
  · rename_i hshort
    constructor
    · intro h
      cases h
    · rintro ⟨rfl, hne, _⟩
      obtain ⟨g, t, rfl⟩ := List.exists_cons_of_ne_nil hne
      exact absurd rfl (hshort c g t)

theorem classItem?_sound {t rest : Text} {r : Char × Char} (h : classItem? t = some (r, rest)) :
    ∃ item, IsItem item ∧ t = item ++ rest := by
  unfold classItem? at h
  split at h
  · cases h
  · rename_i first rest' hfirst
    obtain ⟨⟨last, rest''⟩, hlast, heq⟩ := Option.map_eq_some_iff.1 h
    cases heq
    obtain ⟨rfl, _, hc⟩ := classChar?_eq_some_iff.1 hfirst
    obtain ⟨rfl, _, hd⟩ := classChar?_eq_some_iff.1 hlast
    exact ⟨_, .range hc hd, rfl⟩
  · rename_i first rest' _ hfirst
    cases h
    obtain ⟨rfl, _, hc⟩ := classChar?_eq_some_iff.1 hfirst
    exact ⟨_, .single hc, rfl⟩

/-- An item is read as far as it goes, if no `-` follows that would make it a range. -/
theorem classItem?_complete {item rest : Text} (h : IsItem item) (hne : rest ≠ [])
    (hhead : rest.head? ≠ some (.char '-')) : ∃ r, classItem? (item ++ rest) = some (r, rest) := by
  unfold classItem?
  cases h with
  | @single c hc =>
    have hfirst : classChar? ([.char c] ++ rest) = some (c, rest) := classChar?_eq_some_iff.2 ⟨rfl, hne, hc⟩
    rw [hfirst]
    split
    · rename_i heq
      cases heq
    · rename_i heq
      cases heq
      exact absurd rfl hhead
    · rename_i heq
      cases heq
      exact ⟨_, rfl⟩
  | @range c d hc hd =>
    have hfirst : classChar? ([.char c, .char '-', .char d] ++ rest) = some (c, .char '-' :: .char d :: rest) :=
      classChar?_eq_some_iff.2 ⟨rfl, by simp, hc⟩
    have hlast : classChar? (.char d :: rest) = some (d, rest) := classChar?_eq_some_iff.2 ⟨rfl, hne, hd⟩
    simp only [hfirst, hlast]
    exact ⟨_, rfl⟩

theorem head_items {items : List Text} (hne : items ≠ []) (hitems : ∀ item ∈ items, IsItem item) :
    ∃ c rest, items.flatten = .char c :: rest ∧ c ≠ '-' ∧ c ≠ ']' := by
  obtain ⟨item, items, rfl⟩ := List.exists_cons_of_ne_nil hne
  rw [List.flatten_cons]
  cases hitems item (by simp) with
  | single hc => exact ⟨_, _, rfl, hc⟩
  | range hc _ => exact ⟨_, _, rfl, hc⟩

theorem classItems?_last {t rest : Text} {r : Char × Char} (h : classItem? t = some (r, .char ']' :: rest)) :
    classItems? t = some ([r], rest) := by
  rw [classItems?]
  split <;> simp_all

theorem classItems?_more {t rest : Text} {r : Char × Char} (h : classItem? t = some (r, rest))
    (hhead : rest.head? ≠ some (.char ']')) :
    classItems? t = (classItems? rest).map fun (rs, rest) => (r :: rs, rest) := by
  rw [classItems?]
  split
  · simp_all
  · rename_i heq
    rw [h] at heq
    cases heq
    exact absurd rfl hhead
  · rename_i heq
    rw [h] at heq
    cases heq
    rfl

theorem classItems?_sound {t rest : Text} {rs : List (Char × Char)} (h : classItems? t = some (rs, rest)) :
    ∃ items : List Text, items ≠ [] ∧ (∀ item ∈ items, IsItem item) ∧ t = items.flatten ++ .char ']' :: rest := by
  fun_induction classItems? t generalizing rs with
  | case1 t hitem => cases h
  | case2 t r rest' hitem =>
    cases h
    obtain ⟨item, hi, rfl⟩ := classItem?_sound hitem
    exact ⟨[item], by simp, by simpa using hi, by simp⟩
  | case3 t r rest' hrest hitem ih =>
    obtain ⟨⟨rs', rest''⟩, hitems, heq⟩ := Option.map_eq_some_iff.1 h
    cases heq
    obtain ⟨item, hi, rfl⟩ := classItem?_sound hitem
    obtain ⟨items, _, hall, rfl⟩ := ih hitems
    exact ⟨item :: items, by simp, by simpa using ⟨hi, hall⟩, by simp⟩

theorem classItems?_complete {items : List Text} (hne : items ≠ []) (hitems : ∀ item ∈ items, IsItem item)
    (rest : Text) : ∃ rs, classItems? (items.flatten ++ .char ']' :: rest) = some (rs, rest) := by
  induction items with
  | nil => exact absurd rfl hne
  | cons item items ih =>
    have hitem := hitems item (by simp)
    have hothers : ∀ item ∈ items, IsItem item := fun item h => hitems item (by simp [h])
    rw [List.flatten_cons, List.append_assoc]
    by_cases hlast : items = []
    · subst hlast
      obtain ⟨r, hr⟩ := classItem?_complete hitem (List.cons_ne_nil (.char ']') rest) (by simp)
      exact ⟨_, classItems?_last hr⟩
    · -- the next item begins with neither of the signs that would be read differently here
      obtain ⟨c, others, hhead, hminus, hclose⟩ := head_items hlast hothers
      have hne : items.flatten ++ .char ']' :: rest ≠ [] := by simp
      obtain ⟨r, hr⟩ := classItem?_complete hitem hne (by simpa [hhead] using hminus)
      obtain ⟨rs, hrs⟩ := ih hlast hothers
      rw [classItems?_more hr (by simpa [hhead] using hclose), hrs]
      exact ⟨_, rfl⟩

theorem class?_sound {t rest : Text} {a : Atom} (h : class? t = some (a, rest)) :
    ∃ body, IsClass body ∧ t = body ++ .char ']' :: rest := by
  unfold class? at h
  split at h
  · rename_i t
    obtain ⟨⟨rs, rest'⟩, hrs, heq⟩ := Option.map_eq_some_iff.1 h
    cases heq
    obtain ⟨items, hne, hitems, rfl⟩ := classItems?_sound hrs
    exact ⟨_, .negated hne hitems, rfl⟩
  · rename_i hcaret
    obtain ⟨⟨rs, rest'⟩, hrs, heq⟩ := Option.map_eq_some_iff.1 h
    cases heq
    obtain ⟨items, hne, hitems, rfl⟩ := classItems?_sound hrs
    refine ⟨_, .listed hne hitems ?_, rfl⟩
    obtain ⟨c, others, hhead, _⟩ := head_items hne hitems
    intro heq
    rw [hhead] at heq hcaret
    cases heq
    exact hcaret _ rfl

theorem class?_complete {body : Text} (h : IsClass body) (rest : Text) :
    ∃ a, class? (body ++ .char ']' :: rest) = some (a, rest) := by
  unfold class?
  cases h with
  | negated hne hitems =>
    obtain ⟨rs, hrs⟩ := classItems?_complete hne hitems rest
    simp [hrs]
  | @listed items hne hitems hhead =>
    obtain ⟨rs, hrs⟩ := classItems?_complete hne hitems rest
    obtain ⟨c, others, hcons, _⟩ := head_items hne hitems
    split
    · rename_i heq
      rw [hcons] at heq hhead
      cases heq
      exact absurd rfl hhead
    · simp [hrs]

/-! ## Reading patterns -/

theorem wellFormed_cons_iff {g : Glyph} {t : Text} (hg : g ≠ .char '[') : WellFormed (g :: t) ↔ WellFormed t := by
  constructor
  · intro h
    cases h with
    | glyph _ ht => exact ht
    | bracket => exact absurd rfl hg
  · exact .glyph hg

theorem wellFormed_bracket_iff {t rest : Text} {a : Atom} (h : class? t = some (a, rest)) :
    WellFormed (.char '[' :: t) ↔ WellFormed rest := by
  constructor
  · intro ht
    cases ht with
    | glyph hg _ => exact absurd rfl hg
    | bracket hbody hrest =>
      obtain ⟨a', ha'⟩ := class?_complete hbody _
      rw [h] at ha'
      cases ha'
      exact hrest
  · intro hrest
    obtain ⟨body, hbody, rfl⟩ := class?_sound h
    exact .bracket hbody hrest

theorem not_wellFormed_bracket {t : Text} (h : class? t = none) : ¬ WellFormed (.char '[' :: t) := by
  intro ht
  cases ht with
  | glyph hg _ => exact absurd rfl hg
  | bracket hbody _ =>
    obtain ⟨a, ha⟩ := class?_complete hbody _
    rw [h] at ha
    cases ha

theorem class?_ne_broken {t rest : Text} {a : Atom} (h : class? t = some (a, rest)) : a ≠ .broken := by
  unfold class? at h
  split at h
  · obtain ⟨_, _, heq⟩ := Option.map_eq_some_iff.1 h
    cases heq
    simp
  · obtain ⟨_, _, heq⟩ := Option.map_eq_some_iff.1 h
    cases heq
    simp

theorem wellFormed_iff_tokens (t : Text) : WellFormed t ↔ .atom .broken ∉ tokens t := by
  fun_induction tokens t with
  | case1 => simp [WellFormed.nil]
  | case2 t ih => simp [wellFormed_cons_iff, ih]
  | case3 t _ ih => simp [wellFormed_cons_iff, ih]
  | case4 t hnone => simp [not_wellFormed_bracket hnone]
  | case5 t a rest hsome _ _ ih => simp [wellFormed_bracket_iff hsome, ih, (class?_ne_broken hsome).symm]
  | case6 g t _ _ hg ih => simp [wellFormed_cons_iff hg, ih]

def atoms (p : Glob) : List Atom := p.start ++ p.afterStars.flatten

theorem mem_atoms_ofTokens {a : Atom} {ts : List Token} : a ∈ (ofTokens ts).atoms ↔ .atom a ∈ ts := by
  unfold atoms
  fun_induction ofTokens ts with
  | case1 => simp
  | case2 b ts g ih => simp_all [g]
  | case3 ts part parts heq ih => simp_all
  | case4 ts start parts _ heq ih => simp_all

theorem wellFormed_iff (t : Text) : WellFormed t ↔ .broken ∉ (ofText t).atoms := by
  rw [wellFormed_iff_tokens, ofText, mem_atoms_ofTokens]

instance : DecidablePred WellFormed := fun t => decidable_of_iff _ (wellFormed_iff t).symm

/-! ## Matching -/

theorem bind_eq_error_iff {α β : Type} {x : Except Malformed α} {f : α → Except Malformed β} (reported : Prop)
    (hf : ∀ a, x = .ok a → (f a = .error ⟨⟩ ↔ reported)) :
    (x >>= f) = .error ⟨⟩ ↔ x = .error ⟨⟩ ∨ reported := by
  cases x with
  | error e => simp [bind, Except.bind]
  | ok a => simpa [bind, Except.bind] using hf a rfl

theorem remainder_eq_error_iff {as : List Atom} {t : Option Text} :
    remainder as t = .error ⟨⟩ ↔ .broken ∈ as := by
  fun_induction remainder as t with
  | case1 t => simp
  | case2 as t => simp
  | case3 t a as ha ih => simp [ih, Ne.symm ha]

/-- Where the atoms do not fit, the next place is tried; there is nothing new to report there. -/
theorem firstFit_eq_error_iff {as : List Atom} {isLast : Bool} {ts : List Text} (hne : ts ≠ []) :
    firstFit as isLast ts = .error ⟨⟩ ↔ .broken ∈ as := by
  induction ts with
  | nil => exact absurd rfl hne
  | cons t ts ih =>
    rw [firstFit, bind_eq_error_iff False, or_false, remainder_eq_error_iff]
    intro r hr
    have hsound : .broken ∉ as := by
      intro hbroken
      rw [remainder_eq_error_iff.2 hbroken] at hr
      cases hr
    have hothers : firstFit as isLast ts ≠ .error ⟨⟩ := by
      by_cases hts : ts = []
      · simp [hts, firstFit]
      · exact fun h => hsound ((ih hts).1 h)
    cases r with
    | none => simpa using hothers
    | some rest =>
      by_cases hfits : (rest.isEmpty || !isLast) = true
      · simp [hfits, pure, Except.pure]
      · simpa [hfits] using hothers

theorem check_eq_error_iff {parts : List (List Atom)} : check parts = .error ⟨⟩ ↔ .broken ∈ parts.flatten := by
  induction parts with
  | nil => simp [check]
  | cons part parts ih =>
    rw [check, bind_eq_error_iff (.broken ∈ parts.flatten) fun _ _ => ih, remainder_eq_error_iff]
    simp

theorem byteTails_ne_nil (t : Text) : t.byteTails ≠ [] := by
  fun_cases Text.byteTails t <;> simp

theorem bind_check_eq_error_iff {parts : List (List Atom)} :
    (check parts >>= fun _ => pure false) = .error ⟨⟩ ↔ .broken ∈ parts.flatten := by
  rw [bind_eq_error_iff False (by simp [pure, Except.pure]), or_false, check_eq_error_iff]

theorem starsMatch_eq_error_iff {parts : List (List Atom)} {t : Text} :
    starsMatch parts t = .error ⟨⟩ ↔ .broken ∈ parts.flatten := by
  fun_induction starsMatch parts t with
  | case1 t => simp
  | case2 t => simp
  | case3 part parts t hne free ih =>
    have hplaces : t.byteTails.take (free + 1) ≠ [] := by simp [byteTails_ne_nil]
    rw [bind_eq_error_iff (.broken ∈ parts.flatten), firstFit_eq_error_iff hplaces]
    · simp
    · intro r _
      cases r with
      | none => exact bind_check_eq_error_iff
      | some rest => exact ih rest

/-- A pattern is reported for every text or for none. -/
theorem matches?_eq_error_iff {p : Glob} {t : Text} : p.matches? t = .error ⟨⟩ ↔ .broken ∈ p.atoms := by
  rw [matches?, bind_eq_error_iff (.broken ∈ p.afterStars.flatten), remainder_eq_error_iff, atoms, List.mem_append]
  intro r _
  cases r with
  | none => exact bind_check_eq_error_iff
  | some rest =>
    by_cases hstars : p.afterStars = []
    · simp [hstars, pure, Except.pure]
    · simpa [hstars] using starsMatch_eq_error_iff

end Stencil.Glob
