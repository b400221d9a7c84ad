import Stencil.Text.Basic

/-!
# Trimming, splitting and joining

What is split at a character is put together again by joining it with that character, and trimming a text once is
enough.
-/

namespace Stencil.Text

/-! ## Splitting and joining -/

theorem splitBy_ne_nil (p : Glyph → Bool) (t : Text) : splitBy p t ≠ [] := by
  cases t with
  | nil => simp [splitBy]
  | cons g t =>
    unfold splitBy
    split
    · simp
    · split <;> simp

theorem join_cons (sep part : Text) {parts : List Text} (h : parts ≠ []) :
    join sep (part :: parts) = part ++ sep ++ join sep parts := by
  cases parts with
  | nil => exact absurd rfl h
  | cons _ _ => simp [join, List.intercalate, List.intersperse]

theorem join_cons_head (sep part : Text) (g : Glyph) (parts : List Text) :
    join sep ((g :: part) :: parts) = g :: join sep (part :: parts) := by
  cases parts with
  | nil => simp [join, List.intercalate]
  | cons next parts =>
    have hne : next :: parts ≠ [] := by simp
    rw [join_cons sep (g :: part) hne, join_cons sep part hne]
    rfl

theorem join_split (sep : Char) (t : Text) : join [.char sep] (split sep t) = t := by
  unfold split
  induction t with
  | nil => rfl
  | cons g t ih =>
    have hne := splitBy_ne_nil (· == .char sep) t
    unfold splitBy
    by_cases hg : g = .char sep
    · simp only [hg, BEq.rfl, ite_true]
      rw [join_cons _ _ hne, ih]
      simp
    · simp only [beq_iff_eq, hg, ite_false]
      split
      · contradiction
      · rename_i part parts hparts
        rw [join_cons_head, ← hparts, ih]

theorem splitBy_cons_of_pos {p : Glyph → Bool} {g : Glyph} (h : p g = true) (t : Text) :
    splitBy p (g :: t) = [] :: splitBy p t := by
  rw [splitBy, if_pos h]

theorem splitBy_cons_of_neg {p : Glyph → Bool} {g : Glyph} (h : p g = false) {t part : Text} {parts : List Text}
    (ht : splitBy p t = part :: parts) : splitBy p (g :: t) = (g :: part) :: parts := by
  rw [splitBy, if_neg (by simp [h]), ht]

theorem splitBy_of_not_mem {p : Glyph → Bool} {t : Text} (h : ∀ g ∈ t, p g = false) : splitBy p t = [t] := by
  induction t with
  | nil => rfl
  | cons g t ih =>
    exact splitBy_cons_of_neg (h g (List.mem_cons_self ..)) (ih fun g hg => h g (List.mem_cons_of_mem _ hg))

theorem splitBy_append {p : Glyph → Bool} (s t : Text) {g : Glyph} (hg : p g = true) :
    splitBy p (s ++ g :: t) = splitBy p s ++ splitBy p t := by
  induction s with
  | nil => exact splitBy_cons_of_pos hg t
  | cons a s ih =>
    rw [List.cons_append]
    cases ha : p a with
    | true => rw [splitBy_cons_of_pos ha, splitBy_cons_of_pos ha, ih, List.cons_append]
    | false =>
      cases hs : splitBy p s with
      | nil => exact absurd hs (splitBy_ne_nil p s)
      | cons part parts =>
        rw [hs, List.cons_append] at ih
        rw [splitBy_cons_of_neg ha ih, splitBy_cons_of_neg ha hs, List.cons_append]

/-- Parts have no separator and nothing that the text has not. -/
theorem of_mem_splitBy {p : Glyph → Bool} {t part : Text} (h : part ∈ splitBy p t) {g : Glyph} (hg : g ∈ part) :
    g ∈ t ∧ p g = false := by
  induction t generalizing part with
  | nil =>
    rw [List.mem_singleton.1 h] at hg
    cases hg
  | cons a t ih =>
    have hrest : ∀ {part : Text}, part ∈ splitBy p t → g ∈ part → g ∈ a :: t ∧ p g = false :=
      fun hp hgp => ⟨List.mem_cons_of_mem _ (ih hp hgp).1, (ih hp hgp).2⟩
    cases ha : p a with
    | true =>
      rw [splitBy_cons_of_pos ha] at h
      rcases List.mem_cons.1 h with rfl | h
      · cases hg
      · exact hrest h hg
    | false =>
      cases ht : splitBy p t with
      | nil => exact absurd ht (splitBy_ne_nil p t)
      | cons first parts =>
        rw [splitBy_cons_of_neg ha ht] at h
        rcases List.mem_cons.1 h with rfl | h
        · rcases List.mem_cons.1 hg with rfl | hg
          · exact ⟨List.mem_cons_self .., ha⟩
          · exact hrest (ht ▸ List.mem_cons_self ..) hg
        · exact hrest (ht ▸ List.mem_cons_of_mem _ h) hg

theorem beq_char_of_not_mem {c : Char} {t : Text} (h : .char c ∉ t) : ∀ g ∈ t, (g == .char c) = false := by
  intro g hg
  simpa using fun heq : g = .char c => h (heq ▸ hg)

theorem split_of_not_mem {sep : Char} {t : Text} (h : .char sep ∉ t) : split sep t = [t] :=
  splitBy_of_not_mem (beq_char_of_not_mem h)

theorem split_append {sep : Char} (s t : Text) : split sep (s ++ .char sep :: t) = split sep s ++ split sep t :=
  splitBy_append s t (by simp)

theorem length_split (sep : Char) (t : Text) : (split sep t).length = t.count (.char sep) + 1 := by
  unfold split
  induction t with
  | nil => rfl
  | cons g t ih =>
    by_cases hg : g = .char sep
    · rw [splitBy_cons_of_pos (by simp [hg]), List.length_cons, ih, hg, List.count_cons_self]
    · cases ht : splitBy (· == .char sep) t with
      | nil => exact absurd ht (splitBy_ne_nil _ t)
      | cons part parts =>
        rw [splitBy_cons_of_neg (by simpa using hg) ht, List.count_cons_of_ne hg, ← ih, ht]
        rfl

theorem split_join {sep : Char} {parts : List Text} (hne : parts ≠ []) (h : ∀ part ∈ parts, .char sep ∉ part) :
    split sep (join [.char sep] parts) = parts := by
  induction parts with
  | nil => exact absurd rfl hne
  | cons part parts ih =>
    have hpart := split_of_not_mem (h part (List.mem_cons_self ..))
    by_cases hrest : parts = []
    · subst hrest
      simpa [join, List.intercalate] using hpart
    · rw [join_cons _ _ hrest, List.append_assoc, List.singleton_append, split_append, hpart,
        ih hrest fun q hq => h q (List.mem_cons_of_mem _ hq)]
      rfl

/-! ## Lines -/

def unlines (ls : List Text) : Text := ls.flatMap fun l => l ++ "\n"

theorem unlines_cons (l : Text) (ls : List Text) : unlines (l :: ls) = l ++ .char '\n' :: unlines ls := by
  simp [unlines, ofString]

theorem unlines_append (ls ls' : List Text) : unlines (ls ++ ls') = unlines ls ++ unlines ls' := List.flatMap_append

theorem unlines_flatMap {α : Type} (f : α → List Text) (l : List α) :
    unlines (l.flatMap f) = l.flatMap fun a => unlines (f a) := List.flatMap_assoc

theorem unlines_map {α : Type} {f g : α → Text} (h : ∀ a, g a = f a ++ "\n") (l : List α) :
    unlines (l.map f) = l.flatMap g := by
  rw [unlines, List.flatMap_map]
  exact congrArg (l.flatMap ·) (funext fun a => (h a).symm)

theorem unlines_breaks (l : Text) (ls : List Text) :
    unlines (l :: ls) = l ++ (ls.flatMap fun l' => .char '\n' :: l') ++ [.char '\n'] := by
  induction ls generalizing l with
  | nil => simp [unlines, ofString]
  | cons l' ls ih => simp [unlines_cons l (l' :: ls), ih l']

theorem split_unlines {ls : List Text} (h : ∀ l ∈ ls, .char '\n' ∉ l) : split '\n' (unlines ls) = ls ++ [[]] := by
  induction ls with
  | nil => rfl
  | cons l ls ih =>
    rw [unlines_cons, split_append, split_of_not_mem (h l (by simp)), ih fun l' hl' => h l' (by simp [hl'])]
    rfl

/-! ## Characters in texts -/

def FreeOf (cs : List Char) (t : Text) : Prop := ∀ c ∈ cs, .char c ∉ t

instance (cs : List Char) (t : Text) : Decidable (t.FreeOf cs) := List.decidableBAll (fun c => Glyph.char c ∉ t) cs

theorem mem_join {sep : Text} {parts : List Text} {g : Glyph} (h : g ∈ join sep parts) :
    g ∈ sep ∨ ∃ part ∈ parts, g ∈ part := by
  induction parts with
  | nil => cases h
  | cons part parts ih =>
    by_cases hrest : parts = []
    · subst hrest
      exact .inr ⟨part, List.mem_cons_self .., by simpa [join, List.intercalate] using h⟩
    · rw [join_cons _ _ hrest, List.append_assoc] at h
      rcases List.mem_append.1 h with h | h
      · exact .inr ⟨part, List.mem_cons_self .., h⟩
      · rcases List.mem_append.1 h with h | h
        · exact .inl h
        · obtain hsep | ⟨q, hq, hg⟩ := ih h
          · exact .inl hsep
          · exact .inr ⟨q, List.mem_cons_of_mem _ hq, hg⟩

theorem not_mem_join {sep : Text} {parts : List Text} {g : Glyph} (hsep : g ∉ sep) (hparts : ∀ part ∈ parts, g ∉ part) :
    g ∉ join sep parts := by
  intro h
  rcases mem_join h with h | ⟨part, hp, h⟩
  · exact hsep h
  · exact hparts part hp h

theorem mem_join_of_mem (sep : Text) {parts : List Text} {part : Text} (hp : part ∈ parts) {g : Glyph} (hg : g ∈ part) :
    g ∈ join sep parts := by
  induction parts with
  | nil => cases hp
  | cons first parts ih =>
    by_cases hrest : parts = []
    · subst hrest
      rw [List.mem_singleton] at hp
      subst hp
      simpa [join, List.intercalate] using hg
    · rw [join_cons _ _ hrest]
      rcases List.mem_cons.1 hp with rfl | hp
      · simp [hg]
      · simp [ih hp]

theorem join_ne_nil {sep part : Text} {parts : List Text} (hp : part ∈ parts) (hne : part ≠ []) :
    join sep parts ≠ [] := by
  obtain ⟨g, part, rfl⟩ := List.exists_cons_of_ne_nil hne
  exact List.ne_nil_of_mem (mem_join_of_mem sep hp (List.mem_cons_self ..))

theorem join_inj {sep : Char} {ps qs : List Text} (hps : ∀ part ∈ ps, part ≠ [] ∧ .char sep ∉ part)
    (hqs : ∀ part ∈ qs, part ≠ [] ∧ .char sep ∉ part) (h : join [.char sep] ps = join [.char sep] qs) : ps = qs := by
  have hnil : ∀ {l : List Text}, (∀ part ∈ l, part ≠ [] ∧ .char sep ∉ part) → join [.char sep] l = [] → l = [] := by
    intro l hl hj
    cases l with
    | nil => rfl
    | cons part l => exact absurd hj (join_ne_nil (List.mem_cons_self ..) (hl part (List.mem_cons_self ..)).1)
  by_cases hp : ps = []
  · subst hp
    exact (hnil hqs h.symm).symm
  · have hq : qs ≠ [] := fun hq => hp (hnil hps (by rw [h, hq]; rfl))
    rw [← split_join hp fun part hm => (hps part hm).2, h, split_join hq fun part hm => (hqs part hm).2]

theorem join_concat_append (sep last ending : Text) (parts : List Text) :
    join sep (parts ++ [last]) ++ ending = join sep (parts ++ [last ++ ending]) := by
  induction parts with
  | nil => simp [join, List.intercalate]
  | cons part parts ih =>
    rw [List.cons_append, List.cons_append, join_cons _ _ (by simp), join_cons _ _ (by simp), List.append_assoc, ih]

theorem join_concat (sep last : Text) {parts : List Text} (h : parts ≠ []) :
    join sep (parts ++ [last]) = join sep parts ++ sep ++ last := by
  induction parts with
  | nil => exact absurd rfl h
  | cons part parts ih =>
    by_cases hrest : parts = []
    · simp [hrest, join, List.intercalate]
    · rw [List.cons_append, join_cons _ _ (by simp), join_cons _ _ hrest, ih hrest]
      simp

theorem suffix_join (sep last : Text) (parts : List Text) : last <:+ join sep (parts ++ [last]) :=
  ⟨join sep (parts ++ [[]]), join_concat_append sep [] last parts⟩

/-! ## Replacing -/

theorem replaceBy_append (p : Glyph → Bool) (c : Char) (s t : Text) :
    (s ++ t).replaceBy p c = s.replaceBy p c ++ t.replaceBy p c :=
  List.map_append

theorem replaceBy_eq_self {p : Glyph → Bool} {c : Char} {t : Text} (h : ∀ g ∈ t, p g = false) :
    t.replaceBy p c = t := by
  unfold replaceBy
  rw [List.map_congr_left fun g hg => if_neg (by simp [h g hg]), List.map_id']

theorem replaceBy_join (p : Glyph → Bool) (c : Char) (sep : Text) (parts : List Text) :
    (join sep parts).replaceBy p c = join (sep.replaceBy p c) (parts.map (replaceBy p c)) := by
  induction parts with
  | nil => rfl
  | cons part parts ih =>
    by_cases hrest : parts = []
    · simp [hrest, join, List.intercalate]
    · rw [List.map_cons, join_cons _ _ hrest, join_cons _ _ (by simpa), replaceBy_append, replaceBy_append, ih]

/-! ## Fields -/

theorem fields_append {p : Glyph → Bool} (s t : Text) {g : Glyph} (hg : p g = true) :
    fields p (s ++ g :: t) = fields p s ++ fields p t := by
  unfold fields
  rw [splitBy_append s t hg, List.filter_append]

theorem fields_cons {p : Glyph → Bool} {g : Glyph} (hg : p g = true) (t : Text) : fields p (g :: t) = fields p t :=
  fields_append [] t hg

theorem fields_of_word {p : Glyph → Bool} {w : Text} (hne : w ≠ []) (h : ∀ g ∈ w, p g = false) : fields p w = [w] := by
  unfold fields
  rw [splitBy_of_not_mem h]
  simp [hne]

/-- A text that begins with a separator adds its own fields. -/
theorem fields_append_of_head {p : Glyph → Bool} (s : Text) {t : Text} (h : ∀ g, t.head? = some g → p g = true) :
    fields p (s ++ t) = fields p s ++ fields p t := by
  cases t with
  | nil => simp [fields, splitBy]
  | cons g t => rw [fields_append s t (h g rfl), fields_cons (h g rfl)]

/-- Words with two separators between them are found again. -/
theorem fields_join {p : Glyph → Bool} {g g' : Glyph} (hg : p g = true) (hg' : p g' = true) {ws : List Text}
    (h : ∀ w ∈ ws, w ≠ [] ∧ ∀ g ∈ w, p g = false) : fields p (join [g, g'] ws) = ws := by
  induction ws with
  | nil => rfl
  | cons w ws ih =>
    obtain ⟨hne, hfree⟩ := h w (List.mem_cons_self ..)
    have ih := ih fun w hw => h w (List.mem_cons_of_mem _ hw)
    by_cases hrest : ws = []
    · subst hrest
      simpa [join, List.intercalate] using fields_of_word hne hfree
    · rw [join_cons _ _ hrest, List.append_assoc, List.cons_append, List.singleton_append, fields_append _ _ hg,
        fields_cons hg', ih, fields_of_word hne hfree]
      rfl

theorem words_append (s t : Text) : words (s ++ .char ' ' :: t) = words s ++ words t := fields_append s t (by simp)

theorem words_of_not_mem {t : Text} (hne : t ≠ []) (h : .char ' ' ∉ t) : words t = [t] :=
  fields_of_word hne (beq_char_of_not_mem h)

/-! ## Cutting -/

theorem cut?_append {sep : Char} {s : Text} (h : .char sep ∉ s) (t : Text) :
    cut? sep (s ++ .char sep :: t) = some (s, t) := by
  induction s with
  | nil => simp [cut?]
  | cons g s ih =>
    have hg : g ≠ .char sep := fun heq => h (heq ▸ List.mem_cons_self ..)
    rw [List.cons_append, cut?, if_neg hg, ih fun hs => h (List.mem_cons_of_mem _ hs)]
    rfl

theorem cut?_eq_some_iff {sep : Char} {t before after : Text} :
    cut? sep t = some (before, after) ↔ t = before ++ .char sep :: after ∧ .char sep ∉ before := by
  constructor
  · intro h
    induction t generalizing before with
    | nil => cases h
    | cons g t ih =>
      rw [cut?] at h
      by_cases hg : g = .char sep
      · rw [if_pos hg] at h
        cases h
        simp [hg]
      · rw [if_neg hg] at h
        obtain ⟨⟨b, a⟩, hcut, heq⟩ := Option.map_eq_some_iff.1 h
        cases heq
        obtain ⟨ht, hb⟩ := ih hcut
        exact ⟨by rw [ht]; rfl, by simpa [Ne.symm hg] using hb⟩
  · rintro ⟨rfl, h⟩
    exact cut?_append h after

theorem cut?_eq (sep : Char) (t : Text) :
    cut? sep t =
      match t.dropWhile (· != .char sep) with
      | [] => none
      | _ :: after => some (t.takeWhile (· != .char sep), after) := by
  induction t with
  | nil => rfl
  | cons g t ih =>
    by_cases hg : g = .char sep
    · simp [cut?, hg]
    · rw [cut?, if_neg hg, ih, List.dropWhile_cons_of_pos (by simpa using hg),
        List.takeWhile_cons_of_pos (by simpa using hg)]
      cases t.dropWhile (· != .char sep) <;> rfl

theorem dropEnd?_append (s ending : Text) : dropEnd? ending (s ++ ending) = some s := by
  have hsuffix : ending.isSuffixOf (s ++ ending) = true := List.isSuffixOf_iff_suffix.2 (List.suffix_append ..)
  unfold dropEnd?
  rw [if_pos hsuffix]
  simp

theorem dropEnd?_eq_none {ending t : Text} (h : ¬ ending <:+ t) : dropEnd? ending t = none := by
  unfold dropEnd?
  rw [if_neg fun hsuffix => h (List.isSuffixOf_iff_suffix.1 hsuffix)]

/-! ## Trimming -/

theorem dropWhile_eq_self {p : Glyph → Bool} {t : Text} (h : ∀ g, t.head? = some g → p g = false) :
    t.dropWhile p = t := by
  cases t with
  | nil => rfl
  | cons g t => simp [h g rfl]

theorem head?_dropWhile {p : Glyph → Bool} {t : Text} {g : Glyph} (h : (t.dropWhile p).head? = some g) :
    p g = false := by
  have := List.head?_dropWhile_not p t
  simpa [h] using this

theorem dropEndWhile_isPrefix (p : Glyph → Bool) (t : Text) : dropEndWhile p t <+: t := by
  unfold dropEndWhile
  rw [← List.reverse_suffix, List.reverse_reverse]
  exact List.dropWhile_suffix p

theorem dropEndWhile_eq_self {p : Glyph → Bool} {t : Text} (h : ∀ g, t.getLast? = some g → p g = false) :
    dropEndWhile p t = t := by
  unfold dropEndWhile
  rw [dropWhile_eq_self, List.reverse_reverse]
  intro g hg
  rw [List.head?_reverse] at hg
  exact h g hg

theorem head?_trim {t : Text} {g : Glyph} (h : (trim t).head? = some g) : g.isSpace = false := by
  obtain ⟨rest, hrest⟩ := dropEndWhile_isPrefix Glyph.isSpace (t.dropWhile Glyph.isSpace)
  apply head?_dropWhile (t := t)
  unfold trim at h
  rw [← hrest, List.head?_append, h]
  rfl

theorem getLast?_trim {t : Text} {g : Glyph} (h : (trim t).getLast? = some g) : g.isSpace = false := by
  unfold trim dropEndWhile at h
  rw [List.getLast?_reverse] at h
  exact head?_dropWhile h

theorem trim_eq_self {t : Text} (hfirst : ∀ g, t.head? = some g → g.isSpace = false)
    (hlast : ∀ g, t.getLast? = some g → g.isSpace = false) : trim t = t := by
  unfold trim
  rw [dropWhile_eq_self hfirst, dropEndWhile_eq_self hlast]

theorem trim_trim (t : Text) : trim (trim t) = trim t := trim_eq_self (fun _ => head?_trim) fun _ => getLast?_trim

theorem mem_of_mem_trim {t : Text} {g : Glyph} (h : g ∈ trim t) : g ∈ t :=
  (List.dropWhile_sublist _).subset ((dropEndWhile_isPrefix _ _).subset h)

theorem trim_cons {g : Glyph} (hg : g.isSpace = true) (t : Text) : trim (g :: t) = trim t := by
  unfold trim
  rw [List.dropWhile_cons_of_pos hg]

/-- Parts that are joined with a separator and white space are found again up to white space around them. -/
theorem map_trim_split_join {sep : Char} {blank : Glyph} (hblank : blank.isSpace = true) (hne : blank ≠ .char sep)
    {parts : List Text} (hparts : parts ≠ []) (h : ∀ part ∈ parts, .char sep ∉ part) :
    (split sep (join [.char sep, blank] parts)).map trim = parts.map trim := by
  induction parts with
  | nil => exact absurd rfl hparts
  | cons part parts ih =>
    have hpart := split_of_not_mem (h part (List.mem_cons_self ..))
    by_cases hrest : parts = []
    · subst hrest
      simpa [join, List.intercalate] using congrArg (List.map trim) hpart
    · have ih := ih hrest fun q hq => h q (List.mem_cons_of_mem _ hq)
      rw [join_cons _ _ hrest, List.append_assoc, List.cons_append, List.singleton_append, split_append, hpart]
      -- the blank stands in front of the first of the other parts, where trimming drops it
      cases hs : split sep (join [.char sep, blank] parts) with
      | nil => exact absurd hs (splitBy_ne_nil _ _)
      | cons first others =>
        have hcons : split sep (blank :: join [.char sep, blank] parts) = (blank :: first) :: others :=
          splitBy_cons_of_neg (by simpa using hne) hs
        rw [hs, List.map_cons] at ih
        rw [hcons, List.singleton_append, List.map_cons, List.map_cons, trim_cons hblank, List.map_cons, ih]

end Stencil.Text
