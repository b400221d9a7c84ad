import Mathlib.Data.List.Basic
import Mathlib.Data.List.Induction
import Mathlib.Data.List.Perm.Basic
import Stencil.Keyed

/-!
# Lists with keys: what is kept and where

Putting an element changes what is found under its own key only and leaves the other keys where they are. The distinct
elements of a list are the first ones of their keys.
-/

namespace Stencil.Keyed

variable {α κ : Type} [DecidableEq κ] (key : α → κ)

/-! ## Putting and getting -/

theorem get?_put (a : α) (k : κ) (l : List α) :
    get? key k (put key a l) = if key a = k then some a else get? key k l := by
  unfold get?
  induction l with
  | nil => by_cases hk : key a = k <;> simp [put, hk]
  | cons b l ih =>
    unfold put
    by_cases hb : key b = key a
    · rw [if_pos hb, List.find?_cons, List.find?_cons, hb]
      by_cases hk : key a = k <;> simp [hk]
    · rw [if_neg hb, List.find?_cons, List.find?_cons, ih]
      by_cases hk : key a = k
      · subst hk; simp [hb]
      · simp [hk]

theorem map_key_put (a : α) (l : List α) :
    (put key a l).map key = if key a ∈ l.map key then l.map key else l.map key ++ [key a] := by
  induction l with
  | nil => rfl
  | cons b l ih =>
    unfold put
    by_cases hb : key b = key a
    · simp [hb]
    · rw [if_neg hb, List.map_cons, ih]
      by_cases ha : key a ∈ l.map key
      · have hmem : key a ∈ (b :: l).map key := List.mem_cons_of_mem _ ha
        rw [if_pos ha, if_pos hmem]
        rfl
      · have hnot : key a ∉ (b :: l).map key := by
          rw [List.map_cons, List.mem_cons, not_or]
          exact ⟨Ne.symm hb, ha⟩
        rw [if_neg ha, if_neg hnot]
        rfl

theorem get?_of_mem {l : List α} (hl : l.Pairwise fun a b => key a ≠ key b) {a : α} (ha : a ∈ l) :
    get? key (key a) l = some a := by
  unfold get?
  induction hl with
  | nil => cases ha
  | @cons b l hb _ ih =>
    rcases List.mem_cons.1 ha with rfl | ha
    · rw [List.find?_cons_of_pos (by simp)]
    · rw [List.find?_cons_of_neg (by simpa using hb a ha), ih ha]

theorem get?_eq_some_iff {l : List α} (hl : l.Pairwise fun a b => key a ≠ key b) {k : κ} {a : α} :
    get? key k l = some a ↔ a ∈ l ∧ key a = k := by
  constructor
  · intro h
    exact ⟨List.mem_of_find?_eq_some h, by simpa using List.find?_some h⟩
  · rintro ⟨ha, rfl⟩
    exact get?_of_mem key hl ha

theorem get?_perm {l l' : List α} (hl : l.Pairwise fun a b => key a ≠ key b) (h : l.Perm l') (k : κ) :
    get? key k l = get? key k l' := by
  have hl' : l'.Pairwise fun a b => key a ≠ key b := (h.pairwise_iff fun hne => Ne.symm hne).1 hl
  apply Option.ext
  intro a
  rw [get?_eq_some_iff key hl, get?_eq_some_iff key hl', h.mem_iff]

theorem put_of_not_mem {a : α} {l : List α} (h : ∀ b ∈ l, key b ≠ key a) : put key a l = l ++ [a] := by
  induction l with
  | nil => rfl
  | cons b l ih =>
    have hb : key b ≠ key a := h b (by simp)
    rw [put, if_neg hb, ih fun c hc => h c (List.mem_cons_of_mem _ hc)]
    rfl

theorem mem_of_mem_put {a b : α} {l : List α} (h : b ∈ put key a l) : b = a ∨ b ∈ l := by
  induction l with
  | nil => exact .inl (List.mem_singleton.1 h)
  | cons c l ih =>
    unfold put at h
    split at h
    · exact (List.mem_cons.1 h).imp_right fun h => List.mem_cons_of_mem _ h
    · rcases List.mem_cons.1 h with rfl | h
      · exact .inr (List.mem_cons_self ..)
      · exact (ih h).imp_right fun h => List.mem_cons_of_mem _ h

theorem length_put_le (a : α) (l : List α) : (put key a l).length ≤ l.length + 1 := by
  induction l with
  | nil => simp [put]
  | cons b l ih =>
    unfold put
    split
    · simp
    · simpa using ih

theorem pairwise_put {l : List α} (hl : l.Pairwise fun a b => key a ≠ key b) (a : α) :
    (put key a l).Pairwise fun a b => key a ≠ key b := by
  have hkeys : (l.map key).Nodup := List.pairwise_map.2 hl
  refine List.pairwise_map.1 (?_ : ((put key a l).map key).Nodup)
  rw [map_key_put]
  split
  · exact hkeys
  · rename_i ha
    refine List.nodup_append.2 ⟨hkeys, by simp, ?_⟩
    rintro k hk _ hka rfl
    exact ha (List.mem_singleton.1 hka ▸ hk)

theorem get?_foldl_put (k : κ) (l : List α) :
    get? key k (l.foldl (fun l a => put key a l) []) = l.reverse.find? fun a => key a = k := by
  induction l using List.reverseRecOn with
  | nil => rfl
  | append_singleton l a ih =>
    rw [List.foldl_append, List.foldl_cons, List.foldl_nil, get?_put, ih, List.reverse_concat, List.find?_cons]
    by_cases ha : key a = k <;> simp [ha]

theorem pairwise_foldl_put (l : List α) :
    (l.foldl (fun l a => put key a l) []).Pairwise fun a b => key a ≠ key b := by
  induction l using List.reverseRecOn with
  | nil => exact .nil
  | append_singleton l a ih =>
    rw [List.foldl_append]
    exact pairwise_put key ih a

theorem map_key_foldl_put [BEq κ] [LawfulBEq κ] (l : List α) :
    (l.foldl (fun l a => put key a l) []).map key = (l.map key).eraseDups := by
  induction l using List.reverseRecOn with
  | nil => rfl
  | append_singleton l a ih =>
    rw [List.foldl_append, List.foldl_cons, List.foldl_nil, map_key_put, ih, List.map_append, List.eraseDups_append,
      List.map_singleton]
    generalize l.map key = ks
    by_cases ha : key a ∈ ks
    · rw [if_pos (List.mem_eraseDups.2 ha)]
      simp [List.removeAll, ha]
    · rw [if_neg (mt List.mem_eraseDups.1 ha)]
      simp [List.removeAll, ha, List.eraseDups_cons]

theorem mem_of_mem_foldl_put {l : List α} {a : α} (h : a ∈ l.foldl (fun l a => put key a l) []) : a ∈ l := by
  induction l using List.reverseRecOn with
  | nil => cases h
  | append_singleton l b ih =>
    rw [List.foldl_append] at h
    rcases mem_of_mem_put key h with rfl | h
    · exact List.mem_append_right _ (List.mem_singleton.2 rfl)
    · exact List.mem_append_left _ (ih h)

theorem foldl_put_eq_self {l : List α} (h : l.Pairwise fun a b => key a ≠ key b) :
    l.foldl (fun l a => put key a l) [] = l := by
  induction l using List.reverseRecOn with
  | nil => rfl
  | append_singleton l a ih =>
    obtain ⟨hl, _, ha⟩ := List.pairwise_append.1 h
    rw [List.foldl_append, ih hl]
    exact put_of_not_mem key fun b hb => ha b hb a (List.mem_singleton.2 rfl)

/-! ## Looking up what the elements stand for -/

section
variable {β : Type} {key' : β → κ} {f : α → Option β}

theorem filterMap_put {a : α} {b : β} (ha : f a = some b) (hb : key' b = key a) {l : List α}
    (hl : ∀ c ∈ l, ∃ d, f c = some d ∧ key' d = key c) :
    (put key a l).filterMap f = put key' b (l.filterMap f) := by
  induction l with
  | nil => simp [put, ha]
  | cons c l ih =>
    obtain ⟨d, hd, hkey⟩ := hl c (List.mem_cons_self ..)
    have ih := ih fun c hc => hl c (List.mem_cons_of_mem _ hc)
    unfold put
    rw [List.filterMap_cons_some hd]
    by_cases h : key c = key a
    · simp [h, hkey, hb, ha]
    · simp [h, hkey, hb, hd, ih]

theorem filterMap_foldl_put {l : List α} (hl : ∀ c ∈ l, ∃ d, f c = some d ∧ key' d = key c) :
    (l.foldl (fun l a => put key a l) []).filterMap f = (l.filterMap f).foldl (fun l b => put key' b l) [] := by
  induction l using List.reverseRecOn with
  | nil => rfl
  | append_singleton l a ih =>
    have hl' : ∀ c ∈ l, ∃ d, f c = some d ∧ key' d = key c := fun c hc => hl c (List.mem_append_left _ hc)
    obtain ⟨b, hb, hkey⟩ := hl a (List.mem_append_right _ (List.mem_singleton.2 rfl))
    rw [List.foldl_append, List.filterMap_append, List.foldl_append, ← ih hl', List.filterMap_cons_some hb]
    exact filterMap_put key hb hkey fun c hc => hl' c (mem_of_mem_foldl_put key hc)

end

/-! ## Putting what was put elsewhere -/

theorem put_put {a b : α} (h : key b = key a) (l : List α) : put key a (put key b l) = put key a l := by
  induction l with
  | nil => simp [put, h]
  | cons c l ih =>
    by_cases hc : key c = key a
    · simp [put, h, hc]
    · simp [put, h, hc, ih]

/-- An element that replaces another one can be put before one with another key. -/
theorem put_comm {a b : α} {l : List α} (ha : key a ∈ l.map key) (hne : key b ≠ key a) :
    put key a (put key b l) = put key b (put key a l) := by
  induction l with
  | nil => cases ha
  | cons c l ih =>
    by_cases hca : key c = key a
    · simp [put, hca, hne.symm]
    · have ha : key a ∈ l.map key := by
        rcases List.mem_cons.1 ha with heq | ha
        · exact absurd heq.symm hca
        · exact ha
      by_cases hcb : key c = key b
      · simp [put, hcb, hne]
      · simp [put, hca, hcb, ih ha]

theorem put_foldl_put {a : α} {l acc : List α} (ha : key a ∈ acc.map key) (hl : ∀ b ∈ l, key b ≠ key a) :
    put key a (l.foldl (fun l b => put key b l) acc) = l.foldl (fun l b => put key b l) (put key a acc) := by
  induction l generalizing acc with
  | nil => rfl
  | cons b l ih =>
    have hput : key a ∈ (put key b acc).map key := by
      rw [map_key_put]
      split
      · exact ha
      · exact List.mem_append_left _ ha
    rw [List.foldl_cons, ih hput fun c hc => hl c (List.mem_cons_of_mem _ hc), put_comm key ha (hl b (by simp))]
    rfl

theorem foldl_put_put {l : List α} (hl : l.Pairwise fun a b => key a ≠ key b) (a : α) (acc : List α) :
    (put key a l).foldl (fun l b => put key b l) acc = put key a (l.foldl (fun l b => put key b l) acc) := by
  induction hl generalizing acc with
  | nil => rfl
  | @cons b l hb _ ih =>
    by_cases hba : key b = key a
    · have hput : key a ∈ (put key b acc).map key := by
        rw [map_key_put, hba]
        split
        · assumption
        · simp
      rw [put, if_pos hba, List.foldl_cons, List.foldl_cons,
        put_foldl_put key hput fun c hc heq => hb c hc (hba.trans heq.symm), put_put key hba]
    · rw [put, if_neg hba, List.foldl_cons, List.foldl_cons, ih]

/-- Of elements with one key the last one counts, whether they are put one by one or together. -/
theorem foldl_put_foldl_put (l acc : List α) :
    (l.foldl (fun l a => put key a l) []).foldl (fun l a => put key a l) acc =
      l.foldl (fun l a => put key a l) acc := by
  induction l using List.reverseRecOn with
  | nil => rfl
  | append_singleton l a ih =>
    rw [List.foldl_append, List.foldl_append, ← ih]
    exact foldl_put_put key (pairwise_foldl_put key l) a acc

/-! ## Distinct elements -/

theorem distinct_cons_of_mem {taken : List κ} {a : α} (h : key a ∈ taken) (l : List α) :
    distinct key taken (a :: l) = distinct key taken l := by
  rw [distinct, if_pos h]

theorem distinct_cons_of_not_mem {taken : List κ} {a : α} (h : key a ∉ taken) (l : List α) :
    distinct key taken (a :: l) = a :: distinct key (key a :: taken) l := by
  rw [distinct, if_neg h]

theorem distinct_eq_eraseDupsBy {same : α → α → Bool} (hsame : ∀ a b, same a b = true ↔ key a = key b)
    (taken : List κ) (l : List α) :
    distinct key taken l = (l.filter fun a => key a ∉ taken).eraseDupsBy same := by
  induction l generalizing taken with
  | nil => rfl
  | cons a l ih =>
    by_cases ha : key a ∈ taken
    · rw [distinct_cons_of_mem key ha, ih, List.filter_cons_of_neg (by simpa using ha)]
    · rw [distinct_cons_of_not_mem key ha, ih, List.filter_cons_of_pos (by simpa using ha), List.eraseDupsBy_cons,
        List.filter_filter]
      have hrest : (l.filter fun b => key b ∉ key a :: taken) =
          l.filter fun b => decide (same b a = false) && decide (key b ∉ taken) := by
        apply List.filter_congr
        intro b _
        simp [← Bool.not_eq_true, hsame]
      rw [hrest]

theorem distinct_congr {taken taken' : List κ} {l : List α} (h : ∀ a ∈ l, key a ∈ taken ↔ key a ∈ taken') :
    distinct key taken l = distinct key taken' l := by
  have hsame : ∀ a b : α, (key a == key b) = true ↔ key a = key b := fun a b => beq_iff_eq
  rw [distinct_eq_eraseDupsBy key hsame, distinct_eq_eraseDupsBy key hsame]
  congr 1
  apply List.filter_congr
  intro a ha
  simp [h a ha]

theorem mem_of_mem_distinct {taken : List κ} {l : List α} {a : α} (h : a ∈ distinct key taken l) :
    a ∈ l ∧ key a ∉ taken := by
  induction l generalizing taken with
  | nil => cases h
  | cons b l ih =>
    by_cases hb : key b ∈ taken
    · rw [distinct_cons_of_mem key hb] at h
      exact ⟨List.mem_cons_of_mem _ (ih h).1, (ih h).2⟩
    · rw [distinct_cons_of_not_mem key hb] at h
      rcases List.mem_cons.1 h with rfl | h
      · exact ⟨List.mem_cons_self .., hb⟩
      · exact ⟨List.mem_cons_of_mem _ (ih h).1, fun ht => (ih h).2 (List.mem_cons_of_mem _ ht)⟩

theorem mem_map_key_distinct {taken : List κ} {l : List α} {k : κ} :
    k ∈ (distinct key taken l).map key ↔ k ∈ l.map key ∧ k ∉ taken := by
  induction l generalizing taken with
  | nil => simp [distinct]
  | cons b l ih =>
    by_cases hb : key b ∈ taken
    · rw [distinct_cons_of_mem key hb, ih, List.map_cons, List.mem_cons]
      constructor
      · rintro ⟨hk, ht⟩
        exact ⟨.inr hk, ht⟩
      · rintro ⟨rfl | hk, ht⟩
        · exact absurd hb ht
        · exact ⟨hk, ht⟩
    · rw [distinct_cons_of_not_mem key hb, List.map_cons, List.mem_cons, ih, List.map_cons, List.mem_cons, List.mem_cons,
        not_or]
      constructor
      · rintro (rfl | ⟨hk, _, ht⟩)
        · exact ⟨.inl rfl, hb⟩
        · exact ⟨.inr hk, ht⟩
      · rintro ⟨hk, ht⟩
        by_cases hkb : k = key b
        · exact .inl hkb
        · exact .inr ⟨hk.resolve_left hkb, hkb, ht⟩

theorem pairwise_distinct (taken : List κ) (l : List α) :
    (distinct key taken l).Pairwise fun a b => key a ≠ key b := by
  induction l generalizing taken with
  | nil => exact .nil
  | cons a l ih =>
    by_cases ha : key a ∈ taken
    · rw [distinct_cons_of_mem key ha]; exact ih taken
    · rw [distinct_cons_of_not_mem key ha]
      refine .cons ?_ (ih _)
      intro b hb heq
      exact (mem_of_mem_distinct key hb).2 (heq ▸ List.mem_cons_self ..)

theorem distinct_append (taken : List κ) (l r : List α) :
    distinct key taken (l ++ r) = distinct key taken l ++ distinct key (l.map key ++ taken) r := by
  induction l generalizing taken with
  | nil => rfl
  | cons a l ih =>
    rw [List.cons_append, List.map_cons, List.cons_append]
    by_cases ha : key a ∈ taken
    · rw [distinct_cons_of_mem key ha, distinct_cons_of_mem key ha, ih]
      congr 1
      apply distinct_congr
      intro b _
      have hab : key b = key a → key b ∈ taken := fun h => h ▸ ha
      rw [List.mem_cons, List.mem_append]
      exact ⟨.inr, fun h => h.elim (fun h => .inr (hab h)) id⟩
    · rw [distinct_cons_of_not_mem key ha, distinct_cons_of_not_mem key ha, ih, List.cons_append]
      congr 2
      apply distinct_congr
      intro b _
      rw [List.mem_append, List.mem_cons, List.mem_cons, List.mem_append, or_left_comm]

theorem distinct_append_of_taken {taken : List κ} {l : List α} (h : ∀ a ∈ l, key a ∈ taken) (r : List α) :
    distinct key taken (l ++ r) = distinct key taken r := by
  induction l with
  | nil => rfl
  | cons a l ih =>
    rw [List.cons_append, distinct_cons_of_mem key (h a (by simp)), ih fun b hb => h b (List.mem_cons_of_mem _ hb)]

/-- Sources that give taken keys only may be left out. -/
theorem distinct_flatMap_filter {β : Type} (f : β → List α) (keep : β → Bool) {taken : List κ} {l : List β}
    (h : ∀ b ∈ l, keep b = false → ∀ a ∈ f b, key a ∈ taken) :
    distinct key taken ((l.filter keep).flatMap f) = distinct key taken (l.flatMap f) := by
  induction l generalizing taken with
  | nil => rfl
  | cons b l ih =>
    rw [List.flatMap_cons]
    cases hb : keep b with
    | true =>
      rw [List.filter_cons_of_pos hb, List.flatMap_cons, distinct_append, distinct_append]
      rw [ih fun b' hb' hk a ha => List.mem_append_right _ (h b' (List.mem_cons_of_mem _ hb') hk a ha)]
    | false =>
      rw [List.filter_cons_of_neg (by simp [hb]), distinct_append_of_taken key (h b (by simp) hb)]
      exact ih fun b' hb' => h b' (List.mem_cons_of_mem _ hb')

/-- What is kept has no key that is taken, and no earlier element has its key. -/
theorem distinct_eq_filter_zipIdx (taken : List κ) (l : List α) :
    distinct key taken l =
      (l.zipIdx.filter fun p => key p.1 ∉ (l.take p.2).map key ∧ key p.1 ∉ taken).map Prod.fst := by
  induction l using List.reverseRecOn with
  | nil => rfl
  | append_singleton l a ih =>
    have hbefore : (l.zipIdx.filter fun p => key p.1 ∉ ((l ++ [a]).take p.2).map key ∧ key p.1 ∉ taken) =
        l.zipIdx.filter fun p => key p.1 ∉ (l.take p.2).map key ∧ key p.1 ∉ taken := by
      apply List.filter_congr
      intro p hp
      have hlt : p.2 < l.length := List.snd_lt_of_mem_zipIdx hp
      rw [List.take_append_of_le_length (Nat.le_of_lt hlt)]
    have hlast : distinct key (l.map key ++ taken) [a] = (([a].zipIdx l.length).filter fun p =>
        key p.1 ∉ ((l ++ [a]).take p.2).map key ∧ key p.1 ∉ taken).map Prod.fst := by
      by_cases ha : key a ∈ l.map key ++ taken
      · rw [distinct_cons_of_mem key ha]
        rw [List.mem_append, or_iff_not_imp_left] at ha
        simpa [distinct] using ha
      · have hkept : key a ∉ ((l ++ [a]).take l.length).map key ∧ key a ∉ taken := by
          rw [List.take_left, ← not_or, ← List.mem_append]
          exact ha
        rw [distinct_cons_of_not_mem key ha, List.zipIdx_singleton, List.filter_cons_of_pos (by simpa using hkept)]
        rfl
    rw [distinct_append, ih, hlast, List.zipIdx_append, List.filter_append, List.map_append, hbefore, Nat.zero_add]

theorem get?_of_mem_distinct {taken : List κ} {l : List α} {a : α} (h : a ∈ distinct key taken l) :
    get? key (key a) l = some a := by
  induction l generalizing taken with
  | nil => cases h
  | cons b l ih =>
    unfold get?
    by_cases hb : key b ∈ taken
    · have hne : key b ≠ key a := fun heq => (mem_of_mem_distinct key h).2 (heq ▸ hb)
      rw [distinct_cons_of_mem key hb] at h
      rw [List.find?_cons_of_neg (by simpa using hne)]
      exact ih h
    · rw [distinct_cons_of_not_mem key hb] at h
      rcases List.mem_cons.1 h with rfl | h
      · simp
      · have hne : key b ≠ key a := fun heq => (mem_of_mem_distinct key h).2 (heq ▸ List.mem_cons_self ..)
        rw [List.find?_cons_of_neg (by simpa using hne)]
        exact ih h

end Stencil.Keyed
