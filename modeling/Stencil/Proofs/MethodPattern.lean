import Mathlib.Data.List.TakeWhile
import Stencil.Outline.Signature

/-!
# The pattern of a method line

The first signature of a line is what the pattern `(?i)([a-z_0-9]+) ([a-z_0-9]+)\(([^)]*)\)` finds, where the leftmost
place counts, repetitions take as much as they can and give back one by one, and case is ignored.
-/

namespace Stencil.Outline

/-! ## Patterns -/

/-- A character without its case. Above U+007F there are two that are another case of a character below. -/
def folded (c : Char) : Char := if c = '\u017f' then 's' else if c = '\u212a' then 'k' else c.toLower

structure CharSet where
  isNegated : Bool
  ranges : List (Char × Char)

def CharSet.inRange (c : Char) : Char × Char → Bool
  | (first, last) =>
    (List.range' first.toNat (last.toNat + 1 - first.toNat)).any fun n => folded (Char.ofNat n) = folded c

-- a stray byte is no character, so it is in no set that is given by characters
def CharSet.has (k : CharSet) : Glyph → Bool
  | .char c => k.isNegated ^^ k.ranges.any (inRange c)
  | .stray _ => k.isNegated

inductive Pattern where
  | one (k : CharSet)
  | many (k : CharSet)
  | group (p : Pattern)
  | seq (p q : Pattern)

/-- A way to match a pattern at the start of a text: what is matched, the texts of the groups, and what is left. -/
structure Way where
  text : Text
  groups : List Text
  rest : Text

def Way.andThen (w v : Way) : Way := ⟨w.text ++ v.text, w.groups ++ v.groups, v.rest⟩

def CharSet.longestFirst (k : CharSet) : Text → List (Text × Text)
  | [] => [([], [])]
  | g :: t =>
    if k.has g then (k.longestFirst t).map (fun (u, r) => (g :: u, r)) ++ [([], g :: t)] else [([], g :: t)]

namespace Pattern

/-- All ways to match, in the order in which they are tried. -/
def ways : Pattern → Text → List Way
  | one _, [] => []
  | one k, g :: t => if k.has g then [⟨[g], [], t⟩] else []
  | many k, t => (k.longestFirst t).map fun (u, r) => ⟨u, [], r⟩
  | group p, t => (p.ways t).map fun w => { w with groups := w.text :: w.groups }
  | seq p q, t => (p.ways t).flatMap fun w => (q.ways w.rest).map w.andThen

/-- The groups of the first way to match at the leftmost place where there is one. -/
def search (p : Pattern) : Text → Option (List Text)
  | [] => (p.ways []).head?.map Way.groups
  | g :: t => ((p.ways (g :: t)).head?.map Way.groups).or (p.search t)

def atLeastOne (k : CharSet) : Pattern := seq (one k) (many k)

def sign (c : Char) : Pattern := one ⟨false, [(c, c)]⟩

end Pattern

open Pattern in
def methodPattern : Pattern :=
  let word : CharSet := ⟨false, [('a', 'z'), ('_', '_'), ('0', '9')]⟩
  let inner : CharSet := ⟨true, [(')', ')')]⟩
  seq (group (atLeastOne word)) (seq (sign ' ')
    (seq (group (atLeastOne word)) (seq (sign '(') (seq (group (many inner)) (sign ')')))))

/-! ## Sets of characters -/

theorem isWord_iff (g : Glyph) :
    isWord g = true ↔ ∃ c, g = .char c ∧ ('a' ≤ c ∧ c ≤ 'z' ∨ 'A' ≤ c ∧ c ≤ 'Z' ∨ '0' ≤ c ∧ c ≤ '9' ∨
      c ∈ ['_', '\u017f', '\u212a']) := by
  have hrange : ∀ {first last c : Char}, (decide (first.val ≤ c.val) && decide (c.val ≤ last.val)) = true ↔
      first ≤ c ∧ c ≤ last := by
    intro first last c
    rw [Bool.and_eq_true, decide_eq_true_iff, decide_eq_true_iff]
    exact Iff.rfl
  have hlower : ∀ c : Char, c.isLower = true ↔ 'a' ≤ c ∧ c ≤ 'z' := fun c => hrange
  have hupper : ∀ c : Char, c.isUpper = true ↔ 'A' ≤ c ∧ c ≤ 'Z' := fun c => decide_eq_true_iff
  have hdigit : ∀ c : Char, c.isDigit = true ↔ '0' ≤ c ∧ c ≤ '9' := fun c => hrange
  have halphanum : ∀ c : Char, c.isAlphanum = (c.isLower || c.isUpper || c.isDigit) := fun c =>
    congrArg (· || c.isDigit) (Bool.or_comm c.isUpper c.isLower)
  cases g with
  | stray b => simp [isWord]
  | char c =>
    simp only [isWord, halphanum, Bool.or_eq_true, hlower, hupper, hdigit, beq_iff_eq, Glyph.char.injEq, List.mem_cons,
      List.not_mem_nil, or_false, exists_eq_left', or_assoc]

namespace CharSet

theorem toNat_folded_lt : ∀ n < 0x80, (folded (Char.ofNat n)).toNat < 0x80 := by decide

theorem folded_eq_self {c : Char} (hs : c ≠ '\u017f') (hk : c ≠ '\u212a') (hupper : ¬ ('A' ≤ c ∧ c ≤ 'Z')) :
    folded c = c := by
  rw [folded, if_neg hs, if_neg hk]
  exact dif_neg hupper

/-- A set of characters below U+0080 is known by what it says of them and of the two above that are a case of one. -/
theorem any_inRange_eq {rs : List (Char × Char)} {p : Char → Bool} (hrs : ∀ r ∈ rs, r.2.toNat < 0x80)
    (hlow : ∀ n < 0x80, rs.any (inRange (Char.ofNat n)) = p (Char.ofNat n))
    (hlong : rs.any (inRange '\u017f') = p '\u017f') (hkelvin : rs.any (inRange '\u212a') = p '\u212a')
    (hhigh : ∀ c, 0x80 ≤ c.toNat → c ≠ '\u017f' → c ≠ '\u212a' → p c = false) (c : Char) :
    rs.any (inRange c) = p c := by
  rcases Nat.lt_or_ge c.toNat 0x80 with hc | hc
  · simpa using hlow c.toNat hc
  by_cases hs : c = '\u017f'
  · exact hs ▸ hlong
  by_cases hk : c = '\u212a'
  · exact hk ▸ hkelvin
  rw [hhigh c hc hs hk, List.any_eq_false]
  intro r hr hin
  obtain ⟨n, hn, heq⟩ := List.any_eq_true.1 hin
  rw [List.mem_range'_1] at hn
  have hlast := hrs r hr
  have hmember := toNat_folded_lt n (by omega)
  have hupper : ¬ ('A' ≤ c ∧ c ≤ 'Z') := fun h => absurd (show c.toNat ≤ 0x5a from h.2) (by omega)
  rw [of_decide_eq_true heq, folded_eq_self hs hk hupper] at hmember
  omega

theorem has_word (g : Glyph) : has ⟨false, [('a', 'z'), ('_', '_'), ('0', '9')]⟩ g = isWord g := by
  cases g with
  | stray b => rfl
  | char c =>
    rw [has, Bool.false_xor]
    refine any_inRange_eq (p := fun c => isWord (.char c)) (by simp) (by decide +kernel) (by decide +kernel)
      (by decide +kernel) ?_ c
    intro c hc hs hk
    by_contra hword
    obtain ⟨c', heq, hcases⟩ := (isWord_iff (.char c)).1 (by simpa using hword)
    cases heq
    have hle : ∀ {last : Char}, c ≤ last → c.toNat ≤ last.toNat := id
    rcases hcases with h | h | h | h
    · exact absurd (hle h.2) (by simp; omega)
    · exact absurd (hle h.2) (by simp; omega)
    · exact absurd (hle h.2) (by simp; omega)
    · simp_all

/-- No character is a case of a sign, which stands below the letters. -/
theorem folded_eq_sign_iff {c d : Char} (hd : d.toNat < 0x40) : folded c = d ↔ c = d := by
  have hne : ∀ {e : Char}, 0x40 ≤ e.toNat → e ≠ d := by
    rintro e he rfl
    omega
  by_cases hs : c = '\u017f'
  · have hfold : folded c = 's' := if_pos hs
    exact iff_of_false (hfold ▸ hne (by decide)) (hs ▸ hne (by decide))
  by_cases hk : c = '\u212a'
  · have hfold : folded c = 'k' := by rw [hk]; decide
    exact iff_of_false (hfold ▸ hne (by decide)) (hk ▸ hne (by decide))
  by_cases hupper : 'A' ≤ c ∧ c ≤ 'Z'
  · have hfirst : 0x41 ≤ c.toNat := hupper.1
    have hlast : c.toNat ≤ 0x5a := hupper.2
    have hletters : ∀ n < 0x5b, 0x41 ≤ n → 0x40 ≤ (folded (Char.ofNat n)).toNat := by decide
    have hfold : 0x40 ≤ (folded c).toNat := by simpa using hletters c.toNat (by omega) hfirst
    exact iff_of_false (hne hfold) (hne (by omega))
  · rw [folded_eq_self hs hk hupper]

theorem has_sign {d : Char} (hd : d.toNat < 0x40) (g : Glyph) : has ⟨false, [(d, d)]⟩ g = (g == .char d) := by
  cases g with
  | stray b => rfl
  | char c =>
    have hself : folded d = d := (folded_eq_sign_iff hd).2 rfl
    have hsame : folded d = folded c ↔ c = d := by rw [hself, eq_comm, folded_eq_sign_iff hd]
    simp [has, inRange, hsame, beq_eq_decide]

theorem has_negated (rs : List (Char × Char)) (g : Glyph) : has ⟨true, rs⟩ g = !has ⟨false, rs⟩ g := by
  cases g <;> simp [has]

end CharSet

/-! ## Repetitions that cannot give back -/

/-- What a repetition gives back begins with a character of its set. Where nothing can follow that does, only the longest
beginning counts. -/
theorem CharSet.flatMap_longestFirst {β : Type} (k : CharSet) {f : Text × Text → List β}
    (hf : ∀ u g r, k.has g = true → f (u, g :: r) = []) (t : Text) :
    (k.longestFirst t).flatMap f = f (t.takeWhile k.has, t.dropWhile k.has) := by
  induction t generalizing f with
  | nil => simp [longestFirst]
  | cons g t ih =>
    unfold longestFirst
    by_cases hg : k.has g = true
    · have hlongest := ih (f := fun p => f (g :: p.1, p.2)) (fun u g' r hg' => hf (g :: u) g' r hg')
      rw [if_pos hg, List.flatMap_append, List.flatMap_map, List.flatMap_singleton, hf [] g t hg, List.append_nil,
        List.takeWhile_cons_of_pos hg, List.dropWhile_cons_of_pos hg]
      exact hlongest
    · rw [if_neg hg, List.takeWhile_cons_of_neg hg, List.dropWhile_cons_of_neg hg, List.flatMap_singleton]

namespace Pattern

/-- The pattern matches nothing that begins with a character of the set. -/
def Avoids (q : Pattern) (k : CharSet) : Prop := ∀ g r, k.has g = true → q.ways (g :: r) = []

theorem ways_group_many {k : CharSet} {q : Pattern} (h : q.Avoids k) (t : Text) :
    (seq (group (many k)) q).ways t =
      (q.ways (t.dropWhile k.has)).map (Way.andThen ⟨t.takeWhile k.has, [t.takeWhile k.has], t.dropWhile k.has⟩) := by
  rw [ways, ways, ways, List.map_map, List.flatMap_map]
  exact k.flatMap_longestFirst (f := fun (u, r) => (q.ways r).map (Way.andThen ⟨u, [u], r⟩))
    (fun u g r hg => by simp [h g r hg]) t

theorem ways_group_atLeastOne {k : CharSet} {q : Pattern} (h : q.Avoids k) (t : Text) :
    (seq (group (atLeastOne k)) q).ways t =
      match t.takeWhile k.has with
      | [] => []
      | u => (q.ways (t.dropWhile k.has)).map (Way.andThen ⟨u, [u], t.dropWhile k.has⟩) := by
  cases t with
  | nil => rfl
  | cons g t =>
    by_cases hg : k.has g = true
    · rw [List.takeWhile_cons_of_pos hg, List.dropWhile_cons_of_pos hg]
      simp only [ways, atLeastOne, hg, if_true, List.flatMap_cons, List.flatMap_nil, List.append_nil, List.map_map,
        List.flatMap_map, Way.andThen, Function.comp_def, List.singleton_append]
      exact k.flatMap_longestFirst (f := fun (u, r) => (q.ways r).map (Way.andThen ⟨g :: u, [g :: u], r⟩))
        (fun u g' r hg' => by simp [h g' r hg']) t
    · rw [List.takeWhile_cons_of_neg hg]
      simp [ways, atLeastOne, hg]

theorem ways_sign {d : Char} (hd : d.toNat < 0x40) (t : Text) :
    (sign d).ways t =
      match t with
      | [] => []
      | g :: t => if g = .char d then [⟨[g], [], t⟩] else [] := by
  cases t with
  | nil => rfl
  | cons g t => by_cases hg : g = .char d <;> simp [sign, ways, CharSet.has_sign hd, hg]

theorem ways_seq_sign {d : Char} (hd : d.toNat < 0x40) (q : Pattern) (t : Text) :
    (seq (sign d) q).ways t =
      match t with
      | [] => []
      | g :: t => if g = .char d then (q.ways t).map (Way.andThen ⟨[g], [], t⟩) else [] := by
  rw [ways, ways_sign hd]
  cases t with
  | nil => rfl
  | cons g t => by_cases hg : g = .char d <;> simp [hg]

theorem seq_sign_avoids {d : Char} (hd : d.toNat < 0x40) {k : CharSet} (hk : k.has (.char d) = false)
    (q : Pattern) : (seq (sign d) q).Avoids k := by
  intro g r hg
  have hne : g ≠ .char d := by
    rintro rfl
    rw [hk] at hg
    cases hg
  rw [ways_seq_sign hd]
  exact if_neg hne

end Pattern

/-! ## The first signature -/

namespace SignatureText

def groups (s : SignatureText) : List Text := [s.returns, s.name, s.params]

def wordBefore? (d : Char) (t : Text) : Option (Text × Text) :=
  match t.takeWhile isWord, t.dropWhile isWord with
  | u@(_ :: _), g :: r => if g = .char d then some (u, r) else none
  | _, _ => none

theorem wordBefore?_eq_some {d : Char} {t : Text} {g : Glyph} {u r : Text} (hu : t.takeWhile isWord = g :: u)
    (hr : t.dropWhile isWord = .char d :: r) : wordBefore? d t = some (g :: u, r) := by
  simp [wordBefore?, hu, hr]

theorem wordBefore?_eq_none {d : Char} {t : Text}
    (h : ∀ g u r, t.takeWhile isWord = g :: u → t.dropWhile isWord = .char d :: r → False) : wordBefore? d t = none := by
  unfold wordBefore?
  split
  · rename_i hu hr
    split
    · rename_i hg
      exact (h _ _ _ hu (hg ▸ hr)).elim
    · rfl
  · rfl

theorem atStart?_eq (t : Text) :
    atStart? t =
      (wordBefore? ' ' t).bind fun (returns, t) =>
        (wordBefore? '(' t).bind fun (name, t) =>
          (Text.cut? ')' t).map fun (params, _) => ⟨returns, name, params⟩ := by
  unfold atStart?
  split
  · rename_i hreturns ht
    rw [wordBefore?_eq_some hreturns ht, Option.bind_some]
    split
    · rename_i hname hbody
      simp only [wordBefore?_eq_some hname hbody, Option.bind_some]
      split
      · rename_i hcut
        rw [hcut]
        rfl
      · rename_i hcut
        rw [hcut]
        rfl
    · rename_i hnot
      simp only [wordBefore?_eq_none hnot, Option.bind_none]
  · rename_i hnot
    rw [wordBefore?_eq_none hnot, Option.bind_none]

end SignatureText

namespace Pattern

open SignatureText (wordBefore?)

theorem ways_word_sign {d : Char} (hd : d.toNat < 0x40) (hsign : isWord (.char d) = false) (q : Pattern) (t : Text) :
    (seq (group (atLeastOne ⟨false, [('a', 'z'), ('_', '_'), ('0', '9')]⟩)) (seq (sign d) q)).ways t =
      (wordBefore? d t).toList.flatMap fun (u, r) => (q.ways r).map (Way.andThen ⟨u ++ [.char d], [u], r⟩) := by
  have hword : CharSet.has ⟨false, [('a', 'z'), ('_', '_'), ('0', '9')]⟩ = isWord := funext CharSet.has_word
  rw [ways_group_atLeastOne (seq_sign_avoids hd (by rw [hword, hsign]) q), hword, wordBefore?]
  cases t.takeWhile isWord with
  | nil => rfl
  | cons g u =>
    simp only
    rw [ways_seq_sign hd]
    cases t.dropWhile isWord with
    | nil => rfl
    | cons g' r =>
      by_cases hg : g' = .char d
      · simp [hg, Way.andThen, Function.comp_def]
      · simp [hg]

theorem ways_params (t : Text) :
    (seq (group (many ⟨true, [(')', ')')]⟩)) (sign ')')).ways t =
      (Text.cut? ')' t).toList.map fun (params, after) => ⟨params ++ [.char ')'], [params], after⟩ := by
  have hinner : CharSet.has ⟨true, [(')', ')')]⟩ = (· != .char ')') := by
    funext g
    rw [CharSet.has_negated, CharSet.has_sign (by decide)]
    rfl
  have havoids : (sign ')').Avoids ⟨true, [(')', ')')]⟩ := by
    intro g r hg
    rw [hinner] at hg
    rw [ways_sign (by decide)]
    exact if_neg (by simpa using hg)
  rw [ways_group_many havoids, hinner, ways_sign (by decide), Text.cut?_eq]
  cases hrest : t.dropWhile (· != .char ')') with
  | nil => rfl
  | cons g after =>
    have hg : g = .char ')' := by
      have hstop := List.head?_dropWhile_not (· != .char ')') t
      rw [hrest] at hstop
      simpa using hstop
    simp [hg, Way.andThen]

end Pattern

namespace SignatureText

theorem groups_head?_ways (t : Text) :
    (methodPattern.ways t).head?.map Way.groups = (atStart? t).map groups := by
  unfold methodPattern
  simp only
  rw [Pattern.ways_word_sign (by decide) rfl, atStart?_eq]
  cases wordBefore? ' ' t with
  | none => rfl
  | some found =>
    obtain ⟨returns, t⟩ := found
    simp only [Option.toList_some, List.flatMap_singleton, Option.bind_some]
    rw [Pattern.ways_word_sign (by decide) rfl]
    cases wordBefore? '(' t with
    | none => rfl
    | some found =>
      obtain ⟨name, t⟩ := found
      simp only [Option.toList_some, List.flatMap_singleton, Option.bind_some]
      rw [Pattern.ways_params]
      cases Text.cut? ')' t with
      | none => rfl
      | some found => rfl

/-- The leftmost way in which the pattern matches is the first signature. -/
theorem search_methodPattern (t : Text) : methodPattern.search t = (find? t).map groups := by
  induction t with
  | nil => rw [Pattern.search, groups_head?_ways]; rfl
  | cons g t ih =>
    rw [Pattern.search, find?, groups_head?_ways, ih]
    cases atStart? (g :: t) <;> rfl

end SignatureText

end Stencil.Outline
