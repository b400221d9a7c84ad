import Stencil.Text.Lemmas

/-!
# File paths

Paths are written with slashes. A clean path has no empty part and no `.`, and `..` only at its start.
-/

namespace Stencil.FilePath

def push (rooted : Bool) (before : List Text) (part : Text) : List Text :=
  if part = [] ∨ part = Text.ofString "." then before
  else if part = Text.ofString ".." then
    match before with
    | [] => if rooted then [] else [part]
    | last :: rest => if last = part then part :: before else rest
  else part :: before

def isRooted : Text → Bool
  | .char '/' :: _ => true
  | _ => false

def parts (path : Text) : List Text := ((path.split '/').foldl (push (isRooted path)) []).reverse

def clean (path : Text) : Text :=
  let cleaned := Text.join "/" (parts path)
  if isRooted path then "/" ++ cleaned else if cleaned = [] then "." else cleaned

def join (elements : List Text) : Text :=
  -- empty when all parts are
  let elements := elements.filter (· ≠ [])
  if elements.isEmpty then [] else clean (Text.join "/" elements)

/-! ## Paths made of names -/

/-- A name that can be a part of a path: it is not empty, not `.` and not `..`, and it has no slash. -/
def IsPart (t : Text) : Prop := t ≠ [] ∧ t ≠ Text.ofString "." ∧ t ≠ Text.ofString ".." ∧ .char '/' ∉ t

/-- A path made of names, which leads down from where it starts. -/
def IsRelative (path : Text) : Prop :=
  ∃ ps : List Text, ps ≠ [] ∧ (∀ part ∈ ps, IsPart part) ∧ path = Text.join [.char '/'] ps

theorem push_of_isPart {part : Text} (h : IsPart part) (rooted : Bool) (before : List Text) :
    push rooted before part = part :: before := by
  obtain ⟨hnil, hdot, hdots, _⟩ := h
  simp [push, hnil, hdot, hdots]

theorem foldl_push {ps : List Text} (h : ∀ part ∈ ps, IsPart part) (rooted : Bool) (before : List Text) :
    ps.foldl (push rooted) before = ps.reverse ++ before := by
  induction ps generalizing before with
  | nil => rfl
  | cons part ps ih =>
    rw [List.foldl_cons, push_of_isPart (h part (List.mem_cons_self ..)),
      ih fun q hq => h q (List.mem_cons_of_mem _ hq)]
    simp

theorem mem_push {rooted : Bool} {before : List Text} {part t : Text} (h : t ∈ push rooted before part) :
    t ∈ before ∨ t = part ∧ t ≠ [] ∧ t ≠ Text.ofString "." := by
  unfold push at h
  split at h
  · exact .inl h
  · rename_i hpart
    obtain ⟨hnil, hdot⟩ := not_or.1 hpart
    have hself : ∀ {t : Text}, t = part → t = part ∧ t ≠ [] ∧ t ≠ Text.ofString "." := by
      rintro t rfl
      exact ⟨rfl, hnil, hdot⟩
    split at h
    · split at h
      · split at h
        · cases h
        · exact .inr (hself (List.mem_singleton.1 h))
      · rename_i last rest
        split at h
        · exact (List.mem_cons.1 h).symm.imp_right hself
        · exact .inl (List.mem_cons_of_mem _ h)
    · exact (List.mem_cons.1 h).symm.imp_right hself

theorem mem_foldl_push {rooted : Bool} {ps before : List Text} {t : Text} (h : t ∈ ps.foldl (push rooted) before) :
    t ∈ before ∨ t ∈ ps ∧ t ≠ [] ∧ t ≠ Text.ofString "." := by
  induction ps generalizing before with
  | nil => exact .inl h
  | cons part ps ih =>
    rcases ih h with h | ⟨h, hproper⟩
    · rcases mem_push h with h | ⟨rfl, hproper⟩
      · exact .inl h
      · exact .inr ⟨List.mem_cons_self .., hproper⟩
    · exact .inr ⟨List.mem_cons_of_mem _ h, hproper⟩

theorem of_mem_parts {path t : Text} (h : t ∈ parts path) :
    t ≠ [] ∧ t ≠ Text.ofString "." ∧ .char '/' ∉ t := by
  rcases mem_foldl_push (List.mem_reverse.1 h) with h | ⟨h, hnil, hdot⟩
  · cases h
  · refine ⟨hnil, hdot, fun hslash => ?_⟩
    simpa using (Text.of_mem_splitBy h hslash).2

theorem isRooted_eq (t : Text) : isRooted t = decide (t.head? = some (.char '/')) := by
  unfold isRooted
  split
  · rfl
  · rename_i hne
    cases t with
    | nil => rfl
    | cons g t => simpa using fun hg : g = .char '/' => hne t (hg ▸ rfl)

theorem isRooted_append {s : Text} (h : s ≠ []) (t : Text) : isRooted (s ++ t) = isRooted s := by
  cases s with
  | nil => exact absurd rfl h
  | cons g s => simp [isRooted_eq]

theorem isRooted_of_isPart {t : Text} (h : IsPart t) : isRooted t = false := by
  rw [isRooted_eq]
  exact decide_eq_false fun hhead => h.2.2.2 (List.mem_of_mem_head? hhead)

theorem join_eq_clean {elements kept : List Text} (h : elements.filter (· ≠ []) = kept) (hne : kept ≠ []) :
    join elements = clean (Text.join [.char '/'] kept) := by
  subst h
  exact if_neg (by simpa using hne)

section
variable {ps : List Text} (hne : ps ≠ []) (hps : ∀ part ∈ ps, IsPart part)
include hne hps

theorem join_ne_nil_of_isPart : Text.join [.char '/'] ps ≠ [] := by
  obtain ⟨part, hp⟩ := List.exists_mem_of_ne_nil ps hne
  exact Text.join_ne_nil hp (hps part hp).1

theorem isRooted_join : isRooted (Text.join [.char '/'] ps) = false := by
  cases ps with
  | nil => exact absurd rfl hne
  | cons part ps =>
    have hpart := hps part (List.mem_cons_self ..)
    by_cases hrest : ps = []
    · subst hrest
      simpa [Text.join, List.intercalate] using isRooted_of_isPart hpart
    · rw [Text.join_cons _ _ hrest, List.append_assoc, isRooted_append hpart.1, isRooted_of_isPart hpart]

theorem splitBy_join : Text.splitBy (· == .char '/') (Text.join [.char '/'] ps) = ps :=
  Text.split_join hne fun part hp => (hps part hp).2.2.2

theorem clean_join : clean (Text.join [.char '/'] ps) = Text.join [.char '/'] ps := by
  have hparts : parts (Text.join [.char '/'] ps) = ps := by
    unfold parts Text.split
    rw [splitBy_join hne hps, foldl_push hps]
    simp
  unfold clean
  rw [isRooted_join hne hps, hparts]
  exact if_neg (join_ne_nil_of_isPart hne hps)

/-- From a directory, a path made of names goes on where the directory ends. -/
theorem join_dir {dir : Text} (hdir : dir ≠ []) :
    join [dir, Text.join [.char '/'] ps] =
      Text.when (isRooted dir) "/" ++ Text.join [.char '/'] (parts dir ++ ps) := by
  have hnil := join_ne_nil_of_isPart hne hps
  have hpath : Text.join [.char '/'] [dir, Text.join [.char '/'] ps] = dir ++ .char '/' :: Text.join [.char '/'] ps := by
    rw [Text.join_cons _ _ (by simp)]
    simp [Text.join, List.intercalate]
  have hrooted : isRooted (dir ++ .char '/' :: Text.join [.char '/'] ps) = isRooted dir := isRooted_append hdir _
  have hparts : parts (dir ++ .char '/' :: Text.join [.char '/'] ps) = parts dir ++ ps := by
    unfold parts Text.split
    rw [hrooted, Text.splitBy_append _ _ (by simp), splitBy_join hne hps, List.foldl_append, foldl_push hps]
    simp
  have hcleaned : Text.join [.char '/'] (parts dir ++ ps) ≠ [] := by
    obtain ⟨part, hp⟩ := List.exists_mem_of_ne_nil ps hne
    exact Text.join_ne_nil (List.mem_append_right _ hp) (hps part hp).1
  have hkept : [dir, Text.join [.char '/'] ps].filter (· ≠ []) = [dir, Text.join [.char '/'] ps] := by
    simp [hdir, hnil]
  rw [join_eq_clean hkept (by simp), hpath]
  unfold clean
  rw [hrooted, hparts]
  cases isRooted dir with
  | true => rfl
  | false => exact if_neg hcleaned

end

theorem join_dir_inj {dir : Text} (hdir : dir ≠ []) {s t : Text} (hs : IsRelative s) (ht : IsRelative t)
    (h : join [dir, s] = join [dir, t]) : s = t := by
  obtain ⟨ps, hpne, hps, rfl⟩ := hs
  obtain ⟨qs, hqne, hqs, rfl⟩ := ht
  rw [join_dir hpne hps hdir, join_dir hqne hqs hdir, List.append_cancel_left_eq] at h
  have hslash : ∀ {l : List Text}, (∀ part ∈ l, IsPart part) → ∀ part ∈ parts dir ++ l, .char '/' ∉ part := by
    intro l hl part hp
    rcases List.mem_append.1 hp with hp | hp
    · exact (of_mem_parts hp).2.2
    · exact (hl part hp).2.2.2
  -- no part has a slash, so that the joined path can be split again
  have heq : parts dir ++ ps = parts dir ++ qs := by
    rw [← Text.split_join (List.append_ne_nil_of_right_ne_nil _ hpne) (hslash hps), h,
      Text.split_join (List.append_ne_nil_of_right_ne_nil _ hqne) (hslash hqs)]
  rw [List.append_cancel_left_eq] at heq
  rw [heq]

theorem join_segments {segments : List Text} (h : ∀ t ∈ segments, t ≠ [] → IsPart t) :
    join segments = Text.join [.char '/'] (segments.filter (· ≠ [])) := by
  have hparts : ∀ part ∈ segments.filter (· ≠ []), IsPart part := by
    intro part hp
    obtain ⟨hmem, hne⟩ := List.mem_filter.1 hp
    exact h part hmem (by simpa using hne)
  by_cases hkept : segments.filter (· ≠ []) = []
  · have hjoin : join segments = [] := if_pos (by rw [hkept]; rfl)
    rw [hjoin, hkept]
    rfl
  · rw [join_eq_clean rfl hkept, clean_join hkept hparts]

theorem isPart_of_length {t : Text} (hlen : 2 < t.length) (hslash : .char '/' ∉ t) : IsPart t := by
  have hne : ∀ {u : Text}, u.length ≤ 2 → t ≠ u := by
    rintro u hu rfl
    omega
  exact ⟨hne (by decide), hne (by decide), hne (by decide), hslash⟩

theorem isRelative_of_isPart {t : Text} (h : IsPart t) : IsRelative t :=
  ⟨[t], by simp, fun part hp => List.mem_singleton.1 hp ▸ h, by simp [Text.join, List.intercalate]⟩

/-- A long ending belongs to the last part, or is a part by itself. -/
theorem isRelative_append {ps : List Text} (hps : ∀ part ∈ ps, IsPart part) {ending : Text} (hlen : 2 < ending.length)
    (hslash : .char '/' ∉ ending) : IsRelative (Text.join [.char '/'] ps ++ ending) := by
  rcases List.eq_nil_or_concat ps with rfl | ⟨init, last, rfl⟩
  · exact isRelative_of_isPart (isPart_of_length hlen hslash)
  · rw [List.concat_eq_append] at hps ⊢
    refine ⟨init ++ [last ++ ending], by simp, ?_, Text.join_concat_append ..⟩
    intro part hp
    rcases List.mem_append.1 hp with hp | hp
    · exact hps part (List.mem_append_left _ hp)
    · rw [List.mem_singleton.1 hp]
      apply isPart_of_length
      · rw [List.length_append]
        omega
      · simp [hslash, (hps last (by simp)).2.2.2]

end Stencil.FilePath
