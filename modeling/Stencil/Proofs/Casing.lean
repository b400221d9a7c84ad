import Mathlib
import Stencil.Text.Basic
import Stencil.Unicode.Letter

/-!
# What case mappings keep

Lower case keeps letters and digits among themselves. No case mapping makes a sign of another character.
-/

namespace Stencil

namespace Unicode

theorem Shift.of_target? {s : Shift} {n m : Nat} (h : s.target? n = some m) :
    s.first ≤ n ∧ n ≤ s.last ∧ m = s.image + (n - s.first) := by
  unfold Shift.target? at h
  split at h
  · rename_i hn
    cases h
    exact ⟨hn.1, hn.2.1, rfl⟩
  · cases h

/-! ## Letters and digits -/

def isWordChar (c : Char) : Bool := isLetter c || isDigit c

def lettersNear (n : Nat) : List Range :=
  if n < 0xec0 then letterRangesA
  else if n < 0xa610 then letterRangesB
  else if n < 0x10f70 then letterRangesC
  else if n < 0x1d51e then letterRangesD
  else letterRangesE

/-- Whether all images of a row are letters, or none of its characters is a letter or a digit. -/
def Shift.keepsWords (s : Shift) : Bool :=
  let letters := letterRangesA ++ letterRangesB ++ letterRangesC ++ letterRangesD ++ letterRangesE
  let last := s.image + (s.last - s.first)
  (0x61 ≤ s.image && last ≤ 0x7a)
    || (0x80 ≤ s.image && (last < 0xd800 || 0xe000 ≤ s.image && last < 0x110000)
      && (lettersNear s.image).any fun r => r.first ≤ s.image && last ≤ r.last)
    || (letters ++ digitRanges).all fun r => s.last < r.first || r.last < s.first

theorem lower_keepsWords : (lowerShiftsA ++ lowerShiftsB).all Shift.keepsWords = true := by decide +kernel

theorem isLetter_of_near {r : Range} {k : Nat} (hr : r ∈ lettersNear k) {c : Char} (hc : 0x80 ≤ c.toNat)
    (hfirst : r.first ≤ c.toNat) (hlast : c.toNat ≤ r.last) : isLetter c = true := by
  have hmem : r ∈ letterRangesA ++ letterRangesB ++ letterRangesC ++ letterRangesD ++ letterRangesE := by
    unfold lettersNear at hr
    simp only [List.mem_append]
    repeat' split at hr
    all_goals simp [hr]
  unfold isLetter
  rw [if_neg (by omega)]
  exact List.any_eq_true.2 ⟨r, hmem, by simp [Range.has, hfirst, hlast]⟩

theorem exists_range {c : Char} (hc : 0x80 ≤ c.toNat) (h : isWordChar c = true) :
    ∃ r ∈ letterRangesA ++ letterRangesB ++ letterRangesC ++ letterRangesD ++ letterRangesE ++ digitRanges,
      r.first ≤ c.toNat ∧ c.toNat ≤ r.last := by
  have hlt : ¬ c.toNat < 0x80 := by omega
  unfold isWordChar isLetter isDigit at h
  rw [if_neg hlt, if_neg hlt, Bool.or_eq_true] at h
  rcases h with h | h
  · obtain ⟨r, hr, hn⟩ := List.any_eq_true.1 h
    exact ⟨r, List.mem_append_left _ hr, by simpa [Range.has] using hn⟩
  · obtain ⟨r, hr, hn⟩ := List.any_eq_true.1 h
    exact ⟨r, List.mem_append_right _ hr, by simpa [Range.has] using hn⟩

theorem isWordChar_toLower {c : Char} (h : isWordChar c = true) : isWordChar (toLower c) = true := by
  have hascii : ∀ n < 0x80, isWordChar (Char.ofNat n) = true → isWordChar (Char.ofNat n).toLower = true := by decide
  have hsmall : ∀ n < 0x7b, 0x61 ≤ n → isWordChar (Char.ofNat n) = true := by decide
  unfold toLower
  split
  · rename_i hlt
    have hn := hascii c.toNat hlt
    rw [Char.ofNat_toNat] at hn
    exact hn h
  · rename_i hge
    cases hrow : (lowerShiftsA ++ lowerShiftsB).findSome? fun s => s.target? c.toNat with
    | none => exact h
    | some m =>
      obtain ⟨s, hs, htarget⟩ := List.exists_of_findSome?_eq_some hrow
      obtain ⟨hfirst, hlast, hm⟩ := Shift.of_target? htarget
      have hkeeps := List.all_eq_true.1 lower_keepsWords s hs
      simp only [Shift.keepsWords, Bool.or_eq_true, Bool.and_eq_true, decide_eq_true_eq, List.any_eq_true,
        List.all_eq_true] at hkeeps
      -- the row leads to small letters below U+0080, or to letters of the table, or from no letter or digit
      rcases hkeeps with (⟨ha, hz⟩ | ⟨⟨hlow, hvalid⟩, r, hr, hrfirst, hrlast⟩) | hnone
      · exact hsmall m (by omega) (by omega)
      · have hnat : (Char.ofNat m).toNat = m := (Char.toNat_ofNat m).trans (if_pos (by omega))
        have hletter : isLetter (Char.ofNat m) = true := isLetter_of_near hr (by omega) (by omega) (by omega)
        simp [isWordChar, hletter]
      · obtain ⟨r, hr, hn⟩ := exists_range (by omega) h
        have := hnone r hr
        omega

/-! ## Signs -/

def IsSign (d : Char) : Prop := 0 < d.toNat ∧ d.toNat < 0x40

instance (d : Char) : Decidable (IsSign d) := inferInstanceAs (Decidable (_ ∧ _))

theorem ofNat_ne_sign {d : Char} (hd : IsSign d) {n : Nat} (hn : 0x40 ≤ n) : Char.ofNat n ≠ d := by
  rintro rfl
  unfold IsSign at hd
  rw [Char.toNat_ofNat] at hd
  split at hd
  · omega
  · omega

/-- A case mapping makes no sign of another character, if it does not below U+0080 and if all images of its table stand
behind the signs. -/
theorem mapped_ne_sign {f : Char → Char} (hascii : ∀ n < 0x80, IsSign (f (Char.ofNat n)) → f (Char.ofNat n) = Char.ofNat n)
    {rows : List Shift} (hrows : (rows.all fun s => 0x40 ≤ s.image) = true) {d : Char} (hd : IsSign d) {c : Char}
    (hc : c ≠ d) : (if c.toNat < 0x80 then f c else (rows.findSome? fun s => s.target? c.toNat).elim c Char.ofNat) ≠ d := by
  split
  · rename_i hlt
    have h := hascii c.toNat hlt
    rw [Char.ofNat_toNat] at h
    rintro rfl
    exact hc (h hd).symm
  · cases hrow : rows.findSome? fun s => s.target? c.toNat with
    | none => exact hc
    | some m =>
      obtain ⟨s, hs, htarget⟩ := List.exists_of_findSome?_eq_some hrow
      have himage : 0x40 ≤ s.image := by simpa using List.all_eq_true.1 hrows s hs
      have hm := (Shift.of_target? htarget).2.2
      exact ofNat_ne_sign hd (by omega)

theorem toUpper_ne_sign {d : Char} (hd : IsSign d) {c : Char} (hc : c ≠ d) : toUpper c ≠ d :=
  mapped_ne_sign (f := Char.toUpper) (by decide) (by decide) hd hc

theorem toLower_ne_sign {d : Char} (hd : IsSign d) {c : Char} (hc : c ≠ d) : toLower c ≠ d :=
  mapped_ne_sign (f := Char.toLower) (by decide) (by decide) hd hc

end Unicode

namespace Text

variable {d : Char} (hd : Unicode.IsSign d)
include hd

theorem sign_not_mem_capitalize {t : Text} (h : .char d ∉ t) : .char d ∉ t.capitalize := by
  cases t with
  | nil => exact h
  | cons g t =>
    cases g with
    | stray b => exact h
    | char c =>
      have hc : c ≠ d := fun heq => h (heq ▸ List.mem_cons_self ..)
      have ht : .char d ∉ t := fun hmem => h (List.mem_cons_of_mem _ hmem)
      simp [capitalize, ht, (Unicode.toUpper_ne_sign hd hc).symm]

theorem sign_not_mem_lower {t : Text} (h : .char d ∉ t) : .char d ∉ t.lower := by
  intro hmem
  obtain ⟨g, hg, heq⟩ := List.mem_map.1 hmem
  cases g with
  | stray b =>
    obtain rfl : '\ufffd' = d := by simpa using heq
    exact absurd hd (by decide)
  | char c =>
    have hc : c ≠ d := fun hc => h (hc ▸ hg)
    exact Unicode.toLower_ne_sign hd hc (Glyph.char.inj heq)

end Text

end Stencil
