import Stencil.Text.Lemmas

/-!
# Texts that were read from bytes

Many lists of glyphs have the same bytes, since the bytes of a character may also stand in a list as stray ones. Reading
makes none of these: it takes a byte for a stray one only where no character begins. Such a text is read back from its
bytes.
-/

namespace Stencil.Text

/-! ## Characters -/

theorem isTail_iff {b : UInt8} : isTail b = true ↔ 0x80 ≤ b.toNat ∧ b.toNat ≤ 0xbf := by
  simp [isTail, UInt8.le_iff_toNat_le]

section
variable {a b c d : UInt8} (rest : List UInt8)

theorem not_lead_one (ha : 0x80 ≤ a.toNat) : ¬ a < 0x80 := by
  rw [UInt8.lt_iff_toNat_lt]
  exact Nat.not_lt.2 ha

theorem not_lead_two (ha : 0xdf < a.toNat) : (0xc2 ≤ a && a ≤ 0xdf && isTail b) = false := by
  have hle : ¬ a ≤ 0xdf := by
    rw [UInt8.le_iff_toNat_le]
    exact Nat.not_le.2 ha
  simp [hle]

theorem character?_one (ha : a.toNat < 0x80) : character? a rest = some (Char.ofNat a.toNat, 0) := by
  unfold character?
  rw [if_pos (UInt8.lt_iff_toNat_lt.2 ha)]

theorem character?_two (ha : 0xc2 ≤ a.toNat ∧ a.toNat ≤ 0xdf) (hb : isTail b = true) :
    character? a (b :: rest) = some (Char.ofNat ((a.toNat - 0xc0) * 64 + tailBits b), 1) := by
  have htwo : (0xc2 ≤ a && a ≤ 0xdf && isTail b) = true := by
    simp [UInt8.le_iff_toNat_le, ha, hb]
  unfold character?
  rw [if_neg (not_lead_one (by omega))]
  simp only [htwo, if_true]

theorem character?_three (ha : 0xe0 ≤ a.toNat ∧ a.toNat ≤ 0xef) (hb : isTail b = true) (hc : isTail c = true)
    (hlow : a.toNat = 0xe0 → 0xa0 ≤ b.toNat) (hhigh : a.toNat = 0xed → b.toNat ≤ 0x9f) :
    character? a (b :: c :: rest) =
      some (Char.ofNat (((a.toNat - 0xe0) * 64 + tailBits b) * 64 + tailBits c), 2) := by
  have hthree : (0xe0 ≤ a && a ≤ 0xef && isTail b && isTail c && (a != 0xe0 || 0xa0 ≤ b) && (a != 0xed || b ≤ 0x9f)) =
      true := by
    simp [UInt8.le_iff_toNat_le, ← UInt8.toNat_inj, ha, hb, hc]
    omega
  unfold character?
  rw [if_neg (not_lead_one (by omega))]
  simp only [not_lead_two (show 0xdf < a.toNat by omega), hthree, if_true, Bool.false_eq_true, if_false]

theorem character?_four (ha : 0xf0 ≤ a.toNat ∧ a.toNat ≤ 0xf4) (hb : isTail b = true) (hc : isTail c = true)
    (hd : isTail d = true) (hlow : a.toNat = 0xf0 → 0x90 ≤ b.toNat) (hhigh : a.toNat = 0xf4 → b.toNat ≤ 0x8f) :
    character? a (b :: c :: d :: rest) =
      some (Char.ofNat ((((a.toNat - 0xf0) * 64 + tailBits b) * 64 + tailBits c) * 64 + tailBits d), 3) := by
  have hthree : (0xe0 ≤ a && a ≤ 0xef && isTail b && isTail c && (a != 0xe0 || 0xa0 ≤ b) && (a != 0xed || b ≤ 0x9f)) =
      false := by
    have hle : ¬ a ≤ 0xef := by
      rw [UInt8.le_iff_toNat_le]
      exact Nat.not_le.2 ha.1
    simp [hle]
  have hfour : (0xf0 ≤ a && a ≤ 0xf4 && isTail b && isTail c && isTail d && (a != 0xf0 || 0x90 ≤ b)
      && (a != 0xf4 || b ≤ 0x8f)) = true := by
    simp [UInt8.le_iff_toNat_le, ← UInt8.toNat_inj, ha, hb, hc, hd]
    omega
  unfold character?
  rw [if_neg (not_lead_one (by omega))]
  simp only [not_lead_two (show 0xdf < a.toNat by omega), hthree, hfour, if_true, Bool.false_eq_true, if_false]

end

theorem tail_of_toNat {n : Nat} {b : UInt8} (hb : b.toNat = n % 64 + 128) :
    isTail b = true ∧ tailBits b = n % 64 := by
  refine ⟨isTail_iff.2 ?_, ?_⟩
  · omega
  · unfold tailBits
    omega

/-- The bytes of a character are read as this character, whatever follows them. -/
theorem character?_utf8EncodeChar (c : Char) :
    ∃ a inner, String.utf8EncodeChar c = a :: inner ∧
      ∀ rest, character? a (inner ++ rest) = some (c, inner.length) := by
  have hchar : ∀ n, n = c.val.toNat → Char.ofNat n = c := by
    rintro n rfl
    exact Char.ofNat_toNat c
  have hvalid : c.val.toNat < 0xd800 ∨ 0xdfff < c.val.toNat ∧ c.val.toNat < 0x110000 := c.valid
  have hbyte : ∀ n < 256, (UInt8.ofNat n).toNat = n := fun n hn => UInt8.toNat_ofNat_of_lt' hn
  simp only [String.utf8EncodeChar]
  generalize c.val.toNat = v at hchar hvalid
  have hlast := hbyte (v % 64 + 128) (by omega)
  have hmiddle := hbyte (v / 64 % 64 + 128) (by omega)
  by_cases hone : v ≤ 127
  · have ha := hbyte v (by omega)
    refine ⟨_, _, if_pos hone, fun rest => ?_⟩
    rw [character?_one _ (by omega), ha, hchar v rfl]
    rfl
  · rw [if_neg hone]
    by_cases htwo : v ≤ 2047
    · have ha := hbyte (v / 64 % 32 + 192) (by omega)
      obtain ⟨htail, hbits⟩ := tail_of_toNat hlast
      refine ⟨_, _, if_pos htwo, fun rest => ?_⟩
      rw [List.singleton_append, character?_two _ (by omega) htail, ha, hbits, hchar _ (by omega)]
      rfl
    · rw [if_neg htwo]
      by_cases hthree : v ≤ 65535
      · have ha := hbyte (v / 4096 % 16 + 224) (by omega)
        obtain ⟨htail, hbits⟩ := tail_of_toNat hmiddle
        obtain ⟨htail', hbits'⟩ := tail_of_toNat hlast
        refine ⟨_, _, if_pos hthree, fun rest => ?_⟩
        rw [List.cons_append, List.singleton_append,
          character?_three _ (by omega) htail htail' (by omega) (by omega), ha, hbits, hbits', hchar _ (by omega)]
        rfl
      · have ha := hbyte (v / 262144 % 8 + 240) (by omega)
        have hb := hbyte (v / 4096 % 64 + 128) (by omega)
        obtain ⟨htail, hbits⟩ := tail_of_toNat hb
        obtain ⟨htail', hbits'⟩ := tail_of_toNat hmiddle
        obtain ⟨htail'', hbits''⟩ := tail_of_toNat hlast
        refine ⟨_, _, if_neg hthree, fun rest => ?_⟩
        rw [List.cons_append, List.cons_append, List.singleton_append,
          character?_four _ (by omega) htail htail' htail'' (by omega) (by omega), ha, hbits, hbits', hbits'',
          hchar _ (by omega)]
        rfl

theorem toNat_val_ofNat {v : Nat} (hv : v.isValidChar) : (Char.ofNat v).val.toNat = v := by
  rw [Char.ofNat, dif_pos hv]
  rfl

theorem ofNat_eq_of_toNat {n : Nat} {b : UInt8} (h : n = b.toNat) : UInt8.ofNat n = b := by
  rw [h, UInt8.ofNat_toNat]

theorem toNat_of_isTail {b : UInt8} (hb : isTail b = true) : b.toNat = tailBits b + 128 ∧ tailBits b < 64 := by
  obtain ⟨hlow, hhigh⟩ := isTail_iff.1 hb
  unfold tailBits
  omega

section
variable {a b c d : UInt8}

theorem utf8EncodeChar_one (ha : a.toNat < 0x80) : String.utf8EncodeChar (Char.ofNat a.toNat) = [a] := by
  simp only [String.utf8EncodeChar, toNat_val_ofNat (.inl (by omega : a.toNat < 0xd800))]
  rw [if_pos (by omega), UInt8.ofNat_toNat]

theorem utf8EncodeChar_two (ha : 0xc2 ≤ a.toNat ∧ a.toNat ≤ 0xdf) (hb : isTail b = true) :
    String.utf8EncodeChar (Char.ofNat ((a.toNat - 0xc0) * 64 + tailBits b)) = [a, b] := by
  obtain ⟨hb, hbits⟩ := toNat_of_isTail hb
  have hvalid : ((a.toNat - 0xc0) * 64 + tailBits b).isValidChar := by
    unfold Nat.isValidChar
    omega
  simp only [String.utf8EncodeChar, toNat_val_ofNat hvalid]
  rw [if_neg (by omega), if_pos (by omega), ofNat_eq_of_toNat (b := a) (by omega),
    ofNat_eq_of_toNat (b := b) (by omega)]

theorem utf8EncodeChar_three (ha : 0xe0 ≤ a.toNat ∧ a.toNat ≤ 0xef) (hb : isTail b = true) (hc : isTail c = true)
    (hlow : a.toNat = 0xe0 → 0xa0 ≤ b.toNat) (hhigh : a.toNat = 0xed → b.toNat ≤ 0x9f) :
    String.utf8EncodeChar (Char.ofNat (((a.toNat - 0xe0) * 64 + tailBits b) * 64 + tailBits c)) = [a, b, c] := by
  obtain ⟨hb, hbits⟩ := toNat_of_isTail hb
  obtain ⟨hc, hcbits⟩ := toNat_of_isTail hc
  have hvalid : (((a.toNat - 0xe0) * 64 + tailBits b) * 64 + tailBits c).isValidChar := by
    unfold Nat.isValidChar
    omega
  simp only [String.utf8EncodeChar, toNat_val_ofNat hvalid]
  rw [if_neg (by omega), if_neg (by omega), if_pos (by omega), ofNat_eq_of_toNat (b := a) (by omega),
    ofNat_eq_of_toNat (b := b) (by omega), ofNat_eq_of_toNat (b := c) (by omega)]

theorem utf8EncodeChar_four (ha : 0xf0 ≤ a.toNat ∧ a.toNat ≤ 0xf4) (hb : isTail b = true) (hc : isTail c = true)
    (hd : isTail d = true) (hlow : a.toNat = 0xf0 → 0x90 ≤ b.toNat) (hhigh : a.toNat = 0xf4 → b.toNat ≤ 0x8f) :
    String.utf8EncodeChar (Char.ofNat ((((a.toNat - 0xf0) * 64 + tailBits b) * 64 + tailBits c) * 64 + tailBits d)) =
      [a, b, c, d] := by
  obtain ⟨hb, hbits⟩ := toNat_of_isTail hb
  obtain ⟨hc, hcbits⟩ := toNat_of_isTail hc
  obtain ⟨hd, hdbits⟩ := toNat_of_isTail hd
  have hvalid : ((((a.toNat - 0xf0) * 64 + tailBits b) * 64 + tailBits c) * 64 + tailBits d).isValidChar := by
    unfold Nat.isValidChar
    omega
  simp only [String.utf8EncodeChar, toNat_val_ofNat hvalid]
  rw [if_neg (by omega), if_neg (by omega), if_neg (by omega), ofNat_eq_of_toNat (b := a) (by omega),
    ofNat_eq_of_toNat (b := b) (by omega), ofNat_eq_of_toNat (b := c) (by omega),
    ofNat_eq_of_toNat (b := d) (by omega)]

end

/-- What is read as a character is spelled by its bytes, of which only the first one is no tail. -/
theorem of_character?_eq_some {a : UInt8} {bytes : List UInt8} {c : Char} {n : Nat}
    (h : character? a bytes = some (c, n)) :
    ∃ inner rest, bytes = inner ++ rest ∧ String.utf8EncodeChar c = a :: inner ∧ ∀ b ∈ inner, isTail b = true := by
  simp only [character?, UInt8.lt_iff_toNat_lt, UInt8.le_iff_toNat_le, Bool.and_eq_true, Bool.or_eq_true, bne_iff_ne,
    ne_eq, ← UInt8.toNat_inj, decide_eq_true_eq, UInt8.reduceToNat] at h
  split at h
  · rename_i ha
    cases h
    exact ⟨[], bytes, rfl, utf8EncodeChar_one ha, by simp⟩
  · split at h
    · rename_i b rest
      split at h
      · rename_i htwo
        obtain ⟨rfl, -⟩ := Prod.mk.inj (Option.some.inj h)
        exact ⟨[b], rest, rfl, utf8EncodeChar_two htwo.1 htwo.2, by simp [htwo.2]⟩
      · split at h
        · rename_i c rest
          split at h
          · rename_i hthree
            obtain ⟨⟨⟨⟨ha, hb⟩, hc⟩, hfirst⟩, hlast⟩ := hthree
            obtain ⟨rfl, -⟩ := Prod.mk.inj (Option.some.inj h)
            exact ⟨[b, c], rest, rfl, utf8EncodeChar_three ha hb hc (by omega) (by omega), by simp [hb, hc]⟩
          · split at h
            · rename_i d rest
              split at h
              · rename_i hfour
                obtain ⟨⟨⟨⟨⟨ha, hb⟩, hc⟩, hd⟩, hfirst⟩, hlast⟩ := hfour
                obtain ⟨rfl, -⟩ := Prod.mk.inj (Option.some.inj h)
                refine ⟨[b, c, d], rest, rfl, utf8EncodeChar_four ha hb hc hd (by omega) (by omega), ?_⟩
                simp [hb, hc, hd]
              · cases h
            · cases h
        · cases h
    · cases h

theorem head?_utf8EncodeChar {c : Char} {b : UInt8} (h : (String.utf8EncodeChar c).head? = some b) :
    isTail b = false := by
  have hvalid : c.val.toNat < 0xd800 ∨ 0xdfff < c.val.toNat ∧ c.val.toNat < 0x110000 := c.valid
  have hbyte : ∀ n < 256, n < 128 ∨ 192 ≤ n → isTail (UInt8.ofNat n) = false := by
    intro n hn hlead
    rw [← Bool.not_eq_true, isTail_iff, UInt8.toNat_ofNat_of_lt' hn]
    omega
  simp only [String.utf8EncodeChar] at h
  split at h
  · cases h
    exact hbyte _ (by omega) (by omega)
  · split at h
    · cases h
      exact hbyte _ (by omega) (by omega)
    · split at h <;> cases h <;> exact hbyte _ (by omega) (by omega)

/-! ## Texts -/

/-- Nowhere in the text do stray bytes spell a character. -/
def IsDecoded (t : Text) : Prop := ∀ before c after, t ≠ before ++ ((String.utf8EncodeChar c).map .stray ++ after)

theorem ofBytes_eq_cons {bytes : List UInt8} {g : Glyph} {t : Text} (h : ofBytes bytes = g :: t) :
    ∃ rest, ofBytes rest = t ∧ ∀ b, g = .stray b → bytes = b :: rest ∧ character? b rest = none := by
  cases bytes with
  | nil => simp [ofBytes] at h
  | cons a rest =>
    rw [ofBytes] at h
    split at h
    · cases h
      exact ⟨_, rfl, by simp⟩
    · rename_i hnone
      cases h
      refine ⟨rest, rfl, ?_⟩
      intro b hb
      cases hb
      exact ⟨rfl, hnone⟩

theorem exists_of_ofBytes_strays {bytes l : List UInt8} {t : Text} (h : ofBytes bytes = l.map .stray ++ t) :
    ∃ rest, bytes = l ++ rest := by
  induction l generalizing bytes with
  | nil => exact ⟨bytes, rfl⟩
  | cons b l ih =>
    obtain ⟨rest, hrest, hstray⟩ := ofBytes_eq_cons h
    obtain ⟨rest', rfl⟩ := ih hrest
    exact ⟨rest', (hstray b rfl).1⟩

theorem isDecoded_ofBytes (bytes : List UInt8) : IsDecoded (ofBytes bytes) := by
  intro before c after h
  induction before generalizing bytes with
  | nil =>
    obtain ⟨a, inner, hbytes, hread⟩ := character?_utf8EncodeChar c
    rw [hbytes] at h
    obtain ⟨rest, hrest, hstray⟩ := ofBytes_eq_cons h
    obtain ⟨rest', rfl⟩ := exists_of_ofBytes_strays hrest
    have hnone := (hstray a rfl).2
    rw [hread] at hnone
    cases hnone
  | cons g before ih =>
    obtain ⟨rest, hrest, _⟩ := ofBytes_eq_cons h
    exact ih rest hrest

theorem IsDecoded.of_infix {t : Text} {before inner after : Text} (ht : IsDecoded t)
    (h : before ++ inner ++ after = t) : IsDecoded inner := by
  intro u c v hinner
  apply ht (before ++ u) c (v ++ after)
  rw [← h, hinner]
  simp only [List.append_assoc]

theorem IsDecoded.trim {t : Text} (ht : IsDecoded t) : IsDecoded t.trim := by
  obtain ⟨before, hbefore⟩ := List.dropWhile_suffix (l := t) Glyph.isSpace
  obtain ⟨after, hafter⟩ := dropEndWhile_isPrefix Glyph.isSpace (t.dropWhile Glyph.isSpace)
  have hinner : before ++ t.trim ++ after = t := by
    rw [List.append_assoc, Text.trim, hafter, hbefore]
  exact ht.of_infix hinner

theorem eq_strays_of_replaceBy {p : Glyph → Bool} {c : Char} {t : Text} {l : List UInt8}
    (h : t.replaceBy p c = l.map .stray) : t = l.map .stray := by
  induction l generalizing t with
  | nil => simpa [replaceBy] using h
  | cons b l ih =>
    obtain ⟨g, t, rfl, hg, ht⟩ := List.map_eq_cons_iff.1 h
    by_cases hp : p g = true
    · simp [hp] at hg
    · rw [if_neg hp] at hg
      rw [hg, ih ht, List.map_cons]

theorem IsDecoded.replaceBy {t : Text} (ht : IsDecoded t) (p : Glyph → Bool) (c : Char) :
    IsDecoded (t.replaceBy p c) := by
  intro u d v h
  obtain ⟨u', rest, rfl, _, hrest⟩ := List.map_eq_append_iff.1 h
  obtain ⟨strays, v', rfl, hstrays, _⟩ := List.map_eq_append_iff.1 hrest
  apply ht u' d v'
  rw [eq_strays_of_replaceBy hstrays]

theorem toBytes_cons (g : Glyph) (t : Text) : toBytes (g :: t) = g.toBytes ++ toBytes t := List.flatMap_cons

theorem eq_strays_of_toBytes {t : Text} {inner rest : List UInt8} (h : t.toBytes = inner ++ rest)
    (htail : ∀ b ∈ inner, isTail b = true) : ∃ t', t = inner.map .stray ++ t' := by
  induction inner generalizing t with
  | nil => exact ⟨t, rfl⟩
  | cons b inner ih =>
    cases t with
    | nil => simp [toBytes] at h
    | cons g t =>
      rw [toBytes_cons] at h
      cases g with
      | char c =>
        obtain ⟨a, bytes, hbytes, -⟩ := character?_utf8EncodeChar c
        have hlead := head?_utf8EncodeChar (c := c) (b := a) (by simp [hbytes])
        simp only [Glyph.toBytes, hbytes, List.cons_append, List.cons.injEq] at h
        rw [h.1, htail b (by simp)] at hlead
        cases hlead
      | stray a =>
        simp only [Glyph.toBytes, List.cons_append, List.nil_append, List.cons.injEq] at h
        obtain ⟨t', rfl⟩ := ih h.2 fun b hb => htail b (by simp [hb])
        exact ⟨t', by simp [h.1]⟩

/-- A text without stray bytes that spell a character is read back from its bytes. -/
theorem ofBytes_toBytes {t : Text} (h : IsDecoded t) : ofBytes t.toBytes = t := by
  induction t with
  | nil => simp [toBytes, ofBytes]
  | cons g t ih =>
    have ih := ih (h.of_infix (h := List.append_nil ([g] ++ t)))
    rw [toBytes_cons]
    cases g with
    | char c =>
      obtain ⟨a, inner, hbytes, hread⟩ := character?_utf8EncodeChar c
      rw [Glyph.toBytes, hbytes, List.cons_append, ofBytes, hread]
      simp [ih]
    | stray b =>
      have hnone : character? b (toBytes t) = none := by
        apply Option.eq_none_iff_forall_ne_some.2
        intro found hread
        obtain ⟨c, n⟩ := found
        obtain ⟨inner, rest, hrest, hbytes, htail⟩ := of_character?_eq_some hread
        -- the bytes after `b` belong to no character, so that they are stray as well
        obtain ⟨t', rfl⟩ := eq_strays_of_toBytes hrest htail
        exact h [] c t' (by simp [hbytes])
      rw [Glyph.toBytes, List.singleton_append, ofBytes, hnone, ih]

end Stencil.Text
