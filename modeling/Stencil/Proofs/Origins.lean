import Stencil.Proofs.Headers
import Stencil.Proofs.Parameters

/-!
# Where structures come from

Every structure that is read was declared by a line, and every method of it stands on a line. What lines can declare
therefore holds of everything that is read: names were given, names of supertypes are not empty, and types are those that
a text can be read as.
-/

namespace Stencil

/-! ## Types that can be read -/

/-- A type that some text is read as. Its name may be a tag, if there was white space around it. -/
def TypeRef.IsWritten (t : TypeRef) : Prop := ∃ written, ofText written = t

structure Method.IsRead (m : Method) : Prop where
  returns : m.returns.IsGiven
  params : ∀ p ∈ m.params, p.type.IsWritten

structure Structure.IsRead (s : Structure) : Prop where
  name : s.name ≠ .unset
  supertypes : ∀ q ∈ s.supertypes, q.dotted ≠ []
  methods : ∀ m ∈ s.methods, m.IsRead

namespace Outline

/-! ## Lines -/

theorem of_mem_blocks {b : Block} {ls : List Text} (h : b ∈ blocks ls) :
    (∃ line ∈ ls, structure? line = .ok b.header) ∧ ∀ line ∈ b.body, line ∈ ls := by
  have hbody : ∀ ls : List Text, ∀ line ∈ bodyOf ls, line ∈ ls := fun ls line hl =>
    (List.takeWhile_prefix _).subset (List.mem_filter.1 hl).1
  induction ls with
  | nil => cases h
  | cons line ls ih =>
    have hlater : b ∈ blocks ls →
        (∃ l ∈ line :: ls, structure? l = .ok b.header) ∧ ∀ l ∈ b.body, l ∈ line :: ls := by
      intro h
      obtain ⟨⟨l, hl, hs⟩, hb⟩ := ih h
      exact ⟨⟨l, List.mem_cons_of_mem _ hl, hs⟩, fun l hl => List.mem_cons_of_mem _ (hb l hl)⟩
    by_cases hk : LineKind.of line = .header
    · cases hs : structure? line with
      | ok s =>
        rw [blocks_cons_ok hk hs] at h
        rcases List.mem_cons.1 h with rfl | h
        · exact ⟨⟨line, by simp, hs⟩, fun l hl => List.mem_cons_of_mem _ (hbody ls l hl)⟩
        · exact hlater h
      | error e =>
        rw [blocks_cons_error hk hs] at h
        exact hlater h
    · rw [blocks_cons_of_ne hk] at h
      exact hlater h

theorem methods_of_structure? {line : Text} {s : Structure} (h : structure? line = .ok s) : s.methods = [] := by
  obtain ⟨t, _, rfl⟩ := structure?_eq_ok_iff_words.1 h
  rfl

/-- A structure that is read is declared on one line, and each of its methods stands on another. -/
theorem of_mem_read {src : Text} {s : Structure} (h : s ∈ (read src).catalogue.entries) :
    (∃ line ∈ lines src, structure? line = .ok { s with methods := [] }) ∧
      ∀ m ∈ s.methods, ∃ line ∈ lines src, method? line = .ok m := by
  have hlist : s ∈ (blocks (lines src)).map Block.built := by
    have hc : (read src).catalogue = _ := catalogue_readLines (lines src)
    rw [hc] at h
    exact Catalogue.mem_of_mem_ofList h
  obtain ⟨b, hb, rfl⟩ := List.mem_map.1 hlist
  obtain ⟨⟨line, hline, hs⟩, hbody⟩ := of_mem_blocks hb
  have hbare := methods_of_structure? hs
  unfold Block.built
  rw [foldl_addMethod, hbare]
  refine ⟨⟨line, hline, ?_⟩, ?_⟩
  · rw [hs, ← hbare]
  · intro m hm
    obtain ⟨l, hl, hread⟩ := List.mem_filterMap.1 (Keyed.mem_of_mem_foldl_put Method.name hm)
    refine ⟨l, hbody l hl, ?_⟩
    cases hl' : method? l with
    | ok m' =>
      rw [hl'] at hread
      rw [Option.some.inj hread]
    | error e =>
      rw [hl'] at hread
      cases hread

/-! ## What lines can declare -/

theorem of_isWord {g : Glyph} (h : isWord g = true) : g.isSpace = false ∧ QName.isSlash g = false := by
  have hascii : ∀ n < 0x80, isWord (.char (Char.ofNat n)) = true →
      Glyph.isSpace (.char (Char.ofNat n)) = false ∧ QName.isSlash (.char (Char.ofNat n)) = false := by decide
  obtain ⟨c, rfl, hc⟩ := (isWord_iff g).1 h
  have hsmall : ∀ {d : Char}, d.toNat < 0x80 → c ≤ d →
      Glyph.isSpace (.char c) = false ∧ QName.isSlash (.char c) = false := by
    intro d hd hle
    have hn := hascii c.toNat (Nat.lt_of_le_of_lt (UInt32.le_iff_toNat_le.1 hle) hd)
    rw [Char.ofNat_toNat] at hn
    exact hn h
  rcases hc with ⟨_, hle⟩ | ⟨_, hle⟩ | ⟨_, hle⟩ | hmem
  · exact hsmall (by decide) hle
  · exact hsmall (by decide) hle
  · exact hsmall (by decide) hle
  · simp only [List.mem_cons, List.not_mem_nil, or_false] at hmem
    rcases hmem with rfl | rfl | rfl
    · decide
    · decide
    · decide

theorem normalize_of_words {w : Text} (h : ∀ g ∈ w, isWord g = true) : QName.normalize w = w := by
  have hkept : w.replaceBy QName.isSlash '.' = w := by
    unfold Text.replaceBy
    rw [List.map_congr_left fun g hg => if_neg (by simp [(of_isWord (h g hg)).2]), List.map_id']
  unfold QName.normalize
  rw [hkept]
  exact Text.trim_eq_self (fun g hg => (of_isWord (h g (List.mem_of_head? hg))).1)
    fun g hg => (of_isWord (h g (List.mem_of_getLast? hg))).1

theorem isGiven_of_words {w : Text} (h : ∀ g ∈ w, isWord g = true) : (TypeRef.ofText w).IsGiven := by
  unfold TypeRef.ofText
  by_cases htag : TypeRef.isTag w = true
  · rw [if_pos htag]
    exact of_decide_eq_true htag
  · rw [if_neg htag]
    refine ⟨QName.ofText_ne_unset w, ?_⟩
    rw [QName.dotted_ofText, normalize_of_words h]
    simpa [TypeRef.isTag] using htag

theorem names_of_structure? {line : Text} {s : Structure} (h : structure? line = .ok s) :
    s.name ≠ .unset ∧ ∀ q ∈ s.supertypes, q.dotted ≠ [] := by
  obtain ⟨t, _, rfl⟩ := structure?_eq_ok_iff_words.1 h
  refine ⟨QName.ofText_ne_unset t.name, ?_⟩
  intro q hq
  rcases List.mem_append.1 hq with hq | hq
  · simpa using (Option.mem_filter_iff.1 (Option.mem_toList.1 hq)).2
  · simpa using (List.mem_filter.1 hq).2

/-- Every parameter stands for a part between commas. -/
theorem exists_part_of_mem {body : Text} {ps : List Param} (h : params? body = .ok ps) {p : Param} (hp : p ∈ ps) :
    ∃ part ∈ body.split ',', ∃ t : PartText, t.StandsFor part ∧ t.Gives p := by
  cases hblank : body.isBlank with
  | true =>
    rw [params?_of_isBlank hblank] at h
    cases h
    cases hp
  | false =>
    have hparts := (params?_eq_ok_iff hblank ps).1 h
    clear h
    generalize body.split ',' = parts at hparts ⊢
    induction hparts with
    | nil => cases hp
    | cons hfirst _ ih =>
      rcases List.mem_cons.1 hp with rfl | hp
      · exact ⟨_, List.mem_cons_self .., hfirst⟩
      · obtain ⟨part, hpart, hstands⟩ := ih hp
        exact ⟨part, List.mem_cons_of_mem _ hpart, hstands⟩

theorem types_of_params? {body : Text} {ps : List Param} (h : params? body = .ok ps) :
    ∀ p ∈ ps, p.type.IsWritten := by
  intro p hp
  obtain ⟨_, _, t, _, hgives⟩ := exists_part_of_mem h hp
  obtain ⟨element, _, htype⟩ := hgives.type
  exact ⟨element, htype.symm⟩

theorem exists_standsIn_of_method? {line : Text} {m : Method} (h : method? line = .ok m) :
    ∃ (s : SignatureText) (before after : Text), s.StandsIn line before after ∧ m.name = s.name ∧
      m.returns = .ofText s.returns ∧ params? s.params = .ok m.params := by
  cases hs : SignatureText.find? line with
  | none =>
    rw [method?_eq_noSignature_iff.2 hs] at h
    cases h
  | some s =>
    rw [method?_of_find? hs] at h
    obtain ⟨before, after, hstands, _⟩ := SignatureText.find?_eq_some_iff.1 hs
    cases hps : params? s.params with
    | error e =>
      rw [hps] at h
      cases h
    | ok ps =>
      rw [hps] at h
      cases h
      exact ⟨s, before, after, hstands, rfl, rfl, hps⟩

theorem isRead_of_method? {line : Text} {m : Method} (h : method? line = .ok m) : m.IsRead := by
  obtain ⟨s, before, after, hstands, _, hreturns, hps⟩ := exists_standsIn_of_method? h
  exact ⟨hreturns ▸ isGiven_of_words hstands.returns_word, types_of_params? hps⟩

theorem isRead_of_mem_read {src : Text} {s : Structure} (h : s ∈ (read src).catalogue.entries) : s.IsRead := by
  obtain ⟨⟨line, _, hs⟩, hmethods⟩ := of_mem_read h
  obtain ⟨hname, hsupertypes⟩ := names_of_structure? hs
  refine ⟨hname, hsupertypes, ?_⟩
  intro m hm
  obtain ⟨l, _, hl⟩ := hmethods m hm
  exact isRead_of_method? hl

end Outline

end Stencil
