import Stencil.Proofs.Names
import Stencil.Proofs.Selections

/-!
# Patterns without wildcards

A pattern is trimmed before its slashes become dots, a name afterwards, and a pattern is compared byte by byte. Without
wildcards these are the only differences between a pattern and a name, and they make none for a pattern that was read from
bytes: stray bytes that spell a character would match this character, but reading leaves none.
-/

namespace Stencil

theorem Selection.normalize_eq (p : Text) : normalize p = QName.normalize p := (QName.normalize_eq_replaceBy p).symm

namespace Glob

def IsLiteral (p : Text) : Prop := ∀ c ∈ ['*', '?', '['], .char c ∉ p

theorem ofText_of_isLiteral {p : Text} (h : IsLiteral p) : ofText p = ⟨p.map .literal, []⟩ := by
  unfold ofText
  induction p with
  | nil => simp [tokens, ofTokens]
  | cons g p ih =>
    have hp : IsLiteral p := fun c hc hmem => h c hc (by simp [hmem])
    have hg : ∀ c ∈ ['*', '?', '['], g ≠ .char c := fun c hc heq => h c hc (by simp [heq])
    rw [tokens, if_neg (hg _ (by simp)), if_neg (hg _ (by simp)), if_neg (hg _ (by simp)), ofTokens, ih hp]
    rfl

theorem wellFormed_of_isLiteral {p : Text} (h : IsLiteral p) : WellFormed p := by
  rw [wellFormed_iff, ofText_of_isLiteral h]
  simp [atoms]

theorem rest?_literal {l : Glyph} {p t : Text} (hp : Text.IsDecoded (l :: p)) :
    (Atom.literal l).rest? t = some p ↔ t = l :: p := by
  cases t with
  | nil => simp [Atom.rest?]
  | cons g t =>
    cases l with
    | char c => simp [Atom.rest?]
    | stray b =>
      cases g with
      | stray a => simp [Atom.rest?, Glyph.toBytes]
      | char c =>
        -- the byte could only be the first one of the character, and the others would have to follow it
        suffices (Atom.literal (.stray b)).rest? (.char c :: t) ≠ some p by simpa using this
        intro h
        simp only [Atom.rest?, Option.ite_none_right_eq_some, Option.some.injEq] at h
        obtain ⟨hb, rfl⟩ := h
        obtain ⟨inner, hinner⟩ := List.head?_eq_some_iff.1 hb
        apply hp [] c t
        simp only [Glyph.toBytes] at hinner
        simp [Glyph.toBytes, hinner]

theorem remainder_literals {p : Text} (hp : p.IsDecoded) (t : Option Text) :
    remainder (p.map .literal) t = .ok (some []) ↔ t = some p := by
  induction p generalizing t with
  | nil => simp [remainder]
  | cons l p ih =>
    have hrest : Text.IsDecoded p := hp.of_infix (h := List.append_nil ([l] ++ p))
    simp only [List.map_cons, remainder, ih hrest]
    cases t with
    | none => simp
    | some t => simpa using rest?_literal hp

theorem matches_iff_of_isLiteral {p t : Text} (hp : p.IsDecoded) (h : IsLiteral p) : Matches p t ↔ t = p := by
  have hwhole := remainder_literals hp (some t)
  rw [Option.some_inj] at hwhole
  rw [Matches, ofText_of_isLiteral h, matches?, ← hwhole]
  cases remainder (p.map .literal) (some t) with
  | error e => simp [bind, Except.bind]
  | ok rest => cases rest <;> simp [bind, Except.bind, check, pure, Except.pure]

end Glob

/-- A pattern without wildcards that is not blank is accepted, and takes the structures that have it as their name or
their short name. -/
theorem literal_pattern_selects (bytes : List UInt8) (hblank : (Text.ofBytes bytes).isBlank = false)
    (hliteral : ∀ c ∈ ['*', '?', '['], .char c ∉ Text.ofBytes bytes) :
    let name := QName.ofText (Text.ofBytes bytes)
    ∃ sel, Selection.ofTexts [Text.ofBytes bytes] = .ok sel ∧
      ∀ c : Catalogue, sel.select c = c.entries.filter fun s => s.name.same name || s.shortName == name.dotted := by
  intro name
  have hname : Selection.normalize (Text.ofBytes bytes) = name.dotted := by
    rw [Selection.normalize_eq, QName.dotted_ofText]
  have hkept : Selection.kept [Text.ofBytes bytes] = [name.dotted] := by
    simp [Selection.kept, Text.trim_ne_nil hblank, ← hname, Selection.normalize]
  have hdecoded : name.dotted.IsDecoded := by
    rw [← hname]
    exact (Text.isDecoded_ofBytes bytes).trim.replaceBy _ _
  have hplain : Glob.IsLiteral name.dotted := by
    intro c hc hmem
    rw [QName.dotted_ofText] at hmem
    rcases QName.mem_of_mem_normalize hmem with hmem | hdot
    · exact hliteral c hc hmem
    · cases hdot
      simp at hc
  refine ⟨⟨[Glob.ofText name.dotted]⟩, ?_, ?_⟩
  · rw [Selection.ofTexts_eq_ok_iff, hkept]
    simp [Glob.wellFormed_of_isLiteral hplain]
  · intro c
    rw [Selection.select_eq_filter]
    apply List.filter_congr
    intro s _
    have haccepts : ∀ t, (Glob.ofText name.dotted).accepts t = (t == name.dotted) := by
      intro t
      rw [Bool.eq_iff_iff, Glob.accepts_iff, Glob.matches_iff_of_isLiteral hdecoded hplain, beq_iff_eq]
    simp [Selection.accepts, haccepts, QName.same]

/-- The name is written with white space around it, and has a character of two bytes and a byte that is none. -/
theorem odd_name_selected :
    let bytes := [0x20, 0x61, 0x5c, 0xc3, 0xa9, 0x5d, 0x2d, 0xff, 0x0a]
    let named := Structure.make .klass (.ofText (Text.ofString "a.é]-" ++ [.stray 0xff])) .unset []
    let other := Structure.make .klass (.ofText (Text.ofString "a.é]-" ++ [.stray 0xc3])) .unset []
    (Text.ofBytes bytes).isBlank = false ∧ (∀ c ∈ ['*', '?', '['], .char c ∉ Text.ofBytes bytes) ∧
      ∃ sel, Selection.ofTexts [Text.ofBytes bytes] = .ok sel ∧ sel.select (.ofList [other, named]) = [named] := by
  intro bytes named other
  have hread : Text.ofBytes bytes = Text.ofString " a\\é]-" ++ [.stray 0xff, .char '\n'] := by decide +kernel
  have hblank : (Text.ofBytes bytes).isBlank = false := by rw [hread]; decide
  have hliteral : ∀ c ∈ ['*', '?', '['], .char c ∉ Text.ofBytes bytes := by simp [hread, Text.ofString]
  obtain ⟨sel, hsel, hselect⟩ := literal_pattern_selects bytes hblank hliteral
  refine ⟨hblank, hliteral, sel, hsel, ?_⟩
  rw [hselect, hread]
  decide

end Stencil
