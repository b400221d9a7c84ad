import Stencil.Proofs.Names
import Stencil.Proofs.Origins

/-!
# Names that are read are clean

Targets write names as they are, so that a separator in a name would be one in what is written. Reading leaves none, and
no white space, however odd, and no brackets make a name empty where one is needed. A tab is no separator, and may stand
in a name.
-/

namespace Stencil

/-! ## Clean structures -/

structure Text.IsPlainWord (t : Text) : Prop where
  ne_nil : t ≠ []
  word : ∀ g ∈ t, ∃ c, g = .char c ∧ ('a' ≤ c ∧ c ≤ 'z' ∨ 'A' ≤ c ∧ c ≤ 'Z' ∨ '0' ≤ c ∧ c ≤ '9' ∨
    c ∈ ['_', '\u017f', '\u212a'])

/-- The type of a parameter: a tag, or a name in which nothing ends a parameter. -/
def TypeRef.IsClean : TypeRef → Prop
  | .builtin tag => tag ∈ tags
  | .named q => q.dotted ≠ [] ∧ q.dotted.FreeOf [' ', ',', ')', '\n', '/', '\\']

structure Param.IsClean (p : Param) : Prop where
  name_ne_nil : p.name ≠ []
  name_free : p.name.FreeOf [' ', ',', ')', '\n']
  type : p.type.IsClean

structure Method.IsClean (m : Method) : Prop where
  name : m.name.IsPlainWord
  returns : m.returns.text.IsPlainWord
  params : ∀ p ∈ m.params, p.IsClean

/-- The name of a structure may be empty, those of its supertypes may not. -/
structure Structure.IsClean (s : Structure) : Prop where
  name : s.name.dotted.FreeOf [' ', ',', '\n', '/', '\\']
  supertypes : ∀ q ∈ s.supertypes, q.dotted ≠ [] ∧ q.dotted.FreeOf [' ', ',', '\n', '/', '\\']
  methods : ∀ m ∈ s.methods, m.IsClean

/-! ## Texts and names -/

theorem Text.FreeOf.mono {cs : List Char} {t u : Text} (h : t.FreeOf cs) (hsub : u ⊆ t) : u.FreeOf cs :=
  fun c hc hmem => h c hc (hsub hmem)

theorem QName.freeOf_ofText {cs : List Char} {t : Text} (h : t.FreeOf cs) (hdot : '.' ∉ cs) :
    (ofText t).dotted.FreeOf (cs ++ ['/', '\\']) := by
  intro c hc hmem
  rw [dotted_ofText] at hmem
  rcases List.mem_append.1 hc with hc | hc
  · rcases mem_of_mem_normalize hmem with ht | heq
    · exact h c hc ht
    · cases heq
      exact hdot hc
  · have hslash := isSlash_of_mem_normalize hmem
    simp only [List.mem_cons, List.not_mem_nil, or_false] at hc
    rcases hc with rfl | rfl <;> cases hslash

namespace Outline

theorem newline_not_mem_of_mem_lines {src line : Text} (h : line ∈ lines src) : .char '\n' ∉ line := by
  obtain ⟨part, hpart, rfl⟩ := List.mem_map.1 h
  intro hmem
  have hsep := (Text.of_mem_splitBy hpart ((Text.dropEndWhile_isPrefix _ _).subset hmem)).2
  simp at hsep

theorem isPlainWord_of_words {w : Text} (hne : w ≠ []) (h : ∀ g ∈ w, isWord g = true) : w.IsPlainWord :=
  ⟨hne, fun g hg => (isWord_iff g).1 (h g hg)⟩

theorem text_ofText_of_words {w : Text} (h : ∀ g ∈ w, isWord g = true) : (TypeRef.ofText w).text = w := by
  unfold TypeRef.ofText
  split
  · rfl
  · exact (QName.dotted_ofText w).trans (normalize_of_words h)

/-! ## Headers -/

theorem freeOf_of_mem_headerWords {line w : Text} (hline : .char '\n' ∉ line) (h : w ∈ headerWords line) :
    w.FreeOf [' ', ',', '\n'] := by
  intro c hc hmem
  obtain ⟨hl, hbreak⟩ := (Text.of_mem_fields h).2 _ hmem
  simp only [List.mem_cons, List.not_mem_nil, or_false] at hc
  rcases hc with rfl | rfl | rfl
  · simp at hbreak
  · simp at hbreak
  · exact hline hl

theorem exists_word_of_structure? {line : Text} {s : Structure} (h : structure? line = .ok s) :
    ∀ q ∈ s.name :: s.supertypes, ∃ w ∈ headerWords line, .ofText w = q := by
  obtain ⟨t, hwords, rfl⟩ := structure?_eq_ok_iff_words.1 h
  rw [hwords]
  intro q hq
  rcases List.mem_cons.1 hq with rfl | hq
  · exact ⟨t.name, by simp [HeaderText.words], rfl⟩
  · rcases List.mem_append.1 hq with hq | hq
    · obtain ⟨w, hw, rfl⟩ := Option.map_eq_some_iff.1 (Option.mem_filter_iff.1 (Option.mem_toList.1 hq)).1
      exact ⟨w, by simp [HeaderText.words, HeaderText.baseWords, hw], rfl⟩
    · obtain ⟨w, hw, rfl⟩ := List.mem_map.1 (List.mem_filter.1 hq).1
      cases hinterfaces : t.interfaces with
      | none => simp [hinterfaces] at hw
      | some is =>
        have his : w ∈ is := by simpa [hinterfaces] using hw
        exact ⟨w, by simp [HeaderText.words, HeaderText.interfaceWords, hinterfaces, his], rfl⟩

/-! ## Parameters -/

section
variable {body part : Text} {t : PartText} (hstands : t.StandsFor part)
include hstands

theorem freeOf_of_mem_words (hbody : body.FreeOf [')', '\n']) (hpart : part ∈ body.split ',') :
    ∀ w ∈ t.words, w ≠ [] ∧ w.FreeOf paramEnds := by
  intro w hw
  obtain ⟨hne, hglyphs⟩ := Text.of_mem_fields (hstands.words.fields_eq ▸ hw)
  refine ⟨hne, ?_⟩
  intro c hc hmem
  obtain ⟨htrim, hspace⟩ := hglyphs _ hmem
  obtain ⟨hb, hcomma⟩ := Text.of_mem_splitBy hpart (Text.mem_of_mem_trim htrim)
  simp only [paramEnds, List.mem_cons, List.not_mem_nil, or_false] at hc
  rcases hc with rfl | rfl | rfl | rfl
  · simp at hspace
  · simp at hcomma
  · exact hbody ')' (by simp) hb
  · exact hbody '\n' (by simp) hb

theorem head?_type {g : Glyph} (hg : t.type.head? = some g) : g.isSpace = false := by
  -- a part is trimmed before it is taken apart, so that its first word stands at its start
  have hstart : ∀ g, part.trim.head? = some g → (g == .char ' ') = false := by
    intro g hg
    have hspace := Text.head?_trim hg
    rw [beq_eq_false_iff_ne]
    rintro rfl
    cases hspace
  obtain ⟨rest, hrest⟩ := hstands.words.isPrefix hstart
  apply Text.head?_trim (t := part)
  rw [← hrest, List.head?_append, hg]
  rfl

theorem isClean_of_gives (hbody : body.FreeOf [')', '\n']) (hpart : part ∈ body.split ',') {p : Param}
    (hgives : t.Gives p) : p.IsClean := by
  have hwords := freeOf_of_mem_words hstands hbody hpart
  obtain ⟨hname_ne, hname_free⟩ := hwords t.name (by simp [PartText.words])
  obtain ⟨htype_ne, htype_free⟩ := hwords t.type (by simp [PartText.words])
  obtain ⟨element, hwritten, htype⟩ := hgives.type
  have hne : element ≠ [] := by
    rintro rfl
    cases harray : p.isArray with
    | true => exact hstands.typed (by simpa [harray, Text.when] using hwritten)
    | false => exact htype_ne (by simpa [harray, Text.when] using hwritten)
  have hfree : element.FreeOf paramEnds := htype_free.mono (hwritten ▸ List.subset_append_left ..)
  have hdotted : (QName.ofText element).dotted ≠ [] := by
    obtain ⟨g, rest, rfl⟩ := List.exists_cons_of_ne_nil hne
    have hg := head?_type hstands (g := g) (by rw [hwritten]; rfl)
    exact QName.dotted_ofText_ne_nil (Text.trim_ne_nil (by simp [Text.isBlank, hg]))
  refine ⟨hgives.name ▸ hname_ne, hgives.name ▸ hname_free, ?_⟩
  rw [htype]
  unfold TypeRef.ofText
  split
  · rename_i htag
    have hmem : element ∈ TypeRef.tags := of_decide_eq_true htag
    exact hmem
  · exact ⟨hdotted, QName.freeOf_ofText hfree (by decide)⟩

end

/-! ## Lines -/

theorem isClean_of_method? {line : Text} (hline : .char '\n' ∉ line) {m : Method} (h : method? line = .ok m) :
    m.IsClean := by
  obtain ⟨s, before, after, hstands, hname, hreturns, hps⟩ := exists_standsIn_of_method? h
  have hbody : s.params.FreeOf [')', '\n'] := by
    intro c hc hmem
    simp only [List.mem_cons, List.not_mem_nil, or_false] at hc
    rcases hc with rfl | rfl
    · exact hstands.params_free hmem
    · exact hline (by simp [hstands.line_eq, hmem])
  refine ⟨?_, ?_, ?_⟩
  · rw [hname]
    exact isPlainWord_of_words hstands.name_ne_nil hstands.name_word
  · rw [hreturns, text_ofText_of_words hstands.returns_word]
    exact isPlainWord_of_words hstands.returns_ne_nil hstands.returns_word
  · intro p hp
    obtain ⟨part, hpart, t, ht, hgives⟩ := exists_part_of_mem hps hp
    exact isClean_of_gives ht hbody hpart hgives

/-- Whatever the source, the names of a structure that is read have no separator in them: its own name and those of its
supertypes, the names and return types of its methods, and the names and types of their parameters. Only its own name
can be empty. -/
theorem structures_clean (src : Text) (s : Structure) (h : s ∈ (read src).catalogue.entries) : s.IsClean := by
  obtain ⟨⟨line, hline, hs⟩, hmethods⟩ := of_mem_read h
  have hbreak := newline_not_mem_of_mem_lines hline
  have hnames : ∀ q ∈ s.name :: s.supertypes, q.dotted.FreeOf [' ', ',', '\n', '/', '\\'] := by
    intro q hq
    obtain ⟨w, hw, rfl⟩ := exists_word_of_structure? hs q hq
    exact QName.freeOf_ofText (freeOf_of_mem_headerWords hbreak hw) (by decide)
  refine ⟨hnames _ (List.mem_cons_self ..), ?_, ?_⟩
  · intro q hq
    exact ⟨(names_of_structure? hs).2 q hq, hnames q (List.mem_cons_of_mem _ hq)⟩
  · intro m hm
    obtain ⟨l, hl, hm⟩ := hmethods m hm
    exact isClean_of_method? (newline_not_mem_of_mem_lines hl) hm

/-- White space of several kinds around names, slashes and backslashes in them, and brackets after them. -/
theorem odd_outline_clean :
    let src : Text := "class \t extends app\\Base\t implements I,\u2003 b/J\n" ++
      "  \u017fet_1 do( int[][] xs ,\u00a0c/D\t[] d\t e)\r\n"
    let s : Structure :=
      { name := .ofText [], kind := .klass, base := some (.ofText "app.Base"),
        interfaces := [.ofText "I", .ofText "b.J"],
        methods := [⟨"do", .named (.ofText "\u017fet_1"),
          [⟨.named (.ofText "int[]"), "xs", true⟩, ⟨.named (.ofText "c.D"), "d\t", true⟩]⟩] }
    s ∈ (read src).catalogue.entries ∧ s.IsClean := by
  intro src s
  have hs : s ∈ (read src).catalogue.entries := by decide +kernel
  exact ⟨hs, structures_clean src s hs⟩

end Outline

end Stencil
