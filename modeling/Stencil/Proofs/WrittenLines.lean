import Mathlib.Data.List.Basic
import Mathlib.Tactic.MkIffOfInductiveProp
import Stencil.Outline.Header
import Stencil.Outline.Signature
import Stencil.Text.Lemmas

/-!
# Lines of an outline that are written

A header and a method have one plain way of writing them. What is written so is read back, if the names have none of the
glyphs that end them. A method is refused if one of its parameters has a type without a name, and for no other reason.
-/

namespace Stencil

/-- A type as it can be read: a tag that is known, or a name that was given and is not a tag. -/
def TypeRef.IsGiven : TypeRef → Prop
  | .builtin tag => tag ∈ tags
  | .named name => name ≠ .unset ∧ name.dotted ∉ tags

instance : DecidablePred TypeRef.IsGiven := fun t =>
  match t with
  | .builtin tag => inferInstanceAs (Decidable (tag ∈ TypeRef.tags))
  | .named name => inferInstanceAs (Decidable (name ≠ .unset ∧ name.dotted ∉ TypeRef.tags))

def Outline.paramEnds : List Char := [' ', ',', ')', '\n']

/-- A parameter whose parts can be told apart. Its type may have no name. -/
@[mk_iff]
structure Param.IsWritable (p : Param) : Prop where
  type_given : p.type.IsGiven
  type_free : p.type.text.FreeOf Outline.paramEnds
  type_no_array : ¬ Text.ofString "[]" <:+ p.type.text
  name_ne_nil : p.name ≠ []
  name_free : p.name.FreeOf Outline.paramEnds
  name_end : ∀ g ∈ p.name.getLast?, g.isSpace = false

@[mk_iff]
structure Method.IsWritable (m : Method) : Prop where
  returns_given : m.returns.IsGiven
  returns_ne_nil : m.returns.text ≠ []
  returns_word : ∀ g ∈ m.returns.text, Outline.isWord g = true
  name_ne_nil : m.name ≠ []
  name_word : ∀ g ∈ m.name, Outline.isWord g = true
  params : ∀ p ∈ m.params, p.IsWritable

/-- A name that is one word of a header. -/
@[mk_iff]
structure QName.IsWritable (q : QName) : Prop where
  ne_nil : q.dotted ≠ []
  free : q.dotted.FreeOf [' ', ',', '\n']

@[mk_iff]
structure Structure.IsWritable (s : Structure) : Prop where
  name : s.name.IsWritable
  base : ∀ q ∈ s.base, q.IsWritable
  interfaces : ∀ q ∈ s.interfaces, q.IsWritable
  methods_distinct : s.methods.Pairwise fun m m' => m.name ≠ m'.name
  methods : ∀ m ∈ s.methods, m.IsWritable

instance : DecidablePred Param.IsWritable := fun p => decidable_of_iff _ (Param.isWritable_iff p).symm

instance : DecidablePred Method.IsWritable := fun m => decidable_of_iff _ (Method.isWritable_iff m).symm

instance : DecidablePred QName.IsWritable := fun q => decidable_of_iff _ (QName.isWritable_iff q).symm

instance : DecidablePred Structure.IsWritable := fun s => decidable_of_iff _ (Structure.isWritable_iff s).symm

namespace TypeRef

theorem ofText_text {t : TypeRef} (h : t.IsGiven) : ofText t.text = t := by
  cases t with
  | builtin tag =>
    have htag : isTag tag = true := decide_eq_true h
    exact if_pos htag
  | named name =>
    obtain ⟨hset, htag⟩ := h
    have hnot : ¬ isTag name.dotted = true := by simpa [isTag] using htag
    unfold ofText text
    rw [if_neg hnot, QName.ofText_dotted hset]

theorem head?_text {t : TypeRef} (h : t.IsGiven) {g : Glyph} (hg : t.text.head? = some g) : g.isSpace = false := by
  cases t with
  | builtin tag =>
    have htags : ∀ tag ∈ tags, ∀ g ∈ tag.head?, g.isSpace = false := by decide
    exact htags tag h g hg
  | named name =>
    have hg : (QName.normalize name.dotted).head? = some g := by rwa [QName.normalize_dotted]
    exact Text.head?_trim hg

end TypeRef

namespace Outline

/-! ## Parameters -/

def typeText (p : Param) : Text := p.type.text ++ Text.when p.isArray "[]"

def writeParam (p : Param) : Text := typeText p ++ .char ' ' :: p.name

section
variable {p : Param} (h : p.IsWritable)
include h

theorem char_not_mem_typeText {c : Char} (hc : c ∈ paramEnds) : .char c ∉ typeText p := by
  have hbrackets : (Text.ofString "[]").FreeOf paramEnds := by decide
  unfold typeText Text.when
  rw [List.mem_append, not_or]
  refine ⟨h.type_free c hc, ?_⟩
  cases p.isArray with
  | true => exact hbrackets c hc
  | false => simp

theorem char_not_mem_writeParam {c : Char} (hc : c ∈ paramEnds) (hne : c ≠ ' ') :
    .char c ∉ writeParam p := by
  unfold writeParam
  rw [List.mem_append, List.mem_cons, not_or, not_or]
  exact ⟨char_not_mem_typeText h hc, by simpa using hne, h.name_free c hc⟩

theorem words_writeParam (ht : typeText p ≠ []) : (writeParam p).words = [typeText p, p.name] := by
  unfold writeParam
  rw [Text.words_append, Text.words_of_not_mem ht (char_not_mem_typeText h (by decide)),
    Text.words_of_not_mem h.name_ne_nil (h.name_free ' ' (by decide))]
  rfl

theorem head?_typeText {g : Glyph} (hg : (typeText p).head? = some g) : g.isSpace = false := by
  have hbrackets : ∀ g ∈ (Text.ofString "[]").head?, g.isSpace = false := by decide
  unfold typeText Text.when at hg
  cases htype : p.type.text with
  | nil =>
    rw [htype, List.nil_append] at hg
    cases harray : p.isArray with
    | true => exact hbrackets g (by simpa [harray] using hg)
    | false => simp [harray] at hg
  | cons a t =>
    apply TypeRef.head?_text h.type_given
    simpa [htype] using hg

theorem trim_writeParam (ht : typeText p ≠ []) : (writeParam p).trim = writeParam p := by
  apply Text.trim_eq_self
  · intro g hg
    apply head?_typeText h
    unfold writeParam at hg
    rwa [List.head?_append_of_ne_nil _ ht] at hg
  · intro g hg
    apply h.name_end
    unfold writeParam at hg
    rwa [List.getLast?_append, List.getLast?_cons_of_ne_nil h.name_ne_nil, Option.or_of_isSome] at hg
    simpa using h.name_ne_nil

theorem param?_writeParam (ht : typeText p ≠ []) :
    param? (writeParam p) = if p.type.text = [] then .error (.untypedParam p.name) else .ok p := by
  have helement : (Text.dropEnd? "[]" (typeText p)).getD (typeText p) = p.type.text ∧
      (Text.dropEnd? "[]" (typeText p)).isSome = p.isArray := by
    unfold typeText Text.when
    cases p.isArray with
    | true =>
      rw [if_pos rfl, Text.dropEnd?_append]
      exact ⟨rfl, rfl⟩
    | false =>
      simp only [Bool.false_eq_true, if_false, List.append_nil]
      rw [Text.dropEnd?_eq_none h.type_no_array]
      exact ⟨rfl, rfl⟩
  unfold param?
  rw [words_writeParam h ht]
  simp only [helement.1, helement.2]
  cases htype : p.type.text with
  | nil => rfl
  | cons g t =>
    have hread : TypeRef.ofText (g :: t) = p.type := htype ▸ TypeRef.ofText_text h.type_given
    simp only [hread, List.cons_ne_nil, if_false]

theorem part?_writeParam (hname : p.type.text ≠ []) (body : Text) : part? body (writeParam p) = .ok p := by
  have ht : typeText p ≠ [] := by simp [typeText, hname]
  unfold part?
  rw [trim_writeParam h ht]
  cases hw : writeParam p with
  | nil => simp [writeParam] at hw
  | cons g t =>
    have hread := param?_writeParam h ht
    rwa [hw, if_neg hname] at hread

/-- A parameter whose type has no name is refused: either its name stands alone, or `[]` stands where a type should. -/
theorem name_of_isOk_part? {body : Text} (hok : (part? body (writeParam p)).isOk = true) : p.type.text ≠ [] := by
  intro hnil
  unfold part? at hok
  by_cases ht : typeText p = []
  · -- all that is left after trimming is the name, and it is taken for a type
    have htrim : (writeParam p).trim = p.name.trim := by
      unfold writeParam
      rw [ht, List.nil_append, Text.trim_cons (by decide)]
    have hspace : .char ' ' ∉ p.name.trim := fun hmem => h.name_free ' ' (by decide) (Text.mem_of_mem_trim hmem)
    rw [htrim] at hok
    cases hname : p.name.trim with
    | nil => simp [hname, Except.isOk, Except.toBool] at hok
    | cons g t =>
      have hwords : Text.words (g :: t) = [g :: t] := Text.words_of_not_mem (by simp) (hname ▸ hspace)
      simp [hname, param?, hwords, Except.isOk, Except.toBool] at hok
  · have hread := param?_writeParam h ht
    rw [trim_writeParam h ht] at hok
    cases hw : writeParam p with
    | nil => simp [writeParam] at hw
    | cons g t =>
      rw [hw, if_pos hnil] at hread
      simp [hw, hread, Except.isOk, Except.toBool] at hok

end

def writeParams (ps : List Param) : Text := Text.join ", " (ps.map writeParam)

theorem part?_trim (body part : Text) : part? body part.trim = part? body part := by
  unfold part?
  rw [Text.trim_trim]

theorem mapM_map_ok {ε α β : Type} {f : α → Except ε β} {g : β → α} {l : List β} (h : ∀ b ∈ l, f (g b) = .ok b) :
    (l.map g).mapM f = .ok l := by
  induction l with
  | nil => rfl
  | cons b l ih =>
    rw [List.map_cons, List.mapM_cons, h b (by simp), ih fun b hb => h b (List.mem_cons_of_mem _ hb)]
    rfl

theorem isOk_of_isOk_mapM {ε α β : Type} {f : α → Except ε β} {l : List α} (h : (l.mapM f).isOk = true) :
    ∀ a ∈ l, (f a).isOk = true := by
  induction l with
  | nil => simp
  | cons a l ih =>
    rw [List.mapM_cons] at h
    cases ha : f a with
    | error e =>
      rw [ha] at h
      cases h
    | ok b =>
      cases hl : l.mapM f with
      | error e =>
        rw [ha, hl] at h
        cases h
      | ok bs =>
        rw [List.forall_mem_cons, ha]
        exact ⟨rfl, ih (by rw [hl]; rfl)⟩

section
variable {ps : List Param} (h : ∀ p ∈ ps, p.IsWritable)
include h

theorem isBlank_writeParams (hne : ps ≠ []) : (writeParams ps).isBlank = false := by
  obtain ⟨p, hp⟩ := List.exists_mem_of_ne_nil ps hne
  have hname := (h p hp).name_ne_nil
  have hlast := (h p hp).name_end _ (List.getLast?_eq_some_getLast hname)
  have hmem : p.name.getLast hname ∈ writeParam p :=
    List.mem_append_right _ (List.mem_cons_of_mem _ (List.getLast_mem hname))
  unfold Text.isBlank
  rw [List.all_eq_false]
  refine ⟨_, Text.mem_join_of_mem _ (List.mem_map_of_mem hp) hmem, ?_⟩
  simp [hlast]

theorem char_not_mem_writeParams {c : Char} (hc : c ∈ [')', '\n']) : .char c ∉ writeParams ps := by
  have hsep : (Text.ofString ", ").FreeOf [')', '\n'] := by decide
  have hne : c ≠ ' ' := by
    rintro rfl
    simp at hc
  refine Text.not_mem_join (hsep c hc) (List.forall_mem_map.2 ?_)
  intro p hp
  exact char_not_mem_writeParam (h p hp) (List.mem_cons_of_mem _ (List.mem_cons_of_mem _ hc)) hne

theorem params?_eq_mapM (hne : ps ≠ []) :
    params? (writeParams ps) = (ps.map writeParam).mapM (part? (writeParams ps)) := by
  have htrim : ∀ l : List Text, (l.map Text.trim).mapM (part? (writeParams ps)) = l.mapM (part? (writeParams ps)) := by
    intro l
    rw [List.mapM_map]
    exact congrArg (l.mapM ·) (funext fun part => part?_trim _ part)
  have hcomma : ∀ part ∈ ps.map writeParam, .char ',' ∉ part := by
    intro part hpart
    obtain ⟨p, hp, rfl⟩ := List.mem_map.1 hpart
    exact char_not_mem_writeParam (h p hp) (by decide) (by decide)
  have hparts : ((writeParams ps).split ',').map Text.trim = (ps.map writeParam).map Text.trim :=
    Text.map_trim_split_join (by decide) (by decide) (by simpa using hne) hcomma
  unfold params?
  rw [isBlank_writeParams h hne, if_neg (by simp), ← htrim, hparts, htrim]

theorem params?_writeParams (hnames : ∀ p ∈ ps, p.type.text ≠ []) : params? (writeParams ps) = .ok ps := by
  by_cases hne : ps = []
  · subst hne
    rfl
  · rw [params?_eq_mapM h hne]
    exact mapM_map_ok fun p hp => part?_writeParam (h p hp) (hnames p hp) _

theorem names_of_isOk_params? (hok : (params? (writeParams ps)).isOk = true) : ∀ p ∈ ps, p.type.text ≠ [] := by
  intro p hp
  rw [params?_eq_mapM h (List.ne_nil_of_mem hp)] at hok
  exact name_of_isOk_part? (h p hp) (isOk_of_isOk_mapM hok _ (List.mem_map_of_mem hp))

end

/-! ## Methods -/

def writeMethod (m : Method) : Text :=
  "  " ++ m.returns.text ++ " " ++ m.name ++ "(" ++ writeParams m.params ++ ")"

theorem atStart?_words {returns name : Text} (hr : returns ≠ []) (hrw : ∀ g ∈ returns, isWord g = true)
    (hn : name ≠ []) (hnw : ∀ g ∈ name, isWord g = true) {params : Text} (hp : .char ')' ∉ params) (rest : Text) :
    SignatureText.atStart? (returns ++ .char ' ' :: (name ++ .char '(' :: (params ++ .char ')' :: rest))) =
      some ⟨returns, name, params⟩ := by
  have htake : ∀ {w : Text}, (∀ g ∈ w, isWord g = true) → ∀ {g : Glyph}, isWord g = false → ∀ t : Text,
      (w ++ g :: t).takeWhile isWord = w ∧ (w ++ g :: t).dropWhile isWord = g :: t := by
    intro w hw g hg t
    rw [List.takeWhile_append_of_pos hw, List.dropWhile_append_of_pos hw]
    simp [hg]
  obtain ⟨hr₁, hr₂⟩ := htake hrw (g := .char ' ') (by decide) (name ++ .char '(' :: (params ++ .char ')' :: rest))
  obtain ⟨hn₁, hn₂⟩ := htake hnw (g := .char '(') (by decide) (params ++ .char ')' :: rest)
  obtain ⟨a, returns, rfl⟩ := List.exists_cons_of_ne_nil hr
  obtain ⟨b, name, rfl⟩ := List.exists_cons_of_ne_nil hn
  unfold SignatureText.atStart?
  rw [hr₁, hr₂]
  simp only [hn₁, hn₂, Text.cut?_append hp]

theorem find?_of_atStart? {t : Text} {s : SignatureText} (h : SignatureText.atStart? t = some s) :
    SignatureText.find? t = some s := by
  cases t with
  | nil => cases h
  | cons g t =>
    rw [SignatureText.find?, h]
    rfl

section
variable {m : Method} (h : m.IsWritable)
include h

/-- The indentation has no word characters, so that the first signature begins with the return type. -/
theorem find?_writeMethod :
    SignatureText.find? (writeMethod m) = some ⟨m.returns.text, m.name, writeParams m.params⟩ := by
  have hline : writeMethod m = .char ' ' :: .char ' ' ::
      (m.returns.text ++ .char ' ' :: (m.name ++ .char '(' :: (writeParams m.params ++ .char ')' :: []))) := by
    simp [writeMethod, Text.ofString]
  have hblank : ∀ t : Text, SignatureText.find? (.char ' ' :: t) = SignatureText.find? t := fun t => rfl
  rw [hline, hblank, hblank]
  apply find?_of_atStart?
  exact atStart?_words h.returns_ne_nil h.returns_word h.name_ne_nil h.name_word
    (char_not_mem_writeParams h.params (by simp)) []

theorem method?_eq_map :
    method? (writeMethod m) = (params? (writeParams m.params)).map fun params => ⟨m.name, m.returns, params⟩ := by
  unfold method?
  rw [find?_writeMethod h]
  simp only [TypeRef.ofText_text h.returns_given]

theorem method?_writeMethod (hnames : ∀ p ∈ m.params, p.type.text ≠ []) : method? (writeMethod m) = .ok m := by
  rw [method?_eq_map h, params?_writeParams h.params hnames]
  rfl

theorem names_of_isOk_method? (hok : (method? (writeMethod m)).isOk = true) : ∀ p ∈ m.params, p.type.text ≠ [] := by
  apply names_of_isOk_params? h.params
  rw [method?_eq_map h] at hok
  cases hp : params? (writeParams m.params) with
  | error e =>
    rw [hp] at hok
    cases hok
  | ok ps => rfl

theorem newline_not_mem_writeMethod : .char '\n' ∉ writeMethod m := by
  have hword : ∀ {w : Text}, (∀ g ∈ w, isWord g = true) → .char '\n' ∉ w := by
    intro w hw hmem
    exact absurd (hw _ hmem) (by decide)
  simp [writeMethod, Text.ofString, hword h.returns_word, hword h.name_word,
    char_not_mem_writeParams h.params (c := '\n') (by simp)]

end

/-! ## Headers -/

def writeClause (keyword : Text) : List QName → Text
  | [] => []
  | qs => .char ' ' :: (keyword ++ .char ' ' :: Text.join ", " (qs.map QName.dotted))

def writeHeader (s : Structure) : Text :=
  s.kind.word ++ .char ' ' :: s.name.dotted ++ writeClause "extends" s.base.toList ++
    writeClause "implements" s.interfaces

def clauseWords (keyword : Text) : List QName → List Text
  | [] => []
  | qs => keyword :: qs.map QName.dotted

def isBreak (g : Glyph) : Bool := g == .char ' ' || g == .char ','

theorem not_isBreak_of_mem_dotted {q : QName} (h : q.IsWritable) : ∀ g ∈ q.dotted, isBreak g = false := by
  intro g hg
  have hspace : g ≠ .char ' ' := fun heq => h.free ' ' (by simp) (heq ▸ hg)
  have hcomma : g ≠ .char ',' := fun heq => h.free ',' (by simp) (heq ▸ hg)
  simp [isBreak, hspace, hcomma]

theorem ofText_dotted_of_isWritable {q : QName} (h : q.IsWritable) : QName.ofText q.dotted = q :=
  QName.ofText_dotted (QName.ne_unset_of_dotted h.ne_nil)

theorem head?_writeClause (keyword : Text) (qs : List QName) :
    ∀ g, (writeClause keyword qs).head? = some g → isBreak g = true := by
  intro g hg
  cases qs with
  | nil => cases hg
  | cons q qs =>
    cases hg
    rfl

theorem suffix_writeClause (keyword : Text) (qs : List QName) (q : QName) :
    q.dotted <:+ writeClause keyword (qs ++ [q]) := by
  have hwrite : writeClause keyword (qs ++ [q]) =
      (.char ' ' :: (keyword ++ [.char ' '])) ++ Text.join ", " (qs.map QName.dotted ++ [q.dotted]) := by
    cases qs with
    | nil => simp [writeClause]
    | cons q' qs => simp [writeClause]
  rw [hwrite]
  exact (Text.suffix_join ..).trans (List.suffix_append ..)

section
variable {qs : List QName} (h : ∀ q ∈ qs, q.IsWritable)
include h

theorem fields_writeClause {keyword : Text} (hne : keyword ≠ []) (hword : ∀ g ∈ keyword, isBreak g = false) :
    (writeClause keyword qs).fields isBreak = clauseWords keyword qs := by
  have hnames : ∀ w ∈ qs.map QName.dotted, w ≠ [] ∧ ∀ g ∈ w, isBreak g = false := by
    intro w hw
    obtain ⟨q, hq, rfl⟩ := List.mem_map.1 hw
    exact ⟨(h q hq).ne_nil, not_isBreak_of_mem_dotted (h q hq)⟩
  have hjoin : (Text.join ", " (qs.map QName.dotted)).fields isBreak = qs.map QName.dotted :=
    Text.fields_join rfl rfl hnames
  cases qs with
  | nil => rfl
  | cons q qs =>
    simp only [writeClause, clauseWords]
    rw [Text.fields_cons rfl, Text.fields_append _ _ rfl, hjoin, Text.fields_of_word hne hword]
    rfl

theorem newline_not_mem_writeClause {keyword : Text} (hkeyword : .char '\n' ∉ keyword) :
    .char '\n' ∉ writeClause keyword qs := by
  have hjoin : .char '\n' ∉ Text.join ", " (qs.map QName.dotted) := by
    refine Text.not_mem_join (by decide) (List.forall_mem_map.2 ?_)
    intro q hq
    exact (h q hq).free '\n' (by simp)
  cases qs with
  | nil => simp [writeClause]
  | cons q qs =>
    simp only [writeClause, List.mem_cons, List.mem_append, not_or]
    exact ⟨by decide, hkeyword, by decide, hjoin⟩

theorem map_ofText_dotted : (qs.map QName.dotted).map QName.ofText = qs := by
  have hid : qs.map (QName.ofText ∘ QName.dotted) = qs.map id :=
    List.map_congr_left fun q hq => ofText_dotted_of_isWritable (h q hq)
  rw [List.map_map, hid, List.map_id]

theorem interfaces?_words : interfaces? (clauseWords "implements" qs) = .ok qs := by
  have hread := map_ofText_dotted h
  cases qs with
  | nil => rfl
  | cons q qs => simp only [clauseWords, interfaces?, if_true, hread]

end

/-- A base that is named like a keyword is a base all the same, since the keyword before it is taken first. -/
theorem base?_words {base : Option QName} (h : ∀ q ∈ base, q.IsWritable) (interfaces : List QName) :
    base? (clauseWords "extends" base.toList ++ clauseWords "implements" interfaces) =
      .ok (base.getD .unset, clauseWords "implements" interfaces) := by
  have hkeyword : Text.ofString "implements" ≠ Text.ofString "extends" := by decide
  cases base with
  | none =>
    cases interfaces with
    | nil => rfl
    | cons q qs =>
      simp only [Option.toList_none, clauseWords, List.nil_append, base?]
      rw [if_neg hkeyword]
      rfl
  | some q => simp [clauseWords, base?, ofText_dotted_of_isWritable (h q rfl)]

section
variable {s : Structure} (h : s.IsWritable)
include h

theorem make_getD :
    Structure.make s.kind s.name (s.base.getD .unset) s.interfaces = { s with methods := [] } := by
  have hbase : (if (s.base.getD .unset).isEmpty then none else some (s.base.getD .unset)) = s.base := by
    cases hb : s.base with
    | none => rfl
    | some q =>
      have hq : q.isEmpty = false := by simpa [QName.isEmpty] using (h.base q hb).ne_nil
      simp [hq]
  have hinterfaces : (s.interfaces.filter fun i => !i.isEmpty) = s.interfaces := by
    rw [List.filter_eq_self]
    intro q hq
    simpa [QName.isEmpty] using (h.interfaces q hq).ne_nil
  unfold Structure.make
  rw [hbase, hinterfaces]

theorem isWritable_of_mem_base : ∀ q ∈ s.base.toList, q.IsWritable := by
  intro q hq
  exact h.base q (Option.mem_toList.1 hq)

theorem headerWords_writeHeader :
    headerWords (writeHeader s) =
      s.kind.word :: s.name.dotted ::
        (clauseWords "extends" s.base.toList ++ clauseWords "implements" s.interfaces) := by
  have hkind : s.kind.word.fields isBreak = [s.kind.word] := by
    cases s.kind with
    | klass => decide
    | iface => decide
  have hbase : (writeClause "extends" s.base.toList).fields isBreak = clauseWords "extends" s.base.toList :=
    fields_writeClause (isWritable_of_mem_base h) (by decide) (by decide)
  have hinterfaces : (writeClause "implements" s.interfaces).fields isBreak = clauseWords "implements" s.interfaces :=
    fields_writeClause h.interfaces (by decide) (by decide)
  have hwords : headerWords (writeHeader s) = (writeHeader s).fields isBreak := rfl
  rw [hwords, writeHeader, Text.fields_append_of_head _ (head?_writeClause _ _),
    Text.fields_append_of_head _ (head?_writeClause _ _), Text.fields_append _ _ rfl, hkind,
    Text.fields_of_word h.name.ne_nil (not_isBreak_of_mem_dotted h.name), hbase, hinterfaces]
  simp

theorem structure?_writeHeader : structure? (writeHeader s) = .ok { s with methods := [] } := by
  have hkind : kind? s.kind.word = some s.kind := by
    cases s.kind with
    | klass => decide
    | iface => decide
  unfold structure?
  rw [headerWords_writeHeader h]
  simp only [hkind, base?_words h.base, interfaces?_words h.interfaces, bind, Except.bind]
  rw [ofText_dotted_of_isWritable h.name, make_getD h]

theorem newline_not_mem_writeHeader : .char '\n' ∉ writeHeader s := by
  have hkind : .char '\n' ∉ s.kind.word := by
    cases s.kind with
    | klass => decide
    | iface => decide
  simp only [writeHeader, List.mem_append, List.mem_cons, not_or]
  refine ⟨⟨⟨hkind, by decide, h.name.free '\n' (by simp)⟩, ?_⟩, ?_⟩
  · exact newline_not_mem_writeClause (isWritable_of_mem_base h) (by decide)
  · exact newline_not_mem_writeClause h.interfaces (by decide)

/-- A header ends with one of its names. -/
theorem suffix_writeHeader : ∃ q : QName, q.IsWritable ∧ q.dotted <:+ writeHeader s := by
  unfold writeHeader
  rcases List.eq_nil_or_concat s.interfaces with hi | ⟨qs, q, hi⟩
  · rw [hi, writeClause, List.append_nil]
    cases hb : s.base with
    | none =>
      rw [Option.toList_none, writeClause, List.append_nil]
      exact ⟨s.name, h.name, (List.suffix_cons ..).trans (List.suffix_append ..)⟩
    | some q => exact ⟨q, h.base q hb, (suffix_writeClause _ [] q).trans (List.suffix_append ..)⟩
  · rw [List.concat_eq_append] at hi
    rw [hi]
    exact ⟨q, h.interfaces q (by simp [hi]), (suffix_writeClause _ qs q).trans (List.suffix_append ..)⟩

end

end Outline

end Stencil
