import Stencil.Proofs.Words
import Stencil.Proofs.WrittenLines

/-!
# Which headers are accepted

A header is a kind and a name, then perhaps `extends` and a base, then perhaps `implements` and any number of
interfaces, and nothing else. A keyword counts as one only where a clause may begin, so that names may be keywords too and
no header can be taken apart in two ways.
-/

namespace Stencil.Outline

/-- The parts of a header as they are written. A clause without interfaces is not the same as no clause. -/
structure HeaderText where
  kind : Kind
  name : Text
  base : Option Text
  interfaces : Option (List Text)

namespace HeaderText

def baseWords : Option Text → List Text
  | none => []
  | some base => ["extends", base]

def interfaceWords : Option (List Text) → List Text
  | none => []
  | some interfaces => "implements" :: interfaces

def words (h : HeaderText) : List Text := h.kind.word :: h.name :: (baseWords h.base ++ interfaceWords h.interfaces)

def declared (h : HeaderText) : Structure where
  name := .ofText h.name
  kind := h.kind
  base := (h.base.map QName.ofText).filter fun q => q.dotted ≠ []
  interfaces := ((h.interfaces.getD []).map QName.ofText).filter fun q => q.dotted ≠ []
  methods := []

end HeaderText

open HeaderText

/-! ## Clauses -/

theorem kind?_eq_some_iff {word : Text} {kind : Kind} : kind? word = some kind ↔ word = kind.word := by
  have hne : Kind.word .iface ≠ Kind.word .klass := by decide
  unfold kind?
  cases kind with
  | klass =>
    by_cases h : word = Kind.word .klass
    · simp [h]
    · by_cases h' : word = Kind.word .iface
      · simp [h', hne]
      · simp [h, h']
  | iface =>
    by_cases h : word = Kind.word .klass
    · simp [h, hne.symm]
    · by_cases h' : word = Kind.word .iface
      · simp [h', hne]
      · simp [h, h']

theorem kind_word_inj {kind kind' : Kind} (h : kind.word = kind'.word) : kind = kind' := by
  have hread := kind?_eq_some_iff.2 h
  rw [kind?_eq_some_iff.2 rfl] at hread
  exact Option.some.inj hread

theorem extends_not_mem_head? (interfaces : Option (List Text)) :
    (interfaceWords interfaces).head? ≠ some (Text.ofString "extends") := by
  cases interfaces with
  | none => simp [interfaceWords]
  | some is => simp [interfaceWords, Text.ofString]

theorem base?_eq_ok_iff {ws rest : List Text} {q : QName} :
    base? ws = .ok (q, rest) ↔
      (∃ base, .ofText base = q ∧ ws = Text.ofString "extends" :: base :: rest) ∨
        ws.head? ≠ some (Text.ofString "extends") ∧ .unset = q ∧ ws = rest := by
  cases ws with
  | nil => simp [base?]
  | cons word ws =>
    by_cases hword : word = Text.ofString "extends"
    · cases ws with
      | nil => simp [base?, hword]
      | cons base ws => simp [base?, hword]
    · simp [base?, hword]

theorem interfaces?_eq_ok_iff {ws : List Text} {qs : List QName} :
    interfaces? ws = .ok qs ↔ ∃ is, interfaceWords is = ws ∧ (is.getD []).map .ofText = qs := by
  constructor
  · intro h
    cases ws with
    | nil =>
      cases h
      exact ⟨none, rfl, rfl⟩
    | cons word ws =>
      rw [interfaces?] at h
      split at h
      · rename_i hword
        cases h
        exact ⟨some ws, by rw [hword]; rfl, rfl⟩
      · cases h
  · rintro ⟨is, rfl, rfl⟩
    cases is with
    | none => rfl
    | some is => simp [interfaceWords, interfaces?]

theorem clauses_eq_ok_iff {ws : List Text} {q : QName} {qs : List QName} :
    (∃ rest, base? ws = .ok (q, rest) ∧ interfaces? rest = .ok qs) ↔
      ∃ base is, baseWords base ++ interfaceWords is = ws ∧ (base.map QName.ofText).getD .unset = q ∧
        (is.getD []).map .ofText = qs := by
  constructor
  · rintro ⟨rest, hbase, hrest⟩
    obtain ⟨is, rfl, rfl⟩ := interfaces?_eq_ok_iff.1 hrest
    rcases base?_eq_ok_iff.1 hbase with ⟨base, rfl, rfl⟩ | ⟨_, rfl, rfl⟩
    · exact ⟨some base, is, rfl, rfl, rfl⟩
    · exact ⟨none, is, rfl, rfl, rfl⟩
  · rintro ⟨base, is, rfl, rfl, rfl⟩
    refine ⟨interfaceWords is, base?_eq_ok_iff.2 ?_, interfaces?_eq_ok_iff.2 ⟨is, rfl, rfl⟩⟩
    cases base with
    | none => exact .inr ⟨extends_not_mem_head? is, rfl, rfl⟩
    | some base => exact .inl ⟨base, rfl, rfl⟩

/-! ## Headers -/

theorem make_eq_declared (h : HeaderText) :
    Structure.make h.kind (.ofText h.name) ((h.base.map QName.ofText).getD .unset) ((h.interfaces.getD []).map .ofText) =
      h.declared := by
  have hempty : ∀ q : QName, (!q.isEmpty) = decide (q.dotted ≠ []) := by
    intro q
    unfold QName.isEmpty
    cases q.dotted <;> simp
  have hbase : ∀ q : QName, (if q.isEmpty then none else some q) = (some q).filter fun q => q.dotted ≠ [] := by
    intro q
    rw [Option.filter_some, ← hempty q]
    cases q.isEmpty <;> rfl
  unfold Structure.make declared
  simp only [hempty]
  cases h.base with
  | none => rfl
  | some base => simp only [Option.map_some, Option.getD_some, hbase]

theorem structure?_eq_ok_iff_words {line : Text} {s : Structure} :
    structure? line = .ok s ↔ ∃ h : HeaderText, headerWords line = h.words ∧ h.declared = s := by
  unfold structure?
  constructor
  · intro hs
    split at hs
    · rename_i word name ws hwords
      split at hs
      · cases hs
      · rename_i kind hkind
        obtain rfl := kind?_eq_some_iff.1 hkind
        cases hbase : base? ws with
        | error e => rw [hbase] at hs; cases hs
        | ok parts =>
          obtain ⟨q, rest⟩ := parts
          cases hrest : interfaces? rest with
          | error e => simp [hbase, hrest, bind, Except.bind] at hs
          | ok qs =>
            obtain ⟨base, is, rfl, rfl, rfl⟩ := clauses_eq_ok_iff.1 ⟨rest, hbase, hrest⟩
            simp only [hbase, hrest, bind, Except.bind, Except.ok.injEq] at hs
            exact ⟨⟨kind, name, base, is⟩, hwords, (make_eq_declared ⟨kind, name, base, is⟩).symm.trans hs⟩
    · cases hs
  · rintro ⟨h, hwords, rfl⟩
    obtain ⟨rest, hbase, hrest⟩ := clauses_eq_ok_iff.2 ⟨h.base, h.interfaces, rfl, rfl, rfl⟩
    have hkind : kind? h.kind.word = some h.kind := kind?_eq_some_iff.2 rfl
    rw [hwords]
    simp only [words, hkind, hbase, hrest, bind, Except.bind, make_eq_declared]

theorem words_injective : Function.Injective words := by
  have hkeyword : ∀ {is : Option (List Text)} {ws : List Text}, interfaceWords is ≠ Text.ofString "extends" :: ws := by
    intro is ws h
    exact extends_not_mem_head? is (by rw [h]; rfl)
  have hinterfaces : ∀ {is is' : Option (List Text)}, interfaceWords is = interfaceWords is' → is = is' := by
    intro is is' h
    cases is with
    | none => cases is' <;> simp_all [interfaceWords]
    | some is => cases is' <;> simp_all [interfaceWords]
  rintro ⟨kind, name, base, is⟩ ⟨kind', name', base', is'⟩ h
  simp only [words, List.cons.injEq] at h
  obtain ⟨hkind, rfl, hclauses⟩ := h
  obtain rfl := kind_word_inj hkind
  -- the third word tells whether there is a base
  cases base with
  | none =>
    cases base' with
    | none => rw [hinterfaces hclauses]
    | some base' => exact absurd hclauses hkeyword
  | some base =>
    cases base' with
    | none => exact absurd hclauses.symm hkeyword
    | some base' =>
      simp only [baseWords, List.cons_append, List.nil_append, List.cons.injEq, true_and] at hclauses
      rw [hclauses.1, hinterfaces hclauses.2]

/-- The words of a line are determined, and a header is accepted exactly if they are those of a kind, a name and clauses.
It then declares what these parts say, and there is one way only to take it apart. -/
theorem header_accepted_iff (line : Text) :
    (∃! ws, line.Runs isBreak ws) ∧
      (∀ s, structure? line = .ok s ↔ ∃ h : HeaderText, line.Runs isBreak h.words ∧ h.declared = s) ∧
      ∀ h h' : HeaderText, line.Runs isBreak h.words → line.Runs isBreak h'.words → h = h' := by
  have hwords : ∀ ws, line.Runs isBreak ws ↔ headerWords line = ws := fun ws => Text.runs_iff
  refine ⟨⟨headerWords line, (hwords _).2 rfl, fun ws hws => ((hwords ws).1 hws).symm⟩, ?_, ?_⟩
  · intro s
    simp only [hwords]
    exact structure?_eq_ok_iff_words
  · intro h h' hh hh'
    rw [hwords] at hh hh'
    exact words_injective (hh.symm.trans hh')

/-- Names that are keywords, and an interface that is empty when it is read. -/
example :
    structure? "interface extends extends implements implements extends,\t" =
      .ok { name := .ofText "extends", kind := .iface, base := some (.ofText "implements"),
            interfaces := [.ofText "extends"], methods := [] } := by
  decide +kernel

end Stencil.Outline
