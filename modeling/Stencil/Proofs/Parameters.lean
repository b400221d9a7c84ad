import Stencil.Proofs.Complaints
import Stencil.Proofs.Signatures
import Stencil.Proofs.Words

/-!
# Which parameters are accepted

What stands between the parentheses of a method is blank, or every part between its commas gives one parameter: its first
word is the type and its second the name, and more words do not matter. Only a space ends a word, whereas all white space
around a part is dropped. One part that is refused makes the whole method refused, and the open structure stays as it is.
-/

namespace Stencil

theorem Text.dropEnd?_eq_some_iff {ending t s : Text} : dropEnd? ending t = some s ↔ t = s ++ ending := by
  constructor
  · intro h
    by_cases hsuffix : ending <:+ t
    · obtain ⟨front, rfl⟩ := hsuffix
      rw [dropEnd?_append] at h
      rw [Option.some.inj h]
    · rw [dropEnd?_eq_none hsuffix] at h
      cases h
  · rintro rfl
    exact dropEnd?_append s ending

namespace Outline

structure PartText where
  type : Text
  name : Text
  more : List Text

namespace PartText

def words (t : PartText) : List Text := t.type :: t.name :: t.more

/-- The part has a type and a name, and the type is not only the mark of an array. -/
structure StandsFor (t : PartText) (part : Text) : Prop where
  words : part.trim.Runs (· == .char ' ') t.words
  typed : t.type ≠ Text.ofString "[]"

structure Gives (t : PartText) (p : Param) : Prop where
  name : p.name = t.name
  array : p.isArray = true ↔ Text.ofString "[]" <:+ t.type
  type : ∃ element, t.type = element ++ Text.when p.isArray "[]" ∧ p.type = .ofText element

end PartText

open PartText

/-! ## One part -/

theorem gives_iff {t : PartText} {p : Param} :
    t.Gives p ↔
      p = ⟨.ofText ((Text.dropEnd? "[]" t.type).getD t.type), t.name, (Text.dropEnd? "[]" t.type).isSome⟩ := by
  constructor
  · rintro ⟨hname, harray, element, htype, hread⟩
    cases p with
    | mk type name isArray =>
      subst hname hread
      cases isArray with
      | true =>
        have hdrop : Text.dropEnd? "[]" t.type = some element := Text.dropEnd?_eq_some_iff.2 htype
        simp [hdrop]
      | false =>
        have hdrop : Text.dropEnd? "[]" t.type = none := Text.dropEnd?_eq_none fun h => by simpa using harray.2 h
        have helement : t.type = element := by simpa [Text.when] using htype
        rw [hdrop, helement]
        rfl
  · rintro rfl
    refine ⟨rfl, ?_, ?_⟩
    · by_cases h : Text.ofString "[]" <:+ t.type
      · obtain ⟨front, hfront⟩ := h
        have hdrop : Text.dropEnd? "[]" t.type = some front := Text.dropEnd?_eq_some_iff.2 hfront.symm
        exact ⟨fun _ => ⟨front, hfront⟩, fun _ => by simp [hdrop]⟩
      · simp [Text.dropEnd?_eq_none h, h]
    · cases hdrop : Text.dropEnd? "[]" t.type with
      | none => exact ⟨t.type, by simp [Text.when], rfl⟩
      | some element => exact ⟨element, Text.dropEnd?_eq_some_iff.1 hdrop, rfl⟩

theorem element_ne_nil_iff {type : Text} (hne : type ≠ []) :
    (Text.dropEnd? "[]" type).getD type ≠ [] ↔ type ≠ Text.ofString "[]" := by
  cases hdrop : Text.dropEnd? "[]" type with
  | none =>
    have htype : type ≠ Text.ofString "[]" := by
      rintro rfl
      cases hdrop
    simp [hne, htype]
  | some element => simp [Text.dropEnd?_eq_some_iff.1 hdrop]

theorem param?_eq_ok_iff {part : Text} {p : Param} :
    param? part = .ok p ↔
      ∃ t : PartText, part.Runs (· == .char ' ') t.words ∧ t.type ≠ Text.ofString "[]" ∧ t.Gives p := by
  have hruns : ∀ ws, part.Runs (· == .char ' ') ws ↔ part.words = ws := fun ws => Text.runs_iff
  have hword : ∀ w ∈ part.words, w ≠ [] := by
    intro w hw
    simpa using (List.mem_filter.1 hw).2
  simp only [hruns, gives_iff]
  unfold param?
  constructor
  · intro h
    split at h
    · rename_i type name more hwords
      simp only at h
      split at h
      · cases h
      · rename_i hne
        cases h
        refine ⟨⟨type, name, more⟩, hwords, (element_ne_nil_iff (hword type (by simp [hwords]))).1 ?_, rfl⟩
        simpa using hne
    · cases h
  · rintro ⟨t, hwords, htyped, rfl⟩
    have helement := (element_ne_nil_iff (hword t.type (by simp [hwords, words]))).2 htyped
    rw [hwords]
    -- the type that is left is not empty, so that the first of the two cases is out
    simp only [words]

theorem part?_eq_ok_iff {body part : Text} {p : Param} :
    part? body part = .ok p ↔ ∃ t : PartText, t.StandsFor part ∧ t.Gives p := by
  have hstands : ∀ t : PartText, t.StandsFor part ↔
      part.trim.Runs (· == .char ' ') t.words ∧ t.type ≠ Text.ofString "[]" :=
    fun t => ⟨fun h => ⟨h.words, h.typed⟩, fun h => ⟨h.1, h.2⟩⟩
  unfold part?
  split
  · rename_i hnil
    constructor
    · intro h
      cases h
    · rintro ⟨t, ht, _⟩
      have hwords := ht.words.fields_eq
      rw [hnil] at hwords
      cases hwords
  · rw [param?_eq_ok_iff]
    simp only [hstands, and_assoc]

theorem exists_gives (t : PartText) : ∃ p, t.Gives p := ⟨_, gives_iff.2 rfl⟩

theorem isOk_part?_iff {body part : Text} :
    (part? body part).isOk = true ↔ ∃ t : PartText, t.StandsFor part := by
  constructor
  · intro h
    cases hp : part? body part with
    | error e => rw [hp] at h; cases h
    | ok p =>
      obtain ⟨t, ht, _⟩ := part?_eq_ok_iff.1 hp
      exact ⟨t, ht⟩
  · rintro ⟨t, ht⟩
    obtain ⟨p, hp⟩ := exists_gives t
    rw [part?_eq_ok_iff.2 ⟨t, ht, hp⟩]
    rfl

/-! ## All parts -/

theorem mapM_eq_ok_iff {ε α β : Type} {f : α → Except ε β} {l : List α} {bs : List β} :
    l.mapM f = .ok bs ↔ List.Forall₂ (fun a b => f a = .ok b) l bs := by
  induction l generalizing bs with
  | nil =>
    rw [List.forall₂_nil_left_iff]
    exact ⟨fun h => (Except.ok.inj h).symm, fun h => h ▸ rfl⟩
  | cons a l ih =>
    rw [List.mapM_cons, List.forall₂_cons_left_iff]
    cases ha : f a with
    | error e => simp [bind, Except.bind]
    | ok b =>
      cases hl : l.mapM f with
      | error e =>
        have hnone : ∀ bs, ¬ List.Forall₂ (fun a b => f a = .ok b) l bs := by
          intro bs h
          rw [ih.2 h] at hl
          cases hl
        simp [bind, Except.bind, hnone]
      | ok bs' =>
        have hone : ∀ bs, List.Forall₂ (fun a b => f a = .ok b) l bs ↔ bs' = bs := by
          intro bs
          rw [← ih, hl, Except.ok.injEq]
        simp [bind, Except.bind, pure, Except.pure, hone, eq_comm]

theorem isOk_mapM_iff {ε α β : Type} {f : α → Except ε β} {l : List α} :
    (l.mapM f).isOk = true ↔ ∀ a ∈ l, (f a).isOk = true := by
  refine ⟨isOk_of_isOk_mapM, fun h => ?_⟩
  cases hl : l.mapM f with
  | ok bs => rfl
  | error e =>
    obtain ⟨a, ha, hfa⟩ := error_of_mapM hl
    have hok := h a ha
    rw [hfa] at hok
    cases hok

theorem params?_of_isBlank {body : Text} (h : body.isBlank = true) : params? body = .ok [] := if_pos h

theorem params?_of_not_isBlank {body : Text} (h : body.isBlank = false) :
    params? body = (body.split ',').mapM (part? body) := if_neg (by simp [h])

theorem isOk_params?_iff (body : Text) :
    (params? body).isOk = true ↔ body.isBlank = true ∨ ∀ part ∈ body.split ',', ∃ t : PartText, t.StandsFor part := by
  cases hblank : body.isBlank with
  | true => simp [params?_of_isBlank hblank, Except.isOk, Except.toBool]
  | false =>
    rw [params?_of_not_isBlank hblank, isOk_mapM_iff]
    simp only [isOk_part?_iff, Bool.false_eq_true, false_or]

theorem params?_eq_ok_iff {body : Text} (h : body.isBlank = false) (ps : List Param) :
    params? body = .ok ps ↔
      List.Forall₂ (fun part p => ∃ t : PartText, t.StandsFor part ∧ t.Gives p) (body.split ',') ps := by
  rw [params?_of_not_isBlank h, mapM_eq_ok_iff]
  simp only [part?_eq_ok_iff]

/-! ## Methods that are refused -/

theorem Progress.opened_readLine_refused {line : Text} {e : SignatureError} (h : LineKind.of line = .method)
    (hm : method? line = .error e) (p : Progress) : (p.readLine line).opened = p.opened := by
  have hopen : p.countLine.opened = p.opened := rfl
  simp only [readLine, h, readMethod, hopen, hm]
  cases ho : p.opened with
  | none => simp [report, hopen, ho]
  | some s => simp [report, hopen, ho]

theorem Progress.diagnostics_readLine_refused {line : Text} {e : SignatureError} (h : LineKind.of line = .method)
    (hm : method? line = .error e) {p : Progress} {s : Structure} (ho : p.opened = some s) :
    (p.readLine line).done.diagnostics = p.done.diagnostics ++ [⟨p.done.counts.lines + 1, .badSignature e⟩] := by
  rw [diagnostics_readLine]
  simp [complaint?, h, hm, ho]

/-- The parameters of a method are accepted exactly if they are blank or every part between commas has a type and a name.
There are as many parameters as parts, each as its part says. If they are refused, so is the method line: it is reported
and the open structure keeps its methods. -/
theorem parameters_accepted_iff (body : Text) :
    ((params? body).isOk = true ↔
        body.isBlank = true ∨ ∀ part ∈ body.split ',', ∃ t : PartText, t.StandsFor part) ∧
      (body.isBlank = true → params? body = .ok []) ∧
      (body.isBlank = false → ∀ ps, params? body = .ok ps ↔
        List.Forall₂ (fun part p => ∃ t : PartText, t.StandsFor part ∧ t.Gives p) (body.split ',') ps) ∧
      ∀ line s e, SignatureText.find? line = some s → s.params = body → params? body = .error e →
        method? line = .error e ∧
          (LineKind.of line = .method → ∀ (p : Progress) (t : Structure), p.opened = some t →
            (p.readLine line).opened = some t ∧
              (p.readLine line).done.diagnostics =
                p.done.diagnostics ++ [⟨p.done.counts.lines + 1, .badSignature e⟩]) := by
  refine ⟨isOk_params?_iff body, params?_of_isBlank, params?_eq_ok_iff, ?_⟩
  intro line s e hs hbody he
  have hm : method? line = .error e := by
    rw [method?_of_find? hs, hbody, he]
    rfl
  refine ⟨hm, ?_⟩
  intro hk p t ho
  exact ⟨(Progress.opened_readLine_refused hk hm p).trans ho, Progress.diagnostics_readLine_refused hk hm ho⟩

/-- A tab is part of a word, and only the last mark of an array counts. -/
example :
    params? "int[][] xs , app.Job\t[] job more" =
      .ok [⟨.ofText "int[]", "xs", true⟩, ⟨.ofText "app.Job", "job", true⟩] := by
  decide +kernel

end Outline

end Stencil
