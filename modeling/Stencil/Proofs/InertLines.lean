import Stencil.Proofs.JoinedOutlines
import Stencil.Proofs.LineAccounts
import Stencil.Proofs.LineEndings

/-!
# Lines that may be put in anywhere

A blank line, a comment, or an indented line without a method that is accepted changes nothing about what an outline
declares, wherever it is put in. It is counted or reported itself, and what is reported further down moves by one line.
-/

namespace Stencil.Outline

/-- A line that declares nothing, whatever stands around it. -/
def IsInert (line : Text) : Prop :=
  line.isBlank = true ∨ startsComment line = true ∨ startsIndented line = true ∧ (method? line).isOk = false

def insertLine (i : Nat) (line src : Text) : Text :=
  Text.join [.char '\n'] ((src.split '\n').take i ++ line :: (src.split '\n').drop i)

theorem lines_insertLine {line : Text} (h : .char '\n' ∉ line) (i : Nat) (src : Text) :
    lines (insertLine i line src) = (lines src).take i ++ stripped line :: (lines src).drop i := by
  have hlines : lines src = (src.split '\n').map stripped := rfl
  have hunbroken : ∀ part ∈ src.split '\n', .char '\n' ∉ part := by
    intro part hpart hbreak
    exact absurd (Text.of_mem_splitBy hpart hbreak).2 (by simp)
  unfold insertLine
  rw [lines_join (by simp), hlines, List.map_append, List.map_cons, List.map_take, List.map_drop]
  intro part hpart
  rcases List.mem_append.1 hpart with hpart | hpart
  · exact hunbroken part (List.mem_of_mem_take hpart)
  · rcases List.mem_cons.1 hpart with rfl | hpart
    · exact h
    · exact hunbroken part (List.mem_of_mem_drop hpart)

/-! ## The kind of an inert line -/

theorem IsInert.kind_ne {line : Text} (h : IsInert line) : LineKind.of line ≠ .header := by
  rcases h with h | h | ⟨h, _⟩
  · rw [kind_eq_blank_iff.2 h]
    simp
  · rw [kind_eq_comment_iff.2 h]
    simp
  · unfold LineKind.of
    rw [if_pos h]
    split
    · simp
    · split <;> simp

theorem IsInert.kind_eq_method_iff {line : Text} (h : IsInert line) :
    LineKind.of line = .method ↔ ¬ (line.isBlank || startsComment line) = true := by
  have hne := h.kind_ne
  rw [Bool.or_eq_true, ← kind_eq_blank_iff, ← kind_eq_comment_iff]
  cases hk : LineKind.of line with
  | blank => simp
  | comment => simp
  | method => simp
  | header => exact absurd hk hne

theorem IsInert.refused {line : Text} (h : IsInert line) (hk : LineKind.of line = .method) :
    ∃ e, method? line = .error e := by
  rcases h with h | h | ⟨_, h⟩
  · rw [kind_eq_blank_iff.2 h] at hk
    cases hk
  · rw [kind_eq_comment_iff.2 h] at hk
    cases hk
  · cases hm : method? line with
    | error e => exact ⟨e, rfl⟩
    | ok m => rw [hm] at h; cases h

/-! ## Reading with an inert line put in -/

section
variable {line : Text} (hh : LineKind.of line ≠ .header) (hm : LineKind.of line = .method → ∃ e, method? line = .error e)
include hh hm

theorem methods_insert (s : Structure) (above below : List Text) :
    Block.methods ⟨s, bodyOf (above ++ line :: below)⟩ = Block.methods ⟨s, bodyOf (above ++ below)⟩ := by
  induction above with
  | nil =>
    rw [List.nil_append, List.nil_append]
    by_cases hk : LineKind.of line = .method
    · obtain ⟨e, he⟩ := hm hk
      simp [bodyOf_cons_method hk, Block.methods, he, Except.toOption]
    · rw [bodyOf_cons_inert hh hk]
  | cons l above ih =>
    rw [List.cons_append, List.cons_append]
    by_cases hl : LineKind.of l = .header
    · rw [bodyOf_cons_header hl, bodyOf_cons_header hl]
    · by_cases hl' : LineKind.of l = .method
      · rw [bodyOf_cons_method hl', bodyOf_cons_method hl']
        unfold Block.methods at ih ⊢
        rw [List.filterMap_cons, List.filterMap_cons, ih]
      · rw [bodyOf_cons_inert hl hl', bodyOf_cons_inert hl hl', ih]

theorem built_insert (above below : List Text) :
    (blocks (above ++ line :: below)).map Block.built = (blocks (above ++ below)).map Block.built := by
  induction above with
  | nil => rw [List.nil_append, List.nil_append, blocks_cons_of_ne hh]
  | cons l above ih =>
    rw [List.cons_append, List.cons_append]
    by_cases hl : LineKind.of l = .header
    · cases hs : structure? l with
      | ok s =>
        have hbuilt : Block.built ⟨s, bodyOf (above ++ line :: below)⟩ = Block.built ⟨s, bodyOf (above ++ below)⟩ := by
          unfold Block.built
          rw [methods_insert hh hm s above below]
        rw [blocks_cons_ok hl hs, blocks_cons_ok hl hs, List.map_cons, List.map_cons, hbuilt, ih]
      | error e => rw [blocks_cons_error hl hs, blocks_cons_error hl hs, ih]
    · rw [blocks_cons_of_ne hl, blocks_cons_of_ne hl, ih]

theorem catalogue_insert (above below : List Text) :
    (readLines (above ++ line :: below)).catalogue = (readLines (above ++ below)).catalogue := by
  rw [catalogue_readLines, catalogue_readLines, built_insert hh hm]

omit hm in
theorem counts_insert (above below : List Text) :
    (readLines (above ++ line :: below)).counts =
      (readLines (above ++ below)).counts +
        ⟨1, if LineKind.of line = .blank then 1 else 0, if LineKind.of line = .comment then 1 else 0, 0⟩ := by
  rw [counts_readLines, counts_readLines]
  simp only [tally, Counts.add_def, List.length_append, List.length_cons, List.countP_append, List.countP_cons,
    opens_of_ne hh, decide_eq_true_eq, Bool.false_eq_true, if_false, Counts.mk.injEq]
  omega

theorem complaint?_of_refused (isOpen : Bool) :
    if LineKind.of line = .method then
      ∃ c, complaint? isOpen line = some c ∧ (c = .unexpectedMethod ∨ ∃ e, method? line = .error e ∧ c = .badSignature e)
    else complaint? isOpen line = none := by
  split
  · rename_i hk
    obtain ⟨e, he⟩ := hm hk
    cases isOpen with
    | false => exact ⟨.unexpectedMethod, by simp [complaint?, hk], .inl rfl⟩
    | true => exact ⟨.badSignature e, by simp [complaint?, hk, he], .inr ⟨e, he, rfl⟩⟩
  · rename_i hk
    exact complaint?_inert hh hk isOpen

end

theorem filter_diagnostics_append (above below : List Text) :
    let all := (readLines (above ++ below)).diagnostics
    all.filter (fun d => d.line ≤ above.length) = diagnosticsFrom 0 false above ∧
      all.filter (fun d => above.length < d.line) =
        diagnosticsFrom above.length (above.foldl staysOpen false) below := by
  have habove : ∀ d ∈ diagnosticsFrom 0 false above, d.line ≤ above.length := by
    intro d hd
    have hline := (line_of_mem_diagnosticsFrom hd).2
    omega
  have hbelow : ∀ d ∈ diagnosticsFrom above.length (above.foldl staysOpen false) below, above.length < d.line :=
    fun d hd => (line_of_mem_diagnosticsFrom hd).1
  simp only [diagnostics_readLines, diagnosticsFrom_append, Nat.zero_add, List.filter_append]
  constructor
  · rw [List.filter_eq_self.2, List.filter_eq_nil_iff.2, List.append_nil]
    · intro d hd
      simpa using hbelow d hd
    · intro d hd
      simpa using habove d hd
  · rw [List.filter_eq_nil_iff.2, List.filter_eq_self.2, List.nil_append]
    · intro d hd
      simpa using hbelow d hd
    · intro d hd
      simpa using habove d hd

theorem diagnostics_insert {line : Text} (hh : LineKind.of line ≠ .header) (above below : List Text) :
    let all := (readLines (above ++ below)).diagnostics
    (readLines (above ++ line :: below)).diagnostics =
      all.filter (fun d => d.line ≤ above.length) ++
        ((complaint? (above.foldl staysOpen false) line).map (Diagnostic.mk (above.length + 1))).toList ++
        (all.filter fun d => above.length < d.line).map (Diagnostic.below 1) := by
  intro all
  obtain ⟨habove, hbelow⟩ := filter_diagnostics_append above below
  rw [habove, hbelow, diagnostics_readLines, diagnosticsFrom_append, diagnosticsFrom, staysOpen_of_ne hh, Nat.zero_add,
    ← diagnosticsFrom_add, List.append_assoc]

/-- An inert line that is put in changes neither the catalogue nor the number of structures. It is one line more; it is
counted if it is blank or a comment, and reported once otherwise. Other diagnostics stay, further down below it. -/
theorem read_insertLine {src line : Text} {i : Nat} (hi : i ≤ (lines src).length) (hline : .char '\n' ∉ line)
    (h : IsInert line) :
    let before := read src
    let after := read (insertLine i line src)
    after.catalogue = before.catalogue ∧
      after.counts.structures = before.counts.structures ∧
      after.counts.lines = before.counts.lines + 1 ∧
      after.counts.blank = before.counts.blank + (if line.isBlank then 1 else 0) ∧
      after.counts.comments = before.counts.comments + (if startsComment line then 1 else 0) ∧
      ∃ new : List Diagnostic,
        after.diagnostics =
          before.diagnostics.filter (fun d => d.line ≤ i) ++ new ++
            (before.diagnostics.filter fun d => i < d.line).map (fun d => ⟨d.line + 1, d.complaint⟩) ∧
        if line.isBlank || startsComment line then new = []
        else
          ∃ c, new = [⟨i + 1, c⟩] ∧
            (c = .unexpectedMethod ∨ ∃ e, method? line = .error e ∧ c = .badSignature e) := by
  intro before after
  let above := (lines src).take i
  let below := (lines src).drop i
  have hlength : above.length = i := List.length_take_of_le hi
  have hbefore : before = readLines (above ++ below) := by simp [before, read, above, below]
  have hafter : after = readLines (above ++ stripped line :: below) := congrArg readLines (lines_insertLine hline i src)
  have hkind := kind_stripped line
  have hh : LineKind.of (stripped line) ≠ .header := hkind ▸ h.kind_ne
  have hm : LineKind.of (stripped line) = .method → ∃ e, method? (stripped line) = .error e := by
    rw [hkind, method?_stripped]
    exact h.refused
  have hcounts := counts_insert hh above below
  rw [← hafter, ← hbefore, hkind, Counts.add_def] at hcounts
  simp only [kind_eq_blank_iff, kind_eq_comment_iff, Nat.add_zero] at hcounts
  refine ⟨?_, ?_, ?_, ?_, ?_, ?_⟩
  · rw [hafter, hbefore, catalogue_insert hh hm]
  · rw [hcounts]
  · exact congrArg Counts.lines hcounts
  · exact congrArg Counts.blank hcounts
  · exact congrArg Counts.comments hcounts
  · have hdiagnostics := diagnostics_insert hh above below
    rw [← hafter, ← hbefore, hlength] at hdiagnostics
    refine ⟨_, hdiagnostics, ?_⟩
    have hown := complaint?_of_refused hh hm (above.foldl staysOpen false)
    rw [hkind, method?_stripped] at hown
    by_cases hk : LineKind.of line = .method
    · rw [if_neg (h.kind_eq_method_iff.1 hk)]
      rw [if_pos hk] at hown
      obtain ⟨c, hc, hreason⟩ := hown
      exact ⟨c, by rw [hc]; rfl, hreason⟩
    · rw [if_pos (not_not.1 fun hneither => hk (h.kind_eq_method_iff.2 hneither))]
      rw [if_neg hk] at hown
      rw [hown]
      rfl

/-- An indented line without a method, put in below an open structure and above a header that is refused. -/
theorem oops_inserted :
    let src := Text.ofString "class A\n  void run()\nrecord B\n  void lost()"
    let line := Text.ofString "  oops\r"
    (2 ≤ (lines src).length ∧ .char '\n' ∉ line ∧ IsInert line) ∧
      (read (insertLine 2 line src)).catalogue = (read src).catalogue ∧
      (read src).diagnostics.map Diagnostic.line = [3, 4] ∧
      (read (insertLine 2 line src)).diagnostics.map Diagnostic.line = [3, 4, 5] := by
  intro src line
  have hi : 2 ≤ (lines src).length := by decide +kernel
  have hline : .char '\n' ∉ line := by decide
  have hinert : IsInert line := .inr (.inr (by decide +kernel))
  obtain ⟨hcatalogue, _, _, _, _, new, hdiagnostics, hnew⟩ := read_insertLine hi hline hinert
  rw [if_neg (by decide +kernel)] at hnew
  obtain ⟨c, rfl, _⟩ := hnew
  have habove : (read src).diagnostics.filter (fun d => d.line ≤ 2) = [] := by decide +kernel
  have hbelow : ((read src).diagnostics.filter fun d => 2 < d.line).map Diagnostic.line = [3, 4] := by decide +kernel
  refine ⟨⟨hi, hline, hinert⟩, hcatalogue, by decide +kernel, ?_⟩
  have hmoved : ∀ l : List Diagnostic, (l.map fun d => (⟨d.line + 1, d.complaint⟩ : Diagnostic)).map Diagnostic.line =
      (l.map Diagnostic.line).map (· + 1) := by simp
  rw [hdiagnostics, habove, List.map_append, hmoved, hbelow]
  rfl

end Stencil.Outline
