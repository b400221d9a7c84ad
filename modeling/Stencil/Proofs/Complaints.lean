import Stencil.Proofs.Counts
import Stencil.Proofs.Passages

/-!
# What is reported about an outline

Whether a line is reported depends on the line and on whether a structure is open when it comes. Going through the lines
with this one bit gives all diagnostics in order. In an outline that is made of passages, methods alone are reported.
-/

namespace Stencil.Outline

def complaint? (isOpen : Bool) (line : Text) : Option Complaint :=
  match LineKind.of line with
  | .blank => none
  | .comment => none
  | .method =>
    if isOpen then
      match method? line with
      | .ok _ => none
      | .error e => some (.badSignature e)
    else some .unexpectedMethod
  | .header =>
    match structure? line with
    | .ok _ => none
    | .error e => some (.badHeader e)

def staysOpen (isOpen : Bool) (line : Text) : Bool :=
  if LineKind.of line = .header then (structure? line).isOk else isOpen

def diagnosticsFrom (n : Nat) (isOpen : Bool) : List Text → List Diagnostic
  | [] => []
  | line :: ls =>
    ((complaint? isOpen line).map (Diagnostic.mk (n + 1))).toList ++
      diagnosticsFrom (n + 1) (staysOpen isOpen line) ls

theorem complaint?_inert {line : Text} (hh : LineKind.of line ≠ .header) (hm : LineKind.of line ≠ .method)
    (isOpen : Bool) : complaint? isOpen line = none := by
  unfold complaint?
  cases hk : LineKind.of line with
  | blank => rfl
  | comment => rfl
  | method => exact absurd hk hm
  | header => exact absurd hk hh

theorem staysOpen_of_ne {line : Text} (h : LineKind.of line ≠ .header) (isOpen : Bool) :
    staysOpen isOpen line = isOpen := if_neg h

/-! ## Reading line by line -/

namespace Progress

theorem diagnostics_close (p : Progress) : p.close.done.diagnostics = p.done.diagnostics := by
  unfold close
  cases p.opened with
  | none => rfl
  | some s => rfl

theorem isSome_opened_readLine (p : Progress) (line : Text) :
    (p.readLine line).opened.isSome = staysOpen p.opened.isSome line := by
  have hopen : p.countLine.opened = p.opened := rfl
  unfold readLine staysOpen
  cases hk : LineKind.of line with
  | blank => rfl
  | comment => rfl
  | method =>
    simp only [readMethod, hopen]
    cases ho : p.opened with
    | none => simp [report, hopen, ho]
    | some s =>
      cases method? line with
      | ok m => rfl
      | error e => simp [report, hopen, ho]
  | header =>
    simp only [readHeader, if_true]
    cases structure? line with
    | ok s => rfl
    | error e => simp [report, opened_close, Except.isOk, Except.toBool]

theorem diagnostics_readLine (p : Progress) (line : Text) :
    (p.readLine line).done.diagnostics = p.done.diagnostics ++
      ((complaint? p.opened.isSome line).map (Diagnostic.mk (p.done.counts.lines + 1))).toList := by
  have hopen : p.countLine.opened = p.opened := rfl
  have hlines : p.countLine.done.counts.lines = p.done.counts.lines + 1 := rfl
  have hdone : p.countLine.done.diagnostics = p.done.diagnostics := rfl
  unfold readLine complaint?
  cases LineKind.of line with
  | blank => simp [countBlank, hdone]
  | comment => simp [countComment, hdone]
  | method =>
    simp only [readMethod, hopen]
    cases p.opened with
    | none => simp [report, hdone, hlines]
    | some s =>
      cases method? line with
      | ok m => simp [hdone]
      | error e => simp [report, hdone, hlines]
  | header =>
    simp only [readHeader]
    cases structure? line with
    | ok s => simp [diagnostics_close, hdone]
    | error e => simp [report, diagnostics_close, counts_close, hdone, hlines]

theorem diagnostics_foldl_readLine (ls : List Text) (p : Progress) :
    (ls.foldl readLine p).done.diagnostics =
      p.done.diagnostics ++ diagnosticsFrom p.done.counts.lines p.opened.isSome ls := by
  induction ls generalizing p with
  | nil => simp [diagnosticsFrom]
  | cons line ls ih =>
    rw [List.foldl_cons, ih, diagnostics_readLine, (counts_readLine_done p line).1, isSome_opened_readLine,
      List.append_assoc]
    rfl

end Progress

theorem diagnostics_readLines (ls : List Text) : (readLines ls).diagnostics = diagnosticsFrom 0 false ls := by
  unfold readLines
  rw [Progress.diagnostics_close, Progress.diagnostics_foldl_readLine]
  rfl

/-! ## Passages -/

theorem diagnosticsFrom_append (n : Nat) (isOpen : Bool) (ls ls' : List Text) :
    diagnosticsFrom n isOpen (ls ++ ls') =
      diagnosticsFrom n isOpen ls ++ diagnosticsFrom (n + ls.length) (ls.foldl staysOpen isOpen) ls' := by
  induction ls generalizing n isOpen with
  | nil => rfl
  | cons line ls ih =>
    have hlen : n + 1 + ls.length = n + (line :: ls).length := by
      rw [List.length_cons]
      omega
    rw [List.cons_append, diagnosticsFrom, ih, diagnosticsFrom, List.foldl_cons, List.append_assoc, hlen]

theorem foldl_staysOpen_below {ls : List Text} (h : ∀ line ∈ ls, LineKind.of line ≠ .header) (isOpen : Bool) :
    ls.foldl staysOpen isOpen = isOpen := by
  induction ls with
  | nil => rfl
  | cons line ls ih =>
    rw [List.foldl_cons, staysOpen_of_ne (h line (by simp)), ih fun l hl => h l (List.mem_cons_of_mem _ hl)]

/-- Below a header that was accepted, nothing is reported exactly if all methods are accepted. -/
theorem diagnosticsFrom_below {ls : List Text} (h : ∀ line ∈ ls, LineKind.of line ≠ .header) (n : Nat) :
    diagnosticsFrom n true ls = [] ↔ ∀ line ∈ bodyOf ls, (method? line).isOk = true := by
  induction ls generalizing n with
  | nil => simp [diagnosticsFrom, bodyOf]
  | cons line ls ih =>
    have hhead : LineKind.of line ≠ .header := h line (by simp)
    have ih := ih (fun l hl => h l (List.mem_cons_of_mem _ hl)) (n + 1)
    rw [diagnosticsFrom, staysOpen_of_ne hhead, List.append_eq_nil_iff, ih]
    by_cases hm : LineKind.of line = .method
    · rw [bodyOf_cons_method hm, List.forall_mem_cons]
      refine and_congr_left' ?_
      unfold complaint?
      rw [hm]
      cases method? line with
      | ok m => simp [Except.isOk, Except.toBool]
      | error e => simp [Except.isOk, Except.toBool]
    · rw [bodyOf_cons_inert hhead hm, complaint?_inert hhead hm]
      simp

theorem diagnosticsFrom_passages (ps : List Passage) (n : Nat) (isOpen : Bool) :
    diagnosticsFrom n isOpen ((ps.flatMap Passage.lines).map stripped) = [] ↔
      ∀ p ∈ ps, ∀ line ∈ p.block.body, (method? line).isOk = true := by
  induction ps generalizing n isOpen with
  | nil => simp [diagnosticsFrom]
  | cons p ps ih =>
    have hfine : complaint? isOpen (stripped p.header) = none := by
      unfold complaint?
      rw [p.isHeader]
      simp only [p.accepted]
    have hopen : staysOpen isOpen (stripped p.header) = true := by
      unfold staysOpen
      rw [if_pos p.isHeader, p.accepted]
      rfl
    rw [p.lines_cons, diagnosticsFrom, hfine, hopen, Option.map_none, Option.toList_none, List.nil_append,
      diagnosticsFrom_append, List.append_eq_nil_iff, foldl_staysOpen_below p.below_stripped, ih,
      diagnosticsFrom_below p.below_stripped, List.forall_mem_cons]
    rfl

/-- Nothing is reported about passages exactly if all their methods are accepted. -/
theorem diagnostics_source (ps : List Passage) :
    (read (source ps)).diagnostics = [] ↔ ∀ p ∈ ps, ∀ line ∈ p.block.body, (method? line).isOk = true := by
  cases ps with
  | nil =>
    have hnone : (read (source [])).diagnostics = [] := by decide
    simp [hnone]
  | cons p ps =>
    unfold read
    rw [lines_source (by simp), diagnostics_readLines, diagnosticsFrom_passages]

end Stencil.Outline
