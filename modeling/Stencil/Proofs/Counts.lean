import Stencil.Proofs.Blocks

/-!
# What is counted about an outline

Every count is a sum over the lines, so that the counts of outlines one below the other add up. A structure is counted
when it is closed: the closed ones and the one that is open are as many as the headers that were accepted.
-/

namespace Stencil.Outline

def opens (line : Text) : Bool := LineKind.of line = .header && (structure? line).isOk

instance : Add Counts :=
  ⟨fun a b => ⟨a.lines + b.lines, a.blank + b.blank, a.comments + b.comments, a.structures + b.structures⟩⟩

theorem Counts.add_def (a b : Counts) :
    a + b = ⟨a.lines + b.lines, a.blank + b.blank, a.comments + b.comments, a.structures + b.structures⟩ := rfl

def tally (ls : List Text) : Counts where
  lines := ls.length
  blank := ls.countP fun line => LineKind.of line = .blank
  comments := ls.countP fun line => LineKind.of line = .comment
  structures := ls.countP opens

theorem tally_append (ls ls' : List Text) : tally (ls ++ ls') = tally ls + tally ls' := by
  simp [tally, Counts.add_def]

theorem opens_of_ne {line : Text} (h : LineKind.of line ≠ .header) : opens line = false := by
  simp [opens, h]

theorem opens_header {line : Text} (h : LineKind.of line = .header) : opens line = (structure? line).isOk := by
  simp [opens, h]

theorem length_blocks (ls : List Text) : (blocks ls).length = ls.countP opens := by
  induction ls with
  | nil => rfl
  | cons line ls ih =>
    rw [List.countP_cons, ← ih]
    by_cases hk : LineKind.of line = .header
    · cases hs : structure? line with
      | ok s => simp [blocks_cons_ok hk hs, opens_header hk, hs, Except.isOk, Except.toBool]
      | error e => simp [blocks_cons_error hk hs, opens_header hk, hs, Except.isOk, Except.toBool]
    · simp [blocks_cons_of_ne hk, opens_of_ne hk]

namespace Progress

theorem counts_close (p : Progress) :
    p.close.done.counts =
      { p.done.counts with structures := p.done.counts.structures + p.opened.toList.length } := by
  unfold close
  cases p.opened with
  | none => rfl
  | some s => rfl

/-- The counts as they would be if the source ended here: a line adds what it counts by itself. -/
theorem counts_readLine (p : Progress) (line : Text) :
    (p.readLine line).close.done.counts = p.close.done.counts + tally [line] := by
  rw [counts_close, counts_close]
  unfold readLine
  cases hk : LineKind.of line with
  | blank => simp [countBlank, countLine, tally, hk, opens_of_ne, Counts.add_def]
  | comment => simp [countComment, countLine, tally, hk, opens_of_ne, Counts.add_def]
  | method =>
    cases ho : p.opened with
    | none => simp [readMethod, report, countLine, ho, tally, hk, opens_of_ne, Counts.add_def]
    | some s =>
      cases hm : method? line with
      | ok m => simp [readMethod, countLine, ho, hm, tally, hk, opens_of_ne, Counts.add_def]
      | error e => simp [readMethod, report, countLine, ho, hm, tally, hk, opens_of_ne, Counts.add_def]
  | header =>
    cases hs : structure? line with
    | ok s =>
      simp [readHeader, countLine, hs, counts_close, tally, hk, opens_header, Except.isOk, Except.toBool,
        Counts.add_def]
    | error e =>
      simp [readHeader, report, countLine, hs, counts_close, opened_close, tally, hk, opens_header, Except.isOk,
        Except.toBool, Counts.add_def]

/-- Only structures are counted later than they are read. -/
theorem counts_readLine_done (p : Progress) (line : Text) :
    (p.readLine line).done.counts.lines = p.done.counts.lines + 1 ∧
      (p.readLine line).done.counts.blank = p.done.counts.blank + (tally [line]).blank ∧
      (p.readLine line).done.counts.comments = p.done.counts.comments + (tally [line]).comments := by
  have h := counts_readLine p line
  rw [counts_close, counts_close, Counts.add_def, Counts.mk.injEq] at h
  exact ⟨h.1, h.2.1, h.2.2.1⟩

theorem counts_foldl_readLine (ls : List Text) (p : Progress) :
    (ls.foldl readLine p).close.done.counts = p.close.done.counts + tally ls := by
  induction ls generalizing p with
  | nil => rfl
  | cons line ls ih =>
    have hcons : tally (line :: ls) = tally [line] + tally ls := tally_append [line] ls
    rw [List.foldl_cons, ih, counts_readLine, hcons]
    simp [Counts.add_def, Nat.add_assoc]

end Progress

theorem counts_readLines (ls : List Text) : (readLines ls).counts = tally ls := by
  unfold readLines
  rw [Progress.counts_foldl_readLine]
  simp [Progress.counts_close, Counts.add_def]

end Stencil.Outline
