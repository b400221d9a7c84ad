import Stencil.Proofs.Complaints

/-!
# Outlines one below the other

An outline that begins with a header, or with nothing at all, can be read by itself: below another outline it adds its
counts, its diagnostics further down, and its structures. The header closes what is open above it, whether it is
accepted or not.
-/

namespace Stencil.Outline

def leading? (ls : List Text) : Option Text :=
  ls.find? fun line => LineKind.of line ≠ .blank && LineKind.of line ≠ .comment

theorem startsIndented_of_method {line : Text} (h : LineKind.of line = .method) : startsIndented line = true := by
  unfold LineKind.of at h
  split at h
  · cases h
  · split at h
    · cases h
    · split at h
      · assumption
      · cases h

theorem leading?_cons_inert {line : Text} (hh : LineKind.of line ≠ .header) (hm : LineKind.of line ≠ .method)
    (ls : List Text) : leading? (line :: ls) = leading? ls := by
  cases hk : LineKind.of line with
  | blank => simp [leading?, hk]
  | comment => simp [leading?, hk]
  | method => exact absurd hk hm
  | header => exact absurd hk hh

theorem bodyOf_of_leading {ls : List Text} (h : ∀ line, leading? ls = some line → startsIndented line = false) :
    bodyOf ls = [] := by
  induction ls with
  | nil => rfl
  | cons line ls ih =>
    by_cases hh : LineKind.of line = .header
    · exact bodyOf_cons_header hh ls
    · by_cases hm : LineKind.of line = .method
      · have hlead : startsIndented line = false := h line (by simp [leading?, hm])
        rw [startsIndented_of_method hm] at hlead
        cases hlead
      · rw [bodyOf_cons_inert hh hm]
        rw [leading?_cons_inert hh hm] at h
        exact ih h

/-! ## Diagnostics further down -/

def Diagnostic.below (n : Nat) (d : Diagnostic) : Diagnostic := { d with line := d.line + n }

theorem diagnosticsFrom_add (m n : Nat) (isOpen : Bool) (ls : List Text) :
    diagnosticsFrom (m + n) isOpen ls = (diagnosticsFrom m isOpen ls).map (Diagnostic.below n) := by
  induction ls generalizing m isOpen with
  | nil => rfl
  | cons line ls ih =>
    have hnext : m + n + 1 = m + 1 + n := by omega
    rw [diagnosticsFrom, diagnosticsFrom, hnext, ih, List.map_append]
    cases complaint? isOpen line with
    | none => rfl
    | some c => simp [Diagnostic.below]

theorem complaint?_header {line : Text} (h : LineKind.of line = .header) (isOpen isOpen' : Bool) :
    complaint? isOpen line = complaint? isOpen' line := by
  simp [complaint?, h]

/-- If no method comes before the first header, it does not matter whether a structure is open. -/
theorem diagnosticsFrom_closed {ls : List Text} (h : bodyOf ls = []) (n : Nat) (isOpen isOpen' : Bool) :
    diagnosticsFrom n isOpen ls = diagnosticsFrom n isOpen' ls := by
  induction ls generalizing n with
  | nil => rfl
  | cons line ls ih =>
    rw [diagnosticsFrom, diagnosticsFrom]
    by_cases hh : LineKind.of line = .header
    · have hstays : staysOpen isOpen line = staysOpen isOpen' line := by simp [staysOpen, hh]
      rw [complaint?_header hh isOpen isOpen', hstays]
    · by_cases hm : LineKind.of line = .method
      · rw [bodyOf_cons_method hm] at h
        cases h
      · rw [bodyOf_cons_inert hh hm] at h
        rw [complaint?_inert hh hm, complaint?_inert hh hm, staysOpen_of_ne hh, staysOpen_of_ne hh, ih h]

/-! ## Both outlines -/

theorem lines_append (a b : Text) : lines (a ++ .char '\n' :: b) = lines a ++ lines b := by
  unfold lines
  rw [Text.split_append, List.map_append]

theorem diagnostics_append {ls ls' : List Text} (h : bodyOf ls' = []) :
    (readLines (ls ++ ls')).diagnostics =
      (readLines ls).diagnostics ++ (readLines ls').diagnostics.map (Diagnostic.below ls.length) := by
  rw [diagnostics_readLines, diagnostics_readLines, diagnostics_readLines, diagnosticsFrom_append,
    diagnosticsFrom_closed h _ _ false, diagnosticsFrom_add]

theorem catalogue_append {ls ls' : List Text} (h : bodyOf ls' = []) :
    (readLines (ls ++ ls')).catalogue = (readLines ls').catalogue.entries.foldl Catalogue.put (readLines ls).catalogue := by
  rw [catalogue_readLines, catalogue_readLines, catalogue_readLines, blocks_append h, List.map_append,
    Catalogue.ofList_append]

/-- Reading `b` below `a`, where the first line of `b` that is neither blank nor a comment is not indented: the counts
add up, the diagnostics of `b` move down by the lines of `a`, and the structures of `b` are put after those of `a`. -/
theorem read_joined (a b : Text) (h : ∀ line, leading? (lines b) = some line → startsIndented line = false) :
    let above := read a
    let below := read b
    let both := read (a ++ .char '\n' :: b)
    both.counts.lines = above.counts.lines + below.counts.lines ∧
      both.counts.blank = above.counts.blank + below.counts.blank ∧
      both.counts.comments = above.counts.comments + below.counts.comments ∧
      both.counts.structures = above.counts.structures + below.counts.structures ∧
      both.diagnostics =
        above.diagnostics ++ below.diagnostics.map (fun d => ⟨d.line + above.counts.lines, d.complaint⟩) ∧
      both.catalogue = below.catalogue.entries.foldl Catalogue.put above.catalogue := by
  intro above below both
  have hbody : bodyOf (lines b) = [] := bodyOf_of_leading h
  have hboth : both = readLines (lines a ++ lines b) := congrArg readLines (lines_append a b)
  have hcounts : both.counts = above.counts + below.counts := by
    rw [hboth, counts_readLines, tally_append, ← counts_readLines, ← counts_readLines]
    rfl
  have hlines : above.counts.lines = (lines a).length := congrArg Counts.lines (counts_readLines (lines a))
  refine ⟨?_, ?_, ?_, ?_, ?_, ?_⟩
  · rw [hcounts]; rfl
  · rw [hcounts]; rfl
  · rw [hcounts]; rfl
  · rw [hcounts]; rfl
  · rw [hboth, diagnostics_append hbody, hlines]
    rfl
  · rw [hboth, catalogue_append hbody]
    rfl

/-- A class that is declared above and below, with a refused header between: the lower one counts, at the place of the
upper one, and what stands below the refused header is reported with the number of its line. -/
theorem redeclared_below_read :
    let a := Text.ofString "class A\n  void first()\nclass B\n  oops"
    let b := Text.ofString "\n# more\nrecord C\n  void lost()\nclass A\n  void last()"
    (∀ line, leading? (lines b) = some line → startsIndented line = false) ∧
      (read (a ++ .char '\n' :: b)).diagnostics.map Diagnostic.line = [4, 7, 8] ∧
      (read (a ++ .char '\n' :: b)).catalogue.entries.map (fun s => (s.shortName, s.methods.map Method.name)) =
        [(Text.ofString "A", [Text.ofString "last"]), (Text.ofString "B", [])] := by
  intro a b
  have hlead : ∀ line, leading? (lines b) = some line → startsIndented line = false := by
    have hfirst : leading? (lines b) = some (Text.ofString "record C") := by decide +kernel
    intro line hline
    rw [hfirst] at hline
    cases hline
    decide
  obtain ⟨_, _, _, _, hdiagnostics, hcatalogue⟩ := read_joined a b hlead
  refine ⟨hlead, ?_, ?_⟩
  · rw [hdiagnostics]
    decide +kernel
  · rw [hcatalogue]
    decide +kernel

end Stencil.Outline
