import Stencil.Proofs.Complaints

/-!
# What becomes of every line

A line is blank, a comment, reported, or accepted as a header or as a method of the open structure, and it is one of
these only. The counts of a reading are the numbers of lines with each fate, so that they add up to all lines.
-/

namespace Stencil.Outline

inductive Fate where
  | blank
  | comment
  | reported
  | header
  | method
deriving DecidableEq

def fate (isOpen : Bool) (line : Text) : Fate :=
  match LineKind.of line with
  | .blank => .blank
  | .comment => .comment
  | .method => if isOpen && (method? line).isOk then .method else .reported
  | .header => if (structure? line).isOk then .header else .reported

def fates (isOpen : Bool) : List Text → List Fate
  | [] => []
  | line :: ls => fate isOpen line :: fates (staysOpen isOpen line) ls

/-- What makes a fate, for each of them. -/
def Fate.Holds (isOpen : Bool) (line : Text) : Fate → Prop
  | .blank => LineKind.of line = .blank
  | .comment => LineKind.of line = .comment
  | .reported => (complaint? isOpen line).isSome = true
  | .header => opens line = true
  | .method => LineKind.of line = .method ∧ isOpen = true ∧ (method? line).isOk = true

theorem fate_eq_iff {isOpen : Bool} {line : Text} {f : Fate} : fate isOpen line = f ↔ f.Holds isOpen line := by
  unfold fate
  cases hk : LineKind.of line with
  | blank => cases f <;> simp [Fate.Holds, complaint?, opens, hk]
  | comment => cases f <;> simp [Fate.Holds, complaint?, opens, hk]
  | method =>
    cases isOpen with
    | false => cases f <;> simp [Fate.Holds, complaint?, opens, hk]
    | true =>
      cases hm : method? line with
      | ok m => cases f <;> simp [Fate.Holds, complaint?, opens, hk, hm, Except.isOk, Except.toBool]
      | error e => cases f <;> simp [Fate.Holds, complaint?, opens, hk, hm, Except.isOk, Except.toBool]
  | header =>
    cases hs : structure? line with
    | ok s => cases f <;> simp [Fate.Holds, complaint?, opens, hk, hs, Except.isOk, Except.toBool]
    | error e => cases f <;> simp [Fate.Holds, complaint?, opens, hk, hs, Except.isOk, Except.toBool]

theorem fates_append (isOpen : Bool) (ls ls' : List Text) :
    fates isOpen (ls ++ ls') = fates isOpen ls ++ fates (ls.foldl staysOpen isOpen) ls' := by
  induction ls generalizing isOpen with
  | nil => rfl
  | cons line ls ih => rw [List.cons_append, fates, ih]; rfl

theorem length_fates (isOpen : Bool) (ls : List Text) : (fates isOpen ls).length = ls.length := by
  induction ls generalizing isOpen with
  | nil => rfl
  | cons line ls ih => rw [fates, List.length_cons, ih, List.length_cons]

/-! ## Counting fates -/

theorem length_eq_sum_count (l : List Fate) :
    l.length = l.count .blank + l.count .comment + l.count .reported + l.count .header + l.count .method := by
  induction l with
  | nil => rfl
  | cons f l ih => cases f <;> simp [ih] <;> omega

theorem count_fates {f : Fate} {p : Text → Bool} (h : ∀ isOpen line, f.Holds isOpen line ↔ p line = true)
    (isOpen : Bool) (ls : List Text) : (fates isOpen ls).count f = ls.countP p := by
  induction ls generalizing isOpen with
  | nil => rfl
  | cons line ls ih => simp [fates, List.count_cons, List.countP_cons, ih, fate_eq_iff, h]

theorem count_blank (isOpen : Bool) (ls : List Text) : (fates isOpen ls).count .blank = (tally ls).blank :=
  count_fates (fun _ _ => by simp [Fate.Holds]) isOpen ls

theorem count_comment (isOpen : Bool) (ls : List Text) : (fates isOpen ls).count .comment = (tally ls).comments :=
  count_fates (fun _ _ => by simp [Fate.Holds]) isOpen ls

theorem count_header (isOpen : Bool) (ls : List Text) : (fates isOpen ls).count .header = (tally ls).structures :=
  count_fates (fun _ _ => Iff.rfl) isOpen ls

theorem count_reported (n : Nat) (isOpen : Bool) (ls : List Text) :
    (fates isOpen ls).count .reported = (diagnosticsFrom n isOpen ls).length := by
  induction ls generalizing n isOpen with
  | nil => rfl
  | cons line ls ih =>
    rw [fates, diagnosticsFrom, List.count_cons, ih (n + 1), List.length_append, Nat.add_comm]
    cases hc : complaint? isOpen line with
    | none => simp [fate_eq_iff, Fate.Holds, hc]
    | some c => simp [fate_eq_iff, Fate.Holds, hc]

/-- Methods are accepted for the open structure first, and then for the blocks. -/
theorem count_method (isOpen : Bool) (ls : List Text) (s : Structure) :
    (fates isOpen ls).count .method =
      (if isOpen then (Block.methods ⟨s, bodyOf ls⟩).length else 0) + ((blocks ls).flatMap Block.methods).length := by
  induction ls generalizing isOpen s with
  | nil => cases isOpen <;> rfl
  | cons line ls ih =>
    rw [fates, List.count_cons]
    by_cases hh : LineKind.of line = .header
    · rw [bodyOf_cons_header hh]
      cases hs : structure? line with
      | ok s' =>
        rw [ih _ s', blocks_cons_ok hh hs]
        simp [fate, staysOpen, hh, hs, Except.isOk, Except.toBool, Block.methods]
      | error e =>
        rw [ih _ s, blocks_cons_error hh hs]
        simp [fate, staysOpen, hh, hs, Except.isOk, Except.toBool, Block.methods]
    · rw [staysOpen_of_ne hh, ih _ s, blocks_cons_of_ne hh]
      by_cases hm : LineKind.of line = .method
      · rw [bodyOf_cons_method hm]
        cases isOpen with
        | false => simp [fate, hm]
        | true =>
          cases hok : method? line with
          | ok m => simp [fate, hm, hok, Except.isOk, Except.toBool, Block.methods, Except.toOption]; omega
          | error e => simp [fate, hm, hok, Except.isOk, Except.toBool, Block.methods, Except.toOption]
      · rw [bodyOf_cons_inert hh hm]
        simp [fate_eq_iff, Fate.Holds, hm]

/-! ## Numbers of lines -/

theorem line_of_mem_diagnosticsFrom {n : Nat} {isOpen : Bool} {ls : List Text} {d : Diagnostic}
    (h : d ∈ diagnosticsFrom n isOpen ls) : n < d.line ∧ d.line ≤ n + ls.length := by
  induction ls generalizing n isOpen with
  | nil => cases h
  | cons line ls ih =>
    rw [diagnosticsFrom, List.mem_append] at h
    rw [List.length_cons]
    rcases h with h | h
    · rw [Option.mem_toList, Option.map_eq_some_iff] at h
      obtain ⟨c, _, rfl⟩ := h
      simp
    · have hrest := ih h
      omega

theorem pairwise_diagnosticsFrom (n : Nat) (isOpen : Bool) (ls : List Text) :
    (diagnosticsFrom n isOpen ls).Pairwise fun d d' => d.line < d'.line := by
  induction ls generalizing n isOpen with
  | nil => exact .nil
  | cons line ls ih =>
    rw [diagnosticsFrom, List.pairwise_append]
    refine ⟨?_, ih _ _, ?_⟩
    · cases complaint? isOpen line <;> simp
    · intro d hd d' hd'
      rw [Option.mem_toList, Option.map_eq_some_iff] at hd
      obtain ⟨c, _, rfl⟩ := hd
      exact (line_of_mem_diagnosticsFrom hd').1

/-- The diagnostics of one line: there is one if there is something wrong with it. -/
theorem filter_diagnosticsFrom (above : List Text) (line : Text) (below : List Text) :
    (diagnosticsFrom 0 false (above ++ line :: below)).filter (fun d => d.line = above.length + 1) =
      ((complaint? (above.foldl staysOpen false) line).map (Diagnostic.mk (above.length + 1))).toList := by
  have hother : ∀ {l : List Diagnostic}, (∀ d ∈ l, d.line ≠ above.length + 1) →
      l.filter (fun d => d.line = above.length + 1) = [] := by
    intro l hl
    exact List.filter_eq_nil_iff.2 fun d hd => by simpa using hl d hd
  rw [diagnosticsFrom_append, diagnosticsFrom, Nat.zero_add, List.filter_append, List.filter_append]
  rw [hother (l := diagnosticsFrom 0 false above), hother (l := diagnosticsFrom (above.length + 1) _ below)]
  · cases complaint? (above.foldl staysOpen false) line <;> simp
  · intro d hd
    have hline := (line_of_mem_diagnosticsFrom hd).1
    omega
  · intro d hd
    have hline := (line_of_mem_diagnosticsFrom hd).2
    omega

theorem exists_complaint? {n : Nat} {isOpen : Bool} {ls : List Text} {d : Diagnostic}
    (h : d ∈ diagnosticsFrom n isOpen ls) : ∃ isOpen line, complaint? isOpen line = some d.complaint := by
  induction ls generalizing n isOpen with
  | nil => cases h
  | cons line ls ih =>
    rw [diagnosticsFrom, List.mem_append] at h
    rcases h with h | h
    · rw [Option.mem_toList, Option.map_eq_some_iff] at h
      obtain ⟨c, hc, rfl⟩ := h
      exact ⟨isOpen, line, hc⟩
    · exact ih h

theorem not_prefix_append {p s : Text} (h : ¬ p <+: s) (hlen : p.length ≤ s.length) (t : Text) : ¬ p <+: s ++ t :=
  fun hp => h (List.prefix_of_prefix_length_le hp (List.prefix_append ..) hlen)

/-- An open structure refuses no method. -/
theorem message_of_complaint? {isOpen : Bool} {line : Text} {c : Complaint} (h : complaint? isOpen line = some c) :
    ¬ Text.ofString "Unable to add method" <+: c.message := by
  unfold complaint? at h
  cases hk : LineKind.of line with
  | blank => simp [hk] at h
  | comment => simp [hk] at h
  | method =>
    simp only [hk] at h
    split at h
    · split at h
      · cases h
      · cases h
        exact not_prefix_append (by decide) (by decide) _
    · cases h
      decide
  | header =>
    simp only [hk] at h
    split at h
    · cases h
    · cases h
      exact not_prefix_append (by decide) (by decide) _

/-! ## What a fate does -/

namespace Progress

theorem isSome_opened_foldl (ls : List Text) (p : Progress) :
    (ls.foldl readLine p).opened.isSome = ls.foldl staysOpen p.opened.isSome := by
  induction ls generalizing p with
  | nil => rfl
  | cons line ls ih => rw [List.foldl_cons, ih, isSome_opened_readLine]; rfl

theorem opened_header {line : Text} {s : Structure} (h : LineKind.of line = .header) (hs : structure? line = .ok s)
    (p : Progress) : (p.readLine line).opened = some s := by
  simp [readLine, readHeader, h, hs]

theorem opened_method {line : Text} {s : Structure} {m : Method} {p : Progress} (h : LineKind.of line = .method)
    (ho : p.opened = some s) (hm : method? line = .ok m) : (p.readLine line).opened = some (s.addMethod m) := by
  simp [readLine, readMethod, countLine, h, ho, hm]

end Progress

/-- Whether a fate befalls the line below the lines `above`, as it shows in what the line changes and in the diagnostics
of the whole reading. -/
def Fate.Befalls (r : Reading) (above : List Text) (line : Text) : Fate → Prop :=
  let before := above.foldl Progress.readLine {}
  let after := before.readLine line
  fun
  | .blank => after.done.counts.blank = before.done.counts.blank + 1
  | .comment => after.done.counts.comments = before.done.counts.comments + 1
  | .reported => (r.diagnostics.filter fun d => d.line = above.length + 1).length = 1
  | .header => LineKind.of line = .header ∧ ∃ s, structure? line = .ok s ∧ after.opened = some s
  | .method =>
    LineKind.of line = .method ∧
      ∃ s m, before.opened = some s ∧ method? line = .ok m ∧ after.opened = some (s.addMethod m)

theorem befalls_iff (above : List Text) (line : Text) (below : List Text) (f : Fate) :
    f.Befalls (readLines (above ++ line :: below)) above line ↔ fate (above.foldl staysOpen false) line = f := by
  have hopen : (above.foldl Progress.readLine {}).opened.isSome = above.foldl staysOpen false :=
    Progress.isSome_opened_foldl above {}
  rw [fate_eq_iff]
  cases f with
  | blank =>
    simp only [Fate.Befalls, Fate.Holds, Progress.counts_readLine_done]
    by_cases hk : LineKind.of line = .blank <;> simp [tally, hk]
  | comment =>
    simp only [Fate.Befalls, Fate.Holds, Progress.counts_readLine_done]
    by_cases hk : LineKind.of line = .comment <;> simp [tally, hk]
  | reported =>
    simp only [Fate.Befalls, Fate.Holds, diagnostics_readLines, filter_diagnosticsFrom]
    cases complaint? (above.foldl staysOpen false) line <;> simp
  | header =>
    simp only [Fate.Befalls, Fate.Holds]
    by_cases hk : LineKind.of line = .header
    · rw [opens_header hk]
      cases hs : structure? line with
      | ok s => simp [hk, Progress.opened_header hk hs, Except.isOk, Except.toBool]
      | error e => simp [Except.isOk, Except.toBool]
    · simp [hk, opens_of_ne hk]
  | method =>
    simp only [Fate.Befalls, Fate.Holds, ← hopen]
    constructor
    · rintro ⟨hk, s, m, ho, hm, _⟩
      exact ⟨hk, by simp [ho], by simp [hm, Except.isOk, Except.toBool]⟩
    · rintro ⟨hk, ho, hok⟩
      obtain ⟨s, ho⟩ := Option.isSome_iff_exists.1 ho
      cases hm : method? line with
      | ok m => exact ⟨hk, s, m, ho, rfl, Progress.opened_method hk ho hm⟩
      | error e => simp [hm, Except.isOk, Except.toBool] at hok

theorem befalls_iff_getElem? {ls above below : List Text} {line : Text} (h : ls = above ++ line :: below) (f : Fate) :
    f.Befalls (readLines ls) above line ↔ (fates false ls)[above.length]? = some f := by
  have hat : (fates false ls)[above.length]? = some (fate (above.foldl staysOpen false) line) := by
    rw [h, fates_append, List.getElem?_append_right (by simp [length_fates]), length_fates, Nat.sub_self]
    rfl
  rw [hat, Option.some.injEq, h, befalls_iff]

/-- Every line has exactly one fate, and the counts are the numbers of lines with each. Lines that are accepted make the
blocks of the outline. Diagnostics come in the order of their lines, one for a line, and no method is refused. -/
theorem lines_accounted (src : Text) :
    let ls := lines src
    let r := read src
    ∃ fates : List Fate,
      fates.length = ls.length ∧
      (∀ above line below, ls = above ++ line :: below →
        ∀ f : Fate, f.Befalls r above line ↔ fates[above.length]? = some f) ∧
      r.counts.lines = src.count (.char '\n') + 1 ∧
      r.counts.lines = fates.length ∧
      r.counts.blank = fates.count .blank ∧
      r.counts.comments = fates.count .comment ∧
      r.diagnostics.length = fates.count .reported ∧
      (blocks ls).length = fates.count .header ∧
      ((blocks ls).flatMap Block.methods).length = fates.count .method ∧
      r.counts.lines =
        r.counts.blank + r.counts.comments + r.diagnostics.length + (blocks ls).length +
          ((blocks ls).flatMap Block.methods).length ∧
      r.counts.structures = (blocks ls).length ∧
      r.catalogue.size ≤ r.counts.structures ∧
      (r.diagnostics.Pairwise fun d d' => d.line < d'.line) ∧
      (∀ d ∈ r.diagnostics, 1 ≤ d.line ∧ d.line ≤ r.counts.lines) ∧
      ∀ d ∈ r.diagnostics, ¬ Text.ofString "Unable to add method" <+: d.message := by
  intro ls r
  have hcounts : r.counts = tally ls := counts_readLines ls
  have hdiagnostics : r.diagnostics = diagnosticsFrom 0 false ls := diagnostics_readLines ls
  have hlines : r.counts.lines = ls.length := congrArg Counts.lines hcounts
  have hblank : r.counts.blank = (fates false ls).count .blank := by rw [hcounts, count_blank]
  have hcomments : r.counts.comments = (fates false ls).count .comment := by rw [hcounts, count_comment]
  have hreported : r.diagnostics.length = (fates false ls).count .reported := by rw [hdiagnostics, count_reported 0]
  have hstructures : r.counts.structures = (blocks ls).length := by
    rw [hcounts, length_blocks]
    rfl
  have hheaders : (blocks ls).length = (fates false ls).count .header := by rw [← hstructures, hcounts, count_header]
  have hmethods : ((blocks ls).flatMap Block.methods).length = (fates false ls).count .method := by
    simp [count_method false ls default]
  refine ⟨fates false ls, length_fates false ls, ?_, ?_, ?_, hblank, hcomments, hreported, hheaders, hmethods, ?_,
    hstructures, ?_, ?_, ?_, ?_⟩
  · intro above line below hl f
    exact befalls_iff_getElem? hl f
  · rw [hlines]
    simp [ls, lines, Text.length_split]
  · rw [hlines, length_fates]
  · rw [hlines, hblank, hcomments, hreported, hheaders, hmethods, ← length_fates false ls]
    exact length_eq_sum_count _
  · have hcatalogue : r.catalogue = .ofList ((blocks ls).map Block.built) := catalogue_readLines ls
    have hsize := Catalogue.size_ofList_le ((blocks ls).map Block.built)
    rw [List.length_map] at hsize
    rw [hstructures, hcatalogue]
    exact hsize
  · rw [hdiagnostics]
    exact pairwise_diagnosticsFrom 0 false ls
  · intro d hd
    rw [hdiagnostics] at hd
    have hline := line_of_mem_diagnosticsFrom hd
    rw [hlines]
    omega
  · intro d hd
    rw [hdiagnostics] at hd
    obtain ⟨isOpen, line, hc⟩ := exists_complaint? hd
    exact message_of_complaint? hc

example :
    fates false (lines "  void early()\nclass A\n  void run()\n# more\n\nrecord B\n  void late()\nclass C extends") =
      [.reported, .header, .method, .comment, .blank, .reported, .reported, .reported] := by
  decide +kernel

end Stencil.Outline
