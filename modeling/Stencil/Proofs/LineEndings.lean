import Stencil.Proofs.Passages
import Stencil.Proofs.Signatures

/-!
# Ends of lines

Carriage returns at the end of a line do not matter: neither the kind of the line nor the method in it depends on them,
and a source is read without them, so that it is read the same whatever line ends it has.
-/

namespace Stencil.Outline

def withReturns (n : Nat) (line : Text) : Text := line ++ List.replicate n (.char '\r')

def withReturn (src : Text) : Text := src.flatMap fun g => if g = .char '\n' then [.char '\r', .char '\n'] else [g]

theorem stripped_withReturns (n : Nat) (line : Text) : stripped (withReturns n line) = stripped line := by
  unfold stripped withReturns Text.dropEndWhile
  rw [List.reverse_append, List.reverse_replicate, List.dropWhile_append_of_pos]
  intro g hg
  rw [List.eq_of_mem_replicate hg]
  rfl

/-- Whatever carriage returns do not change is the same for the line as it is read. -/
theorem apply_stripped {α : Type} {f : Text → α} (h : ∀ n line, f (withReturns n line) = f line) (line : Text) :
    f (stripped line) = f line := by
  obtain ⟨n, hn⟩ := exists_stripped_append line
  rw [← h n (stripped line), withReturns, hn]

/-! ## What a line is -/

theorem prefix_withReturns {w : Text} (hw : .char '\r' ∉ w) (n : Nat) (line : Text) :
    w <+: withReturns n line ↔ w <+: line := by
  constructor
  · intro h
    rcases List.prefix_or_prefix_of_prefix h (List.prefix_append line _) with h' | ⟨rest, rfl⟩
    · exact h'
    · -- what goes beyond the line is made of carriage returns
      have hrest : rest <+: List.replicate n (Glyph.char '\r') := (List.prefix_append_right_inj line).1 h
      cases rest with
      | nil => simp
      | cons g rest =>
        rw [List.eq_of_mem_replicate (hrest.subset (List.mem_cons_self ..))] at hw
        simp at hw
  · intro h
    exact h.trans (List.prefix_append ..)

theorem kind_withReturns (n : Nat) (line : Text) : LineKind.of (withReturns n line) = LineKind.of line := by
  have hblank : (withReturns n line).isBlank = line.isBlank := by
    have hreturns : (List.replicate n (Glyph.char '\r')).all Glyph.isSpace = true := by
      rw [List.all_eq_true]
      intro g hg
      rw [List.eq_of_mem_replicate hg]
      rfl
    unfold Text.isBlank withReturns
    rw [List.all_append, hreturns, Bool.and_true]
  have hcomment : startsComment (withReturns n line) = startsComment line := by
    rw [Bool.eq_iff_iff, startsComment_iff, startsComment_iff, prefix_withReturns (by decide),
      prefix_withReturns (by decide)]
  have hindented : startsIndented (withReturns n line) = startsIndented line := by
    rw [Bool.eq_iff_iff, startsIndented_iff, startsIndented_iff, prefix_withReturns (by decide)]
  unfold LineKind.of
  rw [hblank, hcomment, hindented]

theorem kind_stripped (line : Text) : LineKind.of (stripped line) = LineKind.of line :=
  apply_stripped kind_withReturns line

/-! ## The method in a line -/

namespace SignatureText

/-- A signature ends with a parenthesis, so that nothing else at the end of the line belongs to it. -/
theorem standsIn_concat_iff {s : SignatureText} {g : Glyph} (hg : g ≠ .char ')') {line before : Text} :
    (∃ after, s.StandsIn (line ++ [g]) before after) ↔ ∃ after, s.StandsIn line before after := by
  constructor
  · rintro ⟨after, h⟩
    have hline := h.line_eq
    rcases List.eq_nil_or_concat after with rfl | ⟨front, last, rfl⟩
    · simp only [← List.append_assoc, ← List.cons_append] at hline
      exact absurd (List.append_inj_right' hline rfl) (by simpa using hg)
    · refine ⟨front, ?_, h.returns_ne_nil, h.returns_word, h.name_ne_nil, h.name_word, h.params_free⟩
      rw [List.concat_eq_append] at hline
      simp only [← List.append_assoc, ← List.cons_append] at hline
      simpa using List.append_inj_left' hline rfl
  · rintro ⟨after, h⟩
    exact ⟨after ++ [g], by rw [h.line_eq]; simp, h.returns_ne_nil, h.returns_word, h.name_ne_nil, h.name_word,
      h.params_free⟩

theorem find?_concat {g : Glyph} (hg : g ≠ .char ')') (line : Text) : find? (line ++ [g]) = find? line := by
  have hfirst : ∀ before, IsFirst (line ++ [g]) before ↔ IsFirst line before := by
    intro before
    constructor
    · intro h s before' after' hs
      obtain ⟨after, hs⟩ := (standsIn_concat_iff hg).2 ⟨after', hs⟩
      exact h s before' after hs
    · intro h s before' after' hs
      obtain ⟨after, hs⟩ := (standsIn_concat_iff hg).1 ⟨after', hs⟩
      exact h s before' after hs
  apply Option.ext
  intro s
  rw [find?_eq_some_iff, find?_eq_some_iff]
  simp only [exists_and_right, standsIn_concat_iff hg, hfirst]

end SignatureText

theorem method?_withReturns (n : Nat) (line : Text) : method? (withReturns n line) = method? line := by
  have hfind : SignatureText.find? (withReturns n line) = SignatureText.find? line := by
    unfold withReturns
    induction n with
    | zero => rw [List.replicate_zero, List.append_nil]
    | succ n ih => rw [List.replicate_succ', ← List.append_assoc, SignatureText.find?_concat (by decide), ih]
  unfold method?
  rw [hfind]

theorem method?_stripped (line : Text) : method? (stripped line) = method? line :=
  apply_stripped method?_withReturns line

/-! ## Sources -/

theorem stripped_cons_congr {a b : Text} (h : stripped a = stripped b) (g : Glyph) :
    stripped (g :: a) = stripped (g :: b) := by
  have hcons : ∀ line, stripped (g :: line) = stripped (g :: stripped line) := by
    intro line
    obtain ⟨n, hn⟩ := exists_stripped_append line
    rw [← stripped_withReturns n (g :: stripped line)]
    exact congrArg (fun t => stripped (g :: t)) hn.symm
  rw [hcons a, hcons b, h]

theorem lines_withReturn (src : Text) : lines (withReturn src) = lines src := by
  have hlines : ∀ t, lines t = (t.split '\n').map stripped := fun t => rfl
  rw [hlines, hlines]
  induction src with
  | nil => rfl
  | cons g src ih =>
    by_cases hg : g = .char '\n'
    · subst hg
      have hcons : withReturn (.char '\n' :: src) = [.char '\r'] ++ .char '\n' :: withReturn src := rfl
      have hempty : Text.split '\n' (.char '\n' :: src) = [[]] ++ Text.split '\n' src := Text.split_append [] src
      rw [hcons, Text.split_append, hempty, List.map_append, List.map_append, ih]
      rfl
    · have hcons : withReturn (g :: src) = g :: withReturn src := by simp [withReturn, hg]
      rw [hcons]
      cases ht : Text.split '\n' src with
      | nil => exact absurd ht (Text.splitBy_ne_nil _ _)
      | cons part parts =>
        cases ht' : Text.split '\n' (withReturn src) with
        | nil => exact absurd ht' (Text.splitBy_ne_nil _ _)
        | cons part' parts' =>
          have hfirst : Text.split '\n' (g :: src) = (g :: part) :: parts :=
            Text.splitBy_cons_of_neg (by simpa using hg) ht
          have hfirst' : Text.split '\n' (g :: withReturn src) = (g :: part') :: parts' :=
            Text.splitBy_cons_of_neg (by simpa using hg) ht'
          rw [ht, ht', List.map_cons, List.map_cons, List.cons.injEq] at ih
          rw [hfirst, hfirst', List.map_cons, List.map_cons, stripped_cons_congr ih.1, ih.2]

theorem lines_withReturns (src : Text) (returns : Nat → Nat) :
    lines (Text.join [.char '\n'] ((src.split '\n').mapIdx fun i line => withReturns (returns i) line)) = lines src := by
  have hne : (src.split '\n').mapIdx (fun i line => withReturns (returns i) line) ≠ [] := by
    simpa [Text.split] using Text.splitBy_ne_nil _ src
  rw [lines_join hne]
  · apply List.ext_getElem
    · simp [lines]
    · intro i h h'
      rw [List.getElem_map, List.getElem_mapIdx, stripped_withReturns]
      simp [lines, stripped]
  · intro line hline hbreak
    obtain ⟨i, hi, rfl⟩ := List.mem_mapIdx.1 hline
    rcases List.mem_append.1 hbreak with hbreak | hbreak
    · exact absurd (Text.of_mem_splitBy (List.getElem_mem hi) hbreak).2 (by simp)
    · exact absurd (List.eq_of_mem_replicate hbreak) (by decide)

/-- A source is read the same if every line gets any number of carriage returns at its end, and if every line break gets
one before it: the counts, the diagnostics with their lines and messages, and the catalogue. -/
theorem read_withReturns (src : Text) :
    (∀ returns : Nat → Nat,
        read (Text.join [.char '\n'] ((src.split '\n').mapIdx fun i line => withReturns (returns i) line)) = read src) ∧
      read (withReturn src) = read src := by
  constructor
  · intro returns
    exact congrArg readLines (lines_withReturns src returns)
  · exact congrArg readLines (lines_withReturn src)

end Stencil.Outline
