import Mathlib.Data.List.Forall2
import Mathlib.Data.List.TakeWhile
import Stencil.Outline.Reading
import Stencil.Proofs.Catalogues
import Stencil.Text.Lemmas

/-!
# Outlines by blocks

An outline can be read block by block: every header that is accepted, with the method lines below it up to the next
header. Reading line by line, with one structure open at a time, gives the catalogue into which the structures of all
blocks are put in order.
-/

namespace Stencil.Outline

/-! ## Lines and their kinds -/

def stripped (line : Text) : Text := line.dropEndWhile (· == .char '\r')

theorem exists_stripped_append (line : Text) : ∃ n, stripped line ++ List.replicate n (.char '\r') = line := by
  let ending := line.reverse.takeWhile (· == .char '\r')
  have hending : ending = List.replicate ending.length (.char '\r') := by
    rw [List.eq_replicate_iff]
    refine ⟨rfl, fun g hg => ?_⟩
    simpa using List.mem_takeWhile_imp hg
  refine ⟨ending.length, ?_⟩
  unfold stripped Text.dropEndWhile
  rw [← List.reverse_replicate, ← hending, ← List.reverse_append, List.takeWhile_append_dropWhile, List.reverse_reverse]

theorem getLast?_stripped_ne (line : Text) : (stripped line).getLast? ≠ some (.char '\r') := by
  intro h
  have hstop := List.head?_dropWhile_not (· == .char '\r') line.reverse
  rw [stripped, Text.dropEndWhile, List.getLast?_reverse] at h
  simp [h] at hstop

/-- The lines of a source stand between its line breaks, and are read without the carriage returns at their ends. -/
theorem exists_raw_lines (src : Text) :
    ∃ raw : List Text, src = Text.join "\n" raw ∧ raw ≠ [] ∧ (∀ l ∈ raw, .char '\n' ∉ l) ∧
      List.Forall₂ (fun l line => line.getLast? ≠ some (.char '\r') ∧ ∃ n, line ++ List.replicate n (.char '\r') = l)
        raw (lines src) := by
  refine ⟨src.split '\n', (Text.join_split '\n' src).symm, Text.splitBy_ne_nil _ src, ?_, ?_⟩
  · intro l hl hbreak
    exact absurd (Text.of_mem_splitBy hl hbreak).2 (by simp)
  · rw [lines, List.forall₂_map_right_iff, List.forall₂_same]
    intro l _
    exact ⟨getLast?_stripped_ne l, exists_stripped_append l⟩

theorem startsComment_iff {line : Text} :
    startsComment line = true ↔ Text.ofString "#" <+: line ∨ Text.ofString "//" <+: line := by
  constructor
  · intro h
    unfold startsComment at h
    split at h
    · exact .inl ⟨_, rfl⟩
    · exact .inr ⟨_, rfl⟩
    · cases h
  · rintro (⟨rest, rfl⟩ | ⟨rest, rfl⟩)
    · rfl
    · rfl

theorem startsIndented_iff {line : Text} : startsIndented line = true ↔ Text.ofString " " <+: line := by
  constructor
  · intro h
    unfold startsIndented at h
    split at h
    · exact ⟨_, rfl⟩
    · cases h
  · rintro ⟨rest, rfl⟩
    rfl

theorem not_isBlank_of_startsComment {line : Text} (h : startsComment line = true) : line.isBlank = false := by
  rcases startsComment_iff.1 h with ⟨rest, rfl⟩ | ⟨rest, rfl⟩
  · rfl
  · rfl

theorem kind_eq_blank_iff {line : Text} : LineKind.of line = .blank ↔ line.isBlank = true := by
  unfold LineKind.of
  split
  · simp [*]
  · split
    · simp [*]
    · split <;> simp [*]

theorem kind_eq_comment_iff {line : Text} : LineKind.of line = .comment ↔ startsComment line = true := by
  constructor
  · intro h
    unfold LineKind.of at h
    split at h
    · cases h
    · split at h
      · assumption
      · split at h <;> cases h
  · intro h
    unfold LineKind.of
    rw [not_isBlank_of_startsComment h, if_neg (by simp), if_pos h]

theorem kind_eq_method_iff {line : Text} :
    LineKind.of line = .method ↔ line.isBlank = false ∧ Text.ofString " " <+: line := by
  constructor
  · intro h
    unfold LineKind.of at h
    split at h
    · cases h
    · rename_i hblank
      split at h
      · cases h
      · split at h
        · rename_i hindented
          exact ⟨by simpa using hblank, startsIndented_iff.1 hindented⟩
        · cases h
  · rintro ⟨hblank, rest, rfl⟩
    unfold LineKind.of
    rw [if_neg (by simpa using hblank)]
    rfl

theorem kind_eq_header_iff {line : Text} :
    LineKind.of line = .header ↔ line.isBlank = false ∧
      ∀ start ∈ [Text.ofString "#", Text.ofString "//", Text.ofString " "], ¬ start <+: line := by
  have hstarts : (∀ start ∈ [Text.ofString "#", Text.ofString "//", Text.ofString " "], ¬ start <+: line) ↔
      startsComment line = false ∧ startsIndented line = false := by
    rw [← Bool.not_eq_true, ← Bool.not_eq_true, startsComment_iff, startsIndented_iff]
    simp [and_assoc]
  rw [hstarts]
  unfold LineKind.of
  cases line.isBlank <;> cases startsComment line <;> cases startsIndented line <;> simp

/-! ## Blocks -/

/-- An accepted header, and the method lines that belong to it. -/
structure Block where
  header : Structure
  body : List Text

namespace Block

def methods (b : Block) : List Method := b.body.filterMap fun line => (method? line).toOption

def built (b : Block) : Structure := b.methods.foldl Structure.addMethod b.header

end Block

/-- The method lines up to the next header. -/
def bodyOf (ls : List Text) : List Text :=
  (ls.takeWhile fun line => LineKind.of line ≠ .header).filter fun line => LineKind.of line = .method

def blocks : List Text → List Block
  | [] => []
  | line :: ls =>
    if LineKind.of line = .header then
      match structure? line with
      | .ok s => ⟨s, bodyOf ls⟩ :: blocks ls
      | .error _ => blocks ls
    else blocks ls

/-! ## Bodies and blocks, line by line -/

theorem bodyOf_cons_header {line : Text} (h : LineKind.of line = .header) (ls : List Text) :
    bodyOf (line :: ls) = [] := by
  simp [bodyOf, h]

theorem bodyOf_cons_method {line : Text} (h : LineKind.of line = .method) (ls : List Text) :
    bodyOf (line :: ls) = line :: bodyOf ls := by
  simp [bodyOf, h]

theorem bodyOf_cons_inert {line : Text} (hh : LineKind.of line ≠ .header) (hm : LineKind.of line ≠ .method)
    (ls : List Text) : bodyOf (line :: ls) = bodyOf ls := by
  simp [bodyOf, hh, hm]

/-- Lines that begin with no method add nothing to the body above them. -/
theorem bodyOf_append {rest : List Text} (h : bodyOf rest = []) (ls : List Text) : bodyOf (ls ++ rest) = bodyOf ls := by
  induction ls with
  | nil => exact h
  | cons l ls ih =>
    rw [List.cons_append]
    by_cases hh : LineKind.of l = .header
    · rw [bodyOf_cons_header hh, bodyOf_cons_header hh]
    · by_cases hm : LineKind.of l = .method
      · rw [bodyOf_cons_method hm, bodyOf_cons_method hm, ih]
      · rw [bodyOf_cons_inert hh hm, bodyOf_cons_inert hh hm, ih]

theorem blocks_cons_of_ne {line : Text} (h : LineKind.of line ≠ .header) (ls : List Text) :
    blocks (line :: ls) = blocks ls := by
  rw [blocks, if_neg h]

theorem blocks_cons_ok {line : Text} {s : Structure} (h : LineKind.of line = .header) (hs : structure? line = .ok s)
    (ls : List Text) : blocks (line :: ls) = ⟨s, bodyOf ls⟩ :: blocks ls := by
  rw [blocks, if_pos h, hs]

theorem blocks_cons_error {line : Text} {e : HeaderError} (h : LineKind.of line = .header)
    (hs : structure? line = .error e) (ls : List Text) : blocks (line :: ls) = blocks ls := by
  rw [blocks, if_pos h, hs]

theorem blocks_append {rest : List Text} (h : bodyOf rest = []) (ls : List Text) :
    blocks (ls ++ rest) = blocks ls ++ blocks rest := by
  induction ls with
  | nil => rfl
  | cons l ls ih =>
    rw [List.cons_append]
    by_cases hl : LineKind.of l = .header
    · cases hs : structure? l with
      | ok s => rw [blocks_cons_ok hl hs, blocks_cons_ok hl hs, ih, bodyOf_append h]; rfl
      | error e => rw [blocks_cons_error hl hs, blocks_cons_error hl hs, ih]
    · rw [blocks_cons_of_ne hl, blocks_cons_of_ne hl, ih]

/-- A header ends the block above it, whether it is accepted or not. -/
theorem blocks_append_header {line : Text} (h : LineKind.of line = .header) (ls rest : List Text) :
    blocks (ls ++ line :: rest) = blocks ls ++ blocks (line :: rest) :=
  blocks_append (bodyOf_cons_header h rest) ls

theorem blocks_dropWhile (ls : List Text) :
    blocks (ls.dropWhile fun line => LineKind.of line ≠ .header) = blocks ls := by
  induction ls with
  | nil => rfl
  | cons l ls ih =>
    by_cases hl : LineKind.of l = .header
    · rw [List.dropWhile_cons_of_neg (by simp [hl])]
    · rw [List.dropWhile_cons_of_pos (by simp [hl]), blocks_cons_of_ne hl, ih]

theorem blocks_of_no_header {ls : List Text} (h : ∀ line ∈ ls, LineKind.of line ≠ .header) : blocks ls = [] := by
  induction ls with
  | nil => rfl
  | cons l ls ih =>
    rw [blocks_cons_of_ne (h l (by simp)), ih fun line hl => h line (List.mem_cons_of_mem _ hl)]

theorem foldl_addMethod (ms : List Method) (s : Structure) :
    ms.foldl Structure.addMethod s =
      { s with methods := ms.foldl (fun l m => Keyed.put Method.name m l) s.methods } := by
  induction ms generalizing s with
  | nil => rfl
  | cons m ms ih => exact ih (s.addMethod m)

theorem Block.key_built (b : Block) : Catalogue.key b.built = b.header.name.dotted := by
  unfold Catalogue.key Block.built
  rw [foldl_addMethod]

/-! ## Reading with a structure open -/

namespace Progress

/-- The structures that are still to be put into the catalogue when the lines `ls` are left: the open one with the
methods that follow, then those of the blocks. -/
def pending (p : Progress) (ls : List Text) : List Structure :=
  (p.opened.map fun s => Block.built ⟨s, bodyOf ls⟩).toList ++ (blocks ls).map Block.built

def outcome (p : Progress) (ls : List Text) : Catalogue := (p.pending ls).foldl Catalogue.put p.done.catalogue

theorem outcome_congr {p p' : Progress} (hc : p'.done.catalogue = p.done.catalogue) (ho : p'.opened = p.opened)
    (ls : List Text) : p'.outcome ls = p.outcome ls := by
  unfold outcome pending
  rw [hc, ho]

theorem outcome_inert {line : Text} (hh : LineKind.of line ≠ .header) (hm : LineKind.of line ≠ .method)
    (p : Progress) (ls : List Text) : p.outcome (line :: ls) = p.outcome ls := by
  unfold outcome pending
  rw [bodyOf_cons_inert hh hm, blocks_cons_of_ne hh]

theorem outcome_readMethod {line : Text} (h : LineKind.of line = .method) (p : Progress) (ls : List Text) :
    (p.readMethod line).outcome ls = p.outcome (line :: ls) := by
  have hh : LineKind.of line ≠ .header := by simp [h]
  unfold readMethod outcome pending
  rw [bodyOf_cons_method h, blocks_cons_of_ne hh]
  cases ho : p.opened with
  | none => simp [report, ho]
  | some s =>
    cases hm : method? line with
    | ok m => simp [Block.built, Block.methods, hm, Except.toOption]
    | error e => simp [report, ho, Block.built, Block.methods, hm, Except.toOption]

theorem catalogue_close (p : Progress) :
    p.close.done.catalogue = p.opened.toList.foldl Catalogue.put p.done.catalogue := by
  unfold close
  cases p.opened <;> rfl

theorem opened_close (p : Progress) : p.close.opened = none := by
  unfold close
  cases ho : p.opened with
  | none => exact ho
  | some s => rfl

theorem outcome_readHeader {line : Text} (h : LineKind.of line = .header) (p : Progress) (ls : List Text) :
    (p.readHeader line).outcome ls = p.outcome (line :: ls) := by
  -- the header closes the open structure, to which no line was left
  have hopen : (p.opened.map fun s => Block.built ⟨s, []⟩).toList = p.opened.toList := by
    cases p.opened <;> rfl
  have hline : p.outcome (line :: ls) =
      ((blocks (line :: ls)).map Block.built).foldl Catalogue.put p.close.done.catalogue := by
    unfold outcome pending
    rw [bodyOf_cons_header h, hopen, List.foldl_append, ← catalogue_close]
  rw [hline]
  unfold readHeader outcome pending
  cases hs : structure? line with
  | ok s => rw [blocks_cons_ok h hs]; rfl
  | error e => rw [blocks_cons_error h hs]; simp [report, opened_close]

/-- One line does not change what the catalogue will be in the end. -/
theorem outcome_readLine (p : Progress) (line : Text) (ls : List Text) :
    (p.readLine line).outcome ls = p.outcome (line :: ls) := by
  unfold readLine
  cases hk : LineKind.of line with
  | blank => rw [outcome_inert (by simp [hk]) (by simp [hk])]; rfl
  | comment => rw [outcome_inert (by simp [hk]) (by simp [hk])]; rfl
  | method => exact (outcome_readMethod hk p.countLine ls).trans (outcome_congr rfl rfl _)
  | header => exact (outcome_readHeader hk p.countLine ls).trans (outcome_congr rfl rfl _)

theorem catalogue_foldl_readLine (ls : List Text) (p : Progress) :
    (ls.foldl readLine p).close.done.catalogue = p.outcome ls := by
  induction ls generalizing p with
  | nil =>
    rw [List.foldl_nil, catalogue_close]
    unfold outcome pending
    cases p.opened <;> rfl
  | cons line ls ih => rw [List.foldl_cons, ih, outcome_readLine]

end Progress

theorem catalogue_readLines (ls : List Text) : (readLines ls).catalogue = .ofList ((blocks ls).map Block.built) :=
  Progress.catalogue_foldl_readLine ls {}

theorem blocks_refused {line : Text} {e : HeaderError} (h : LineKind.of line = .header)
    (hs : structure? line = .error e) (above below : List Text) :
    blocks (above ++ line :: below) =
      blocks above ++ blocks (below.dropWhile fun line => LineKind.of line ≠ .header) := by
  rw [blocks_append_header h, blocks_cons_error h hs, blocks_dropWhile]

theorem blocks_last {line : Text} {s : Structure} (h : LineKind.of line = .header) (hs : structure? line = .ok s)
    (above : List Text) {below : List Text} (hb : ∀ l ∈ below, LineKind.of l ≠ .header) :
    blocks (above ++ line :: below) = blocks above ++ [⟨s, bodyOf below⟩] := by
  rw [blocks_append_header h, blocks_cons_ok h hs, blocks_of_no_header hb]

/-- The catalogue of an outline is made of its blocks, put one after the other. Of blocks with the same name the last
one counts, at the place of the first. A header that is refused opens nothing, and the lines below it belong to no
block. The last block is there although no header follows it. What counts as a line, and what kind it is of, is said at
the end. -/
theorem catalogue_read (src : Text) :
    let built := (blocks (lines src)).map Block.built
    let c := (read src).catalogue
    c = .ofList built ∧
      (∀ q, c.get? q = built.reverse.find? fun s => Catalogue.key s = q.dotted) ∧
      c.names = (built.map Catalogue.key).eraseDups ∧
      (∀ above line below e, lines src = above ++ line :: below → LineKind.of line = .header →
        structure? line = .error e →
        blocks (lines src) = blocks above ++ blocks (below.dropWhile fun l => LineKind.of l ≠ .header)) ∧
      (∀ above line below s, lines src = above ++ line :: below → LineKind.of line = .header →
        structure? line = .ok s → (∀ l ∈ below, LineKind.of l ≠ .header) →
        c.get? s.name = some (Block.built ⟨s, bodyOf below⟩)) ∧
      (∃ raw : List Text, src = Text.join "\n" raw ∧ raw ≠ [] ∧ (∀ l ∈ raw, .char '\n' ∉ l) ∧
        List.Forall₂ (fun l line => line.getLast? ≠ some (.char '\r') ∧ ∃ n, line ++ List.replicate n (.char '\r') = l)
          raw (lines src)) ∧
      ∀ line : Text,
        (LineKind.of line = .blank ↔ ∀ g ∈ line, g.isSpace = true) ∧
          (LineKind.of line = .comment ↔ Text.ofString "#" <+: line ∨ Text.ofString "//" <+: line) ∧
          (LineKind.of line = .method ↔ (∃ g ∈ line, g.isSpace = false) ∧ Text.ofString " " <+: line) ∧
          (LineKind.of line = .header ↔ (∃ g ∈ line, g.isSpace = false) ∧
            ∀ start ∈ [Text.ofString "#", Text.ofString "//", Text.ofString " "], ¬ start <+: line) := by
  intro built c
  have hc : c = .ofList built := catalogue_readLines (lines src)
  refine ⟨hc, ?_, ?_, ?_, ?_, exists_raw_lines src, ?_⟩
  · intro q
    rw [hc, Catalogue.get?_ofList]
  · rw [hc, Catalogue.names_ofList]
  · intro above line below e hl h hs
    rw [hl, blocks_refused h hs]
  · intro above line below s hl h hs hb
    have hkey := Block.key_built ⟨s, bodyOf below⟩
    rw [hc, Catalogue.get?_ofList]
    simp only [built]
    rw [hl, blocks_last h hs above hb, List.map_append, List.map_singleton, List.reverse_concat,
      List.find?_cons_of_pos (by simpa using hkey)]
  · intro line
    have hblank : line.isBlank = true ↔ ∀ g ∈ line, g.isSpace = true := List.all_eq_true
    have hfilled : line.isBlank = false ↔ ∃ g ∈ line, g.isSpace = false := by
      rw [← Bool.not_eq_true, hblank]
      simp
    rw [← hblank, ← hfilled]
    exact ⟨kind_eq_blank_iff, kind_eq_comment_iff.trans startsComment_iff, kind_eq_method_iff, kind_eq_header_iff⟩

example :
    (read "class A\n  void first()\nclass B\nrecord C\n  void lost()\nclass A\n  void last()").catalogue.entries.map
      (fun s => (s.shortName, s.methods.map Method.name)) =
      [(Text.ofString "A", [Text.ofString "last"]), (Text.ofString "B", [])] := by
  decide +kernel

end Stencil.Outline
