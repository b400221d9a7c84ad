import Stencil.Proofs.Blocks

/-!
# Outlines by passages

A passage is a block as it is written: a header that is accepted, and below it lines that are no headers. An outline
that is made of passages has their structures, one for each.
-/

namespace Stencil.Outline

structure Passage where
  header : Text
  body : List Text
  declared : Structure
  unbroken : ∀ line ∈ header :: body, .char '\n' ∉ line
  isHeader : LineKind.of (stripped header) = .header
  accepted : structure? (stripped header) = .ok declared
  below : ∀ line ∈ body, LineKind.of (stripped line) ≠ .header

namespace Passage

def lines (p : Passage) : List Text := p.header :: p.body

def block (p : Passage) : Block := ⟨p.declared, bodyOf (p.body.map stripped)⟩

def built (p : Passage) : Structure := p.block.built

theorem key_built (p : Passage) : Catalogue.key p.built = p.declared.name.dotted := Block.key_built p.block

theorem below_stripped (p : Passage) : ∀ line ∈ p.body.map stripped, LineKind.of line ≠ .header := by
  intro line hline
  obtain ⟨l, hl, rfl⟩ := List.mem_map.1 hline
  exact p.below l hl

theorem lines_cons (p : Passage) (ps : List Passage) :
    ((p :: ps).flatMap lines).map stripped =
      stripped p.header :: (p.body.map stripped ++ (ps.flatMap lines).map stripped) := by
  simp [lines]

end Passage

def source (ps : List Passage) : Text := Text.join [.char '\n'] (ps.flatMap Passage.lines)

theorem lines_join {ls : List Text} (hne : ls ≠ []) (h : ∀ line ∈ ls, .char '\n' ∉ line) :
    lines (Text.join [.char '\n'] ls) = ls.map stripped := by
  unfold lines
  rw [Text.split_join hne h]
  rfl

theorem lines_source {ps : List Passage} (h : ps ≠ []) :
    lines (source ps) = (ps.flatMap Passage.lines).map stripped := by
  apply lines_join
  · cases ps with
    | nil => exact absurd rfl h
    | cons p ps => simp [Passage.lines]
  · intro line hline
    obtain ⟨p, _, hp⟩ := List.mem_flatMap.1 hline
    exact p.unbroken line hp

theorem blocks_append_below {ls : List Text} (h : ∀ line ∈ ls, LineKind.of line ≠ .header) (rest : List Text) :
    blocks (ls ++ rest) = blocks rest := by
  induction ls with
  | nil => rfl
  | cons l ls ih =>
    rw [List.cons_append, blocks_cons_of_ne (h l (by simp)), ih fun line hl => h line (List.mem_cons_of_mem _ hl)]

theorem blocks_passages (ps : List Passage) :
    blocks ((ps.flatMap Passage.lines).map stripped) = ps.map Passage.block := by
  induction ps with
  | nil => rfl
  | cons p ps ih =>
    -- what follows begins with a header, which ends the body, or there is nothing
    have hbody : bodyOf (p.body.map stripped ++ (ps.flatMap Passage.lines).map stripped) =
        bodyOf (p.body.map stripped) := by
      cases ps with
      | nil => simp
      | cons q ps => exact bodyOf_append (bodyOf_cons_header q.isHeader _) _
    rw [p.lines_cons, blocks_cons_ok p.isHeader p.accepted, hbody, blocks_append_below p.below_stripped, ih]
    rfl

theorem blocks_source (ps : List Passage) : blocks (lines (source ps)) = ps.map Passage.block := by
  cases ps with
  | nil => rfl
  | cons p ps => rw [lines_source (by simp), blocks_passages]

theorem catalogue_source (ps : List Passage) : (read (source ps)).catalogue = .ofList (ps.map Passage.built) := by
  unfold read
  rw [catalogue_readLines, blocks_source, List.map_map]
  rfl

theorem entries_source {ps : List Passage}
    (h : ps.Pairwise fun p q => p.declared.name.dotted ≠ q.declared.name.dotted) :
    (read (source ps)).catalogue.entries = ps.map Passage.built := by
  rw [catalogue_source, Catalogue.entries_ofList]
  rw [List.pairwise_map]
  simpa only [Passage.key_built] using h

end Stencil.Outline
