import Mathlib.Data.List.Perm.Basic
import Stencil.Proofs.Keyed
import Stencil.TypeMapping

/-!
# Which replacement of a type counts

The replacements of a user are first gathered in a table by the sources as they are written, and the table is then
visited in an order of its own, in which sources that are spelled differently may come to name the same type. That the
last replacement of a type counts is therefore true only under a condition, which `last_replacement_counts_iff` gives.
-/

namespace Stencil

namespace Replacement

/-- The type that a replacement is for, by its tag or its dotted name. -/
def subject (r : Replacement) : Text := (QName.ofText r.source).dotted

theorem source_normalize (r : Replacement) : r.normalize.source = r.subject := by
  have htags : ∀ tag ∈ TypeRef.tags, (QName.ofText tag).dotted = tag := by decide
  unfold normalize
  split
  · rename_i h
    exact (htags r.source (by simpa [TypeRef.isTag] using h)).symm
  · rfl

theorem target_normalize (r : Replacement) : r.normalize.target = r.target := by
  unfold normalize
  split <;> rfl

theorem get?_table (k : Text) (rs : List Replacement) :
    Keyed.get? source k (table rs) = rs.reverse.find? fun r => r.source = k :=
  Keyed.get?_foldl_put source k rs

theorem mem_table_iff {rs : List Replacement} {r : Replacement} :
    r ∈ table rs ↔ (rs.reverse.find? fun r' => r'.source = r.source) = some r := by
  rw [← get?_table]
  exact ⟨Keyed.get?_of_mem source (Keyed.pairwise_foldl_put source rs), List.mem_of_find?_eq_some⟩

theorem mem_of_mem_table {rs : List Replacement} {r : Replacement} (h : r ∈ table rs) : r ∈ rs :=
  List.mem_reverse.1 (List.mem_of_find?_eq_some (mem_table_iff.1 h))

theorem exists_mem_table {rs : List Replacement} {r : Replacement} (h : r ∈ rs) :
    ∃ r' ∈ table rs, r'.source = r.source := by
  cases hlast : rs.reverse.find? fun r' => r'.source = r.source with
  | none => exact absurd (decide_eq_true rfl) (List.find?_eq_none.1 hlast r (List.mem_reverse.2 h))
  | some r' =>
    have hsource : r'.source = r.source := by simpa using List.find?_some hlast
    exact ⟨r', mem_table_iff.2 (hsource ▸ hlast), hsource⟩

theorem subject_congr {r r' : Replacement} (h : r'.source = r.source) : r'.subject = r.subject := by
  unfold subject
  rw [h]

end Replacement

/-- What becomes of a type when the table of a user's replacements is visited in the order given, and other rules come
after it. PHP has no other rules, and Go has those for built-in types. -/
def TypeRule.resolveIn (order : List Replacement) (others : List TypeRule) (t : TypeRef) : Resolved :=
  resolve ((ofReplacements order).toList ++ others) t

/-- The last replacement of a type counts; a type without one is left to other rules. -/
def Replacement.lastCounts (rs : List Replacement) (others : List TypeRule) (t : TypeRef) : Resolved :=
  match rs.reverse.find? fun r => r.subject = t.text with
  | some r => .text r.target
  | none => TypeRule.resolve others t

namespace TypeRule

theorem resolve_cons (rule : TypeRule) (rules : List TypeRule) (t : TypeRef) :
    resolve (rule :: rules) t = ((rule.replacement? t).map Resolved.text).getD (resolve rules t) := by
  unfold resolve
  rw [List.findSome?_cons]
  cases rule.replacement? t <;> rfl

theorem resolveIn_eq (order : List Replacement) (others : List TypeRule) (t : TypeRef) :
    resolveIn order others t = Replacement.lastCounts order others t := by
  unfold resolveIn ofReplacements Replacement.lastCounts
  cases order with
  | nil => rfl
  | cons r rs =>
    have hlast : ((r :: rs).map Replacement.normalize).reverse.find? (fun r => r.source = t.text) =
        ((r :: rs).reverse.find? fun r => r.subject = t.text).map Replacement.normalize := by
      rw [← List.map_reverse, List.find?_map]
      simp only [Function.comp_def, Replacement.source_normalize]
    rw [List.isEmpty_cons, if_neg (by simp), Option.toList_some, List.singleton_append, resolve_cons, replacement?,
      Replacement.get?_table, hlast]
    cases (r :: rs).reverse.find? fun r => r.subject = t.text with
    | none => rfl
    | some r => simp [Replacement.target_normalize]

end TypeRule

/-- In every order of the table the last replacement of a type counts, exactly if for every spelling of the type the last
replacement with this spelling has the target of the last replacement of all. -/
theorem last_replacement_counts_iff (rs : List Replacement) (others : List TypeRule) (t : TypeRef) :
    (∀ order : List Replacement, order.Perm (Replacement.table rs) →
        TypeRule.resolveIn order others t = Replacement.lastCounts rs others t) ↔
      ∀ r ∈ rs, r.subject = t.text →
        (rs.reverse.find? fun r' => r'.source = r.source).map Replacement.target =
          (rs.reverse.find? fun r' => r'.subject = t.text).map Replacement.target := by
  constructor
  · intro h r hr hsubject
    obtain ⟨r', hr', hsource⟩ := Replacement.exists_mem_table hr
    have hsubject' : r'.subject = t.text := (Replacement.subject_congr hsource).trans hsubject
    -- an order in which this spelling is visited last
    have horder : ((Replacement.table rs).erase r' ++ [r']).Perm (Replacement.table rs) :=
      List.perm_append_comm.trans (List.perm_cons_erase hr').symm
    have hlast := h _ horder
    rw [TypeRule.resolveIn_eq, Replacement.lastCounts, List.reverse_concat, List.find?_cons_of_pos (by simpa)] at hlast
    rw [← hsource, Replacement.mem_table_iff.1 hr']
    unfold Replacement.lastCounts at hlast
    cases hl : rs.reverse.find? fun r' => r'.subject = t.text with
    | none => exact absurd hsubject (by simpa using List.find?_eq_none.1 hl r (List.mem_reverse.2 hr))
    | some l =>
      rw [hl] at hlast
      simpa using hlast
  · intro h order horder
    rw [TypeRule.resolveIn_eq]
    unfold Replacement.lastCounts
    cases hvisited : order.reverse.find? fun r => r.subject = t.text with
    | none =>
      have hnone : (rs.reverse.find? fun r => r.subject = t.text) = none := by
        apply List.find?_eq_none.2
        intro r hr
        obtain ⟨r', hr', hsource⟩ := Replacement.exists_mem_table (List.mem_reverse.1 hr)
        have hmem : r' ∈ order.reverse := List.mem_reverse.2 (horder.mem_iff.2 hr')
        rw [← Replacement.subject_congr hsource]
        exact List.find?_eq_none.1 hvisited r' hmem
      rw [hnone]
    | some r =>
      -- what is visited last stands in the table, so that it is the last replacement with its spelling
      have hr : r ∈ Replacement.table rs :=
        horder.mem_iff.1 (List.mem_reverse.1 (List.mem_of_find?_eq_some hvisited))
      have hsubject : r.subject = t.text := by simpa using List.find?_some hvisited
      have htarget := h r (Replacement.mem_of_mem_table hr) hsubject
      rw [Replacement.mem_table_iff.1 hr] at htarget
      cases hl : rs.reverse.find? fun r' => r'.subject = t.text with
      | none => simp [hl] at htarget
      | some l => simpa [hl] using htarget

/-- The last replacement does not always count: here it comes first in the table, under the spelling that was there
first, and the other spelling is visited after it. -/
theorem last_replacement_not_counts :
    ¬ ∀ (rs : List Replacement) (others : List TypeRule) (t : TypeRef) (order : List Replacement),
        order.Perm (Replacement.table rs) →
          TypeRule.resolveIn order others t = Replacement.lastCounts rs others t := by
  intro h
  let rs : List Replacement := [⟨"app.Clock", "First"⟩, ⟨"app/Clock", "Middle"⟩, ⟨"app.Clock", "Last"⟩]
  have heq := h rs [] (.named (.ofText "app.Clock")) (Replacement.table rs) (.refl _)
  exact absurd heq (by decide)

end Stencil
