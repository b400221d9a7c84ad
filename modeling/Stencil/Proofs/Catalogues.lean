import Mathlib.Data.List.Induction
import Stencil.Catalogue
import Stencil.Proofs.Keyed

/-!
# What a catalogue holds

A catalogue filled by putting structures into it one after the other has the names in the order in which they first
came, and under every name the structure that was put last.
-/

namespace Stencil

namespace Catalogue

theorem key_of_get? {c : Catalogue} {q : QName} {s : Structure} (h : c.get? q = some s) : key s = q.dotted := by
  simpa using List.find?_some h

theorem get?_congr (c : Catalogue) {p q : QName} (h : p.dotted = q.dotted) : c.get? p = c.get? q := by
  unfold get?
  rw [h]

theorem dotted_ne_of_get? {c : Catalogue} {p q : QName} {t : Structure} (hp : c.get? p = none) (hq : c.get? q = some t) :
    q.dotted ≠ p.dotted := by
  intro heq
  rw [get?_congr c heq, hp] at hq
  cases hq

theorem eq_of_get? {c : Catalogue} {p q : QName} {s t : Structure} (heq : q.dotted = p.dotted) (hp : c.get? p = some s)
    (hq : c.get? q = some t) : t = s := by
  rw [get?_congr c heq, hp] at hq
  exact (Option.some.inj hq).symm

theorem ofList_concat (l : List Structure) (s : Structure) : ofList (l ++ [s]) = (ofList l).put s := by
  simp [ofList]

theorem entries_foldl_put (l : List Structure) (c : Catalogue) :
    (l.foldl put c).entries = l.foldl (fun l s => Keyed.put key s l) c.entries := by
  induction l generalizing c with
  | nil => rfl
  | cons s l ih => exact ih (c.put s)

theorem entries_ofList_eq_foldl (l : List Structure) :
    (ofList l).entries = l.foldl (fun l s => Keyed.put key s l) [] := entries_foldl_put l empty

theorem get?_ofList (l : List Structure) (q : QName) :
    (ofList l).get? q = l.reverse.find? fun s => key s = q.dotted := by
  rw [← Keyed.get?_foldl_put key q.dotted l, ← entries_ofList_eq_foldl]
  rfl

theorem names_ofList (l : List Structure) : (ofList l).names = (l.map key).eraseDups := by
  unfold names
  rw [entries_ofList_eq_foldl, Keyed.map_key_foldl_put]

theorem size_ofList_le (l : List Structure) : (ofList l).size ≤ l.length := by
  induction l using List.reverseRecOn with
  | nil => exact Nat.le_refl 0
  | append_singleton l s ih =>
    have hput : ((ofList l).put s).size ≤ (ofList l).size + 1 := Keyed.length_put_le key s _
    rw [ofList_concat, List.length_append, List.length_singleton]
    omega

theorem entries_ofList {l : List Structure} (h : l.Pairwise fun s t => key s ≠ key t) : (ofList l).entries = l := by
  rw [entries_ofList_eq_foldl, Keyed.foldl_put_eq_self key h]

/-- The structures of a catalogue are put into another one as they were put into the first. -/
theorem foldl_put_entries_ofList (l : List Structure) (c : Catalogue) :
    (ofList l).entries.foldl put c = l.foldl put c := by
  rw [Catalogue.mk.injEq, entries_foldl_put, entries_foldl_put, entries_ofList_eq_foldl, Keyed.foldl_put_foldl_put]

theorem ofList_append (l l' : List Structure) : ofList (l ++ l') = (ofList l').entries.foldl put (ofList l) := by
  rw [foldl_put_entries_ofList]
  exact List.foldl_append

theorem mem_of_mem_ofList {l : List Structure} {s : Structure} (h : s ∈ (ofList l).entries) : s ∈ l := by
  rw [entries_ofList_eq_foldl] at h
  exact Keyed.mem_of_mem_foldl_put key h

theorem exists_mem_ofList {l : List Structure} {s : Structure} (h : s ∈ l) :
    ∃ s' ∈ (ofList l).entries, key s' = key s := by
  have hname : key s ∈ (ofList l).names := by
    rw [names_ofList]
    exact List.mem_eraseDups.2 (List.mem_map_of_mem h)
  exact List.mem_map.1 hname

end Catalogue

end Stencil
