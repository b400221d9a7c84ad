import Stencil.Proofs.Keyed

/-!
# Registries: order and map stay in step

A registry that is only filled by `put` has the keys of its map in its order, each once. They stand in the order in which
they first came, and each leads to what was put under it last.
-/

namespace Stencil.Registry

variable {κ α : Type} [DecidableEq κ]

structure InStep (r : Registry κ α) : Prop where
  nodup : r.order.Nodup
  mem_iff : ∀ k, k ∈ r.order ↔ (r.map k).isSome = true

/-- What a registry shows after something was put under one key after the other. -/
structure Holds (r : Registry κ α) (puts : List (κ × α)) : Prop extends r.InStep where
  first : r.order = (puts.map Prod.fst).eraseDups
  last : ∀ k, r.map k = (puts.reverse.find? fun e => e.1 = k).map Prod.snd
  /-- The elements are those of the keys, with none left out. -/
  listed : r.all.map some = r.order.map r.map

theorem order_put_of_some {r : Registry κ α} {k : κ} (h : (r.map k).isSome = true) (a : α) :
    (r.put k a).order = r.order := if_pos h

theorem order_put_of_none {r : Registry κ α} {k : κ} (h : ¬ (r.map k).isSome = true) (a : α) :
    (r.put k a).order = r.order ++ [k] := if_neg h

theorem map_put (r : Registry κ α) (k : κ) (a : α) (k' : κ) :
    (r.put k a).map k' = if k' = k then some a else r.map k' := rfl

namespace InStep

omit [DecidableEq κ] in
theorem start : InStep ({} : Registry κ α) where
  nodup := .nil
  mem_iff := by simp

variable {r : Registry κ α} (h : r.InStep)
include h

theorem mem_order_put (k : κ) (a : α) (k' : κ) : k' ∈ (r.put k a).order ↔ k' = k ∨ k' ∈ r.order := by
  by_cases hk : (r.map k).isSome = true
  · have hmem : k ∈ r.order := (h.mem_iff k).2 hk
    rw [order_put_of_some hk]
    exact ⟨.inr, fun hk' => hk'.elim (fun heq => heq ▸ hmem) id⟩
  · rw [order_put_of_none hk, List.mem_append, List.mem_singleton, or_comm]

theorem put (k : κ) (a : α) : (r.put k a).InStep where
  nodup := by
    by_cases hk : (r.map k).isSome = true
    · rw [order_put_of_some hk]
      exact h.nodup
    · have hnew : k ∉ r.order := mt (h.mem_iff k).1 hk
      rw [order_put_of_none hk]
      exact List.nodup_append.2 ⟨h.nodup, by simp, by simpa using fun k' hk' (heq : k' = k) => hnew (heq ▸ hk')⟩
  mem_iff k' := by
    rw [h.mem_order_put, map_put, h.mem_iff]
    by_cases hk' : k' = k <;> simp [hk']

omit [DecidableEq κ] in
theorem map_some_all : r.all.map some = r.order.map r.map := by
  rw [all, List.map_filterMap, ← List.filterMap_eq_map]
  apply List.filterMap_congr
  intro k hk
  obtain ⟨a, ha⟩ := Option.isSome_iff_exists.1 ((h.mem_iff k).1 hk)
  simp [ha]

end InStep

namespace Holds

theorem start : Holds ({} : Registry κ α) [] where
  toInStep := .start
  first := rfl
  last _ := rfl
  listed := rfl

variable {r : Registry κ α} {puts : List (κ × α)} (h : r.Holds puts)
include h

theorem put (k : κ) (a : α) : (r.put k a).Holds (puts ++ [(k, a)]) where
  toInStep := h.toInStep.put k a
  first := by
    have hmem : k ∈ puts.map Prod.fst ↔ (r.map k).isSome = true := by
      rw [← h.mem_iff, h.first, List.mem_eraseDups]
    rw [List.map_append, List.eraseDups_append, ← h.first]
    by_cases hk : (r.map k).isSome = true
    · rw [order_put_of_some hk]
      simp [List.removeAll, hmem.2 hk]
    · rw [order_put_of_none hk]
      simp [List.removeAll, mt hmem.1 hk, List.eraseDups_cons]
  last k' := by
    rw [map_put, h.last, List.reverse_concat, List.find?_cons]
    by_cases hk : k = k'
    · simp [hk]
    · simp [hk, Ne.symm hk]
  listed := (h.toInStep.put k a).map_some_all

theorem mem_of_map {k : κ} {a : α} (hk : r.map k = some a) : (k, a) ∈ puts := by
  rw [h.last] at hk
  obtain ⟨e, he, rfl⟩ := Option.map_eq_some_iff.1 hk
  have hkey : e.1 = k := by simpa using List.find?_some he
  rw [← hkey]
  exact List.mem_reverse.1 (List.mem_of_find?_eq_some he)

theorem all_eq : r.all = (puts.foldl (fun l e => Keyed.put Prod.fst e l) []).map Prod.snd := by
  have horder := Keyed.map_key_foldl_put Prod.fst puts
  have hget := fun k => Keyed.get?_foldl_put Prod.fst k puts
  have hpairs := Keyed.pairwise_foldl_put Prod.fst puts
  rw [← h.first] at horder
  generalize puts.foldl (fun l e => Keyed.put Prod.fst e l) [] = pairs at horder hget hpairs ⊢
  rw [all, ← horder, List.filterMap_map, ← List.filterMap_eq_map]
  apply List.filterMap_congr
  intro e he
  rw [Function.comp_apply, h.last, ← hget, Keyed.get?_of_mem Prod.fst hpairs he]
  rfl

/-- Looking up what the elements stand for gives the list with keys to which what they stand for was put. -/
theorem filterMap_all {β : Type} {f : α → Option β} (key : β → κ)
    (hf : ∀ e ∈ puts, ∃ b, f e.2 = some b ∧ key b = e.1) :
    r.all.filterMap f = (puts.filterMap fun e => f e.2).foldl (fun l b => Keyed.put key b l) [] := by
  rw [h.all_eq, List.filterMap_map, ← Keyed.filterMap_foldl_put Prod.fst hf]
  rfl

end Holds

end Stencil.Registry
