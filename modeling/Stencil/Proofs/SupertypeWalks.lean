import Mathlib.Data.List.Lex
import Mathlib.Data.List.Nodup
import Stencil.Proofs.GoMethodSets

/-!
# The walk over the supertypes

The supertypes of a structure are walked in depth, and every structure is met once, however the supertypes lead back to
one another. Which structures are met does not depend on the order of the walk: they are those to which a path leads
that never comes to the name where the walk began. The order is that of the routes. A route is known by the places at
which it leaves each list of supertypes, and routes are compared place by place; a structure stands where the first of
the routes to it stands.
-/

namespace Stencil

open Relation

namespace Catalogue

/-! ## Walks -/

/-- A walk in depth over names: `visited` are the names that were visited before it and `after` those that were visited
when it ends, and `ts` are the structures that it meets. The supertypes of a structure are walked right after it, and
names that were visited meanwhile are passed over among the names that are left. -/
inductive Walk (c : Catalogue) : List Text → List QName → List Structure → List Text → Prop
  | done {visited : List Text} : Walk c visited [] [] visited
  | visited {visited after : List Text} {q : QName} {qs : List QName} {ts : List Structure} (hq : q.dotted ∈ visited)
      (hrest : Walk c visited qs ts after) : Walk c visited (q :: qs) ts after
  | unknown {visited after : List Text} {q : QName} {qs : List QName} {ts : List Structure} (hq : q.dotted ∉ visited)
      (hget : c.get? q = none) (hrest : Walk c (q.dotted :: visited) qs ts after) : Walk c visited (q :: qs) ts after
  | known {visited between after : List Text} {q : QName} {qs : List QName} {s : Structure} {us ts : List Structure}
      (hq : q.dotted ∉ visited) (hget : c.get? q = some s)
      (hsupers : Walk c (q.dotted :: visited) s.supertypes us between) (hrest : Walk c between qs ts after) :
      Walk c visited (q :: qs) (s :: (us ++ ts)) after

theorem Walk.of_append {c : Catalogue} {visited after : List Text} {ps qs : List QName} {ts : List Structure}
    (h : c.Walk visited (ps ++ qs) ts after) :
    ∃ us between vs, c.Walk visited ps us between ∧ c.Walk between qs vs after ∧ ts = us ++ vs := by
  generalize hnames : ps ++ qs = names at h
  induction h generalizing ps with
  | @done visited =>
    obtain ⟨rfl, rfl⟩ := List.append_eq_nil_iff.1 hnames
    exact ⟨[], visited, [], .done, .done, rfl⟩
  | visited hq hrest ih =>
    rcases List.append_eq_cons_iff.1 hnames with ⟨rfl, rfl⟩ | ⟨ps, rfl, rfl⟩
    · exact ⟨[], _, _, .done, .visited hq hrest, rfl⟩
    · obtain ⟨us, between, vs, hps, hqs, rfl⟩ := ih rfl
      exact ⟨us, between, vs, .visited hq hps, hqs, rfl⟩
  | unknown hq hget hrest ih =>
    rcases List.append_eq_cons_iff.1 hnames with ⟨rfl, rfl⟩ | ⟨ps, rfl, rfl⟩
    · exact ⟨[], _, _, .done, .unknown hq hget hrest, rfl⟩
    · obtain ⟨us, between, vs, hps, hqs, rfl⟩ := ih rfl
      exact ⟨us, between, vs, .unknown hq hget hps, hqs, rfl⟩
  | known hq hget hsupers hrest _ ih =>
    rcases List.append_eq_cons_iff.1 hnames with ⟨rfl, rfl⟩ | ⟨ps, rfl, rfl⟩
    · exact ⟨[], _, _, .done, .known hq hget hsupers hrest, rfl⟩
    · obtain ⟨us, between, vs, hps, hqs, rfl⟩ := ih rfl
      exact ⟨_, between, vs, .known hq hget hsupers hps, hqs, by simp⟩

/-! ## Paths and routes -/

def SupertypeOutside (c : Catalogue) (avoided : List Text) (s t : Structure) : Prop :=
  ∃ q ∈ s.supertypes, q.dotted ∉ avoided ∧ c.get? q = some t

/-- A route to `t` by its places: the first is a place in `qs`, and each other one is a place among the supertypes of
the structure that was come to before. It comes to no name that is avoided, and to no name twice. -/
inductive Route (c : Catalogue) : List Text → List QName → List Nat → Structure → Prop
  | last {avoided : List Text} {qs : List QName} {i : Nat} {q : QName} {t : Structure} (hi : qs[i]? = some q)
      (hq : q.dotted ∉ avoided) (ht : c.get? q = some t) : Route c avoided qs [i] t
  | step {avoided : List Text} {qs : List QName} {i : Nat} {is : List Nat} {q : QName} {s t : Structure}
      (hi : qs[i]? = some q) (hq : q.dotted ∉ avoided) (hs : c.get? q = some s)
      (hrest : Route c (q.dotted :: avoided) s.supertypes is t) : Route c avoided qs (i :: is) t

/-- Some route to `t` comes before all routes to `u`. -/
def Precedes (c : Catalogue) (avoided : List Text) (qs : List QName) (t u : Structure) : Prop :=
  ∃ is, c.Route avoided qs is t ∧ ∀ js, c.Route avoided qs js u → is < js

section
variable {c : Catalogue} {avoided avoided' : List Text} {qs ps : List QName} {is js : List Nat} {s t u : Structure}
  {q : QName}

theorem Route.ne_nil (h : c.Route avoided qs is t) : is ≠ [] := by
  cases h with
  | last => simp
  | step => simp

theorem Route.exists_first {i : Nat} (h : c.Route avoided qs (i :: is) t) :
    ∃ q s, qs[i]? = some q ∧ q.dotted ∉ avoided ∧ c.get? q = some s := by
  cases h with
  | last hi hq ht => exact ⟨_, _, hi, hq, ht⟩
  | step hi hq hs => exact ⟨_, _, hi, hq, hs⟩

theorem Route.place_lt {i : Nat} (h : c.Route avoided qs (i :: is) t) : i < qs.length := by
  obtain ⟨q, s, hi, _⟩ := h.exists_first
  exact (List.getElem?_eq_some_iff.1 hi).1

theorem Route.at_place {i j : Nat} (h : c.Route avoided qs (i :: is) t) (hij : ps[j]? = qs[i]?) :
    c.Route avoided ps (j :: is) t := by
  cases h with
  | last hi hq ht => exact .last (hij.trans hi) hq ht
  | step hi hq hs hrest => exact .step (hij.trans hi) hq hs hrest

theorem Route.avoiding (h : c.Route avoided qs is t)
    (hsub : ∀ q s, c.get? q = some s → q.dotted ∈ avoided' → q.dotted ∈ avoided) : c.Route avoided' qs is t := by
  induction h generalizing avoided' with
  | last hi hq ht => exact .last hi (fun hmem => hq (hsub _ _ ht hmem)) ht
  | step hi hq hs _ ih =>
    refine .step hi (fun hmem => hq (hsub _ _ hs hmem)) hs (ih ?_)
    intro p r hp hmem
    simp only [List.mem_cons] at hmem ⊢
    exact hmem.imp_right (hsub p r hp)

theorem Route.key_not_mem (h : c.Route avoided qs is t) : key t ∉ avoided := by
  induction h with
  | last _ hq ht => rwa [key_of_get? ht]
  | step _ _ _ _ ih => exact List.not_mem_of_not_mem_cons ih

theorem Route.exists_get? (h : c.Route avoided qs is t) : ∃ q, c.get? q = some t := by
  induction h with
  | last _ _ ht => exact ⟨_, ht⟩
  | step _ _ _ _ ih => exact ih

theorem Route.avoids_or_passes (h : c.Route avoided qs is t) (hq : c.get? q = some s) (hne : t ≠ s) :
    c.Route (q.dotted :: avoided) qs is t ∨ ∃ js, c.Route (q.dotted :: avoided) s.supertypes js t := by
  induction h with
  | @last avoided qs i p t hi hp ht =>
    have hpq : p.dotted ≠ q.dotted := fun heq => hne (eq_of_get? heq hq ht)
    exact .inl (.last hi (by simp [hpq, hp]) ht)
  | @step avoided qs i is p r t hi hp hr hrest ih =>
    by_cases hpq : p.dotted = q.dotted
    · -- the route comes to `q` here, and what is left of it begins there
      rw [eq_of_get? hpq hq hr, hpq] at hrest
      exact .inr ⟨is, hrest⟩
    · rcases ih hne with h | ⟨js, h⟩
      · have hswap : c.Route (p.dotted :: q.dotted :: avoided) r.supertypes is t := by
          refine h.avoiding fun _ _ _ hmem => ?_
          simpa [or_left_comm] using hmem
        exact .inl (.step hi (by simp [hpq, hp]) hr hswap)
      · exact .inr ⟨js, h.avoiding fun _ _ _ hmem => List.cons_subset_cons _ (List.subset_cons_self ..) hmem⟩

theorem Route.exists_path (h : c.Route avoided qs is t) :
    ∃ q ∈ qs, q.dotted ∉ avoided ∧ ∃ u, c.get? q = some u ∧ ReflTransGen (c.SupertypeOutside avoided) u t := by
  induction h with
  | last hi hq ht => exact ⟨_, List.mem_of_getElem? hi, hq, _, ht, .refl⟩
  | step hi hq hs _ ih =>
    obtain ⟨p, hp, hfree, u, hu, hpath⟩ := ih
    refine ⟨_, List.mem_of_getElem? hi, hq, _, hs, .head ⟨p, hp, ?_, hu⟩ (ReflTransGen.mono ?_ _ _ hpath)⟩
    · exact List.not_mem_of_not_mem_cons hfree
    · rintro r r' ⟨p', hp', hfree', hr'⟩
      exact ⟨p', hp', List.not_mem_of_not_mem_cons hfree', hr'⟩

theorem Precedes.asymm (h : c.Precedes avoided qs t u) : ¬ c.Precedes avoided qs u t := by
  rintro ⟨js, hjs, hbefore⟩
  obtain ⟨is, his, hbefore'⟩ := h
  exact lt_asymm (hbefore' js hjs) (hbefore is his)

theorem Precedes.key_ne (h : c.Precedes avoided qs t u) (hu : c.Route avoided qs js u) : key t ≠ key u := by
  intro heq
  obtain ⟨is, his, hbefore⟩ := h
  obtain ⟨p, hp⟩ := his.exists_get?
  obtain ⟨r, hr⟩ := hu.exists_get?
  have htu : t = u := by
    refine eq_of_get? ?_ hr hp
    rw [← key_of_get? hp, ← key_of_get? hr, heq]
  exact lt_irrefl is (hbefore is (htu ▸ his))

end

/-! ## Routes while structures are walked

When a name is followed, the supertypes of what is found take its place in front of the names that are left. -/

/-- The places of a route over `ps ++ qs`, seen from `q :: qs`, where `q` leads to the `n` names `ps`. -/
def unstacked (n : Nat) : List Nat → List Nat
  | [] => []
  | i :: is => if i < n then 0 :: i :: is else (i - n + 1) :: is

theorem unstacked_of_lt {n i : Nat} (h : i < n) (is : List Nat) : unstacked n (i :: is) = 0 :: i :: is := if_pos h

theorem unstacked_add (n i : Nat) (is : List Nat) : unstacked n ((n + i) :: is) = (i + 1) :: is := by
  simp only [unstacked]
  rw [if_neg (by omega), Nat.add_sub_cancel_left]

theorem lt_unstacked {is : List Nat} (n : Nat) (hne : is ≠ []) : [0] < unstacked n is := by
  obtain ⟨i, is, rfl⟩ := List.exists_cons_of_ne_nil hne
  simp only [unstacked]
  split
  · exact List.cons_lt_cons_iff.2 (.inr ⟨rfl, List.nil_lt_cons ..⟩)
  · exact List.cons_lt_cons_iff.2 (.inl (Nat.succ_pos _))

theorem unstacked_lt {is js : List Nat} (n : Nat) (hne : is ≠ []) (h : is < js) : unstacked n is < unstacked n js := by
  obtain ⟨i, is, rfl⟩ := List.exists_cons_of_ne_nil hne
  cases js with
  | nil => exact absurd h (List.not_lt_nil _)
  | cons j js =>
    have hplaces := List.cons_lt_cons_iff.1 h
    simp only [unstacked]
    split
    · split
      · exact List.cons_lt_cons_iff.2 (.inr ⟨rfl, h⟩)
      · exact List.cons_lt_cons_iff.2 (.inl (Nat.succ_pos _))
    · rw [if_neg (by omega), List.cons_lt_cons_iff]
      rcases hplaces with hlt | ⟨rfl, hrest⟩
      · exact .inl (by omega)
      · exact .inr ⟨rfl, hrest⟩

section
variable {c : Catalogue} {visited visited' : List Text} {q : QName} {qs qs' : List QName} {is js : List Nat}
  {s t u : Structure}

theorem precedes_of_unstacked (n : Nat) (h : c.Precedes visited' qs' t u)
    (ht : ∀ is, c.Route visited' qs' is t → c.Route visited (q :: qs) (unstacked n is) t)
    (hu : ∀ js, c.Route visited (q :: qs) js u → ∃ ks, c.Route visited' qs' ks u ∧ unstacked n ks ≤ js) :
    c.Precedes visited (q :: qs) t u := by
  obtain ⟨is, his, hbefore⟩ := h
  refine ⟨unstacked n is, ht is his, ?_⟩
  intro js hjs
  obtain ⟨ks, hks, hle⟩ := hu js hjs
  exact lt_of_lt_of_le (unstacked_lt n his.ne_nil (hbefore ks hks)) hle

theorem Route.of_passed_over (hpass : q.dotted ∈ visited ∨ c.get? q = none) (h : c.Route visited (q :: qs) js t) :
    ∃ ks, c.Route visited qs ks t ∧ unstacked 0 ks = js := by
  obtain ⟨j, js, rfl⟩ := List.exists_cons_of_ne_nil h.ne_nil
  cases j with
  | zero =>
    -- the first place is that of `q`, which no route takes
    obtain ⟨p, r, hp, hfree, hr⟩ := h.exists_first
    obtain rfl : q = p := by simpa using hp
    rcases hpass with hmem | hnone
    · exact absurd hmem hfree
    · simp [hnone] at hr
  | succ j => exact ⟨j :: js, h.at_place rfl, rfl⟩

theorem Route.cons (h : c.Route visited qs is t) : c.Route visited (q :: qs) (unstacked 0 is) t := by
  obtain ⟨i, is, rfl⟩ := List.exists_cons_of_ne_nil h.ne_nil
  exact h.at_place rfl

theorem Route.of_known (hq : q.dotted ∉ visited) (hs : c.get? q = some s)
    (h : c.Route (q.dotted :: visited) (s.supertypes ++ qs) is t) :
    c.Route visited (q :: qs) (unstacked s.supertypes.length is) t := by
  obtain ⟨i, is, rfl⟩ := List.exists_cons_of_ne_nil h.ne_nil
  by_cases hi : i < s.supertypes.length
  · rw [unstacked_of_lt hi]
    exact .step rfl hq hs (h.at_place (List.getElem?_append_left hi).symm)
  · obtain ⟨k, rfl⟩ := Nat.exists_eq_add_of_le (Nat.le_of_not_lt hi)
    rw [unstacked_add]
    refine (h.at_place ?_).avoiding fun _ _ _ hmem => List.mem_cons_of_mem _ hmem
    rw [List.getElem?_append_right (Nat.le_add_right ..), Nat.add_sub_cancel_left]
    rfl

/-- After a name was followed, there is still a route to everything else that is no later than any route from before. -/
theorem Route.exists_known (hs : c.get? q = some s) (hne : t ≠ s) (h : c.Route visited (q :: qs) js t) :
    ∃ ks, c.Route (q.dotted :: visited) (s.supertypes ++ qs) ks t ∧ unstacked s.supertypes.length ks ≤ js := by
  have hinner : ∀ {ks : List Nat}, c.Route (q.dotted :: visited) s.supertypes ks t →
      c.Route (q.dotted :: visited) (s.supertypes ++ qs) ks t ∧ unstacked s.supertypes.length ks = 0 :: ks := by
    intro ks hks
    obtain ⟨k, ks, rfl⟩ := List.exists_cons_of_ne_nil hks.ne_nil
    have hk := hks.place_lt
    exact ⟨hks.at_place (List.getElem?_append_left hk), unstacked_of_lt hk ks⟩
  obtain ⟨j, js, rfl⟩ := List.exists_cons_of_ne_nil h.ne_nil
  cases j with
  | zero =>
    cases h with
    | last hi hq ht =>
      cases hi
      exact absurd (eq_of_get? rfl hs ht) hne
    | step hi hq hr hrest =>
      cases hi
      rw [eq_of_get? rfl hs hr] at hrest
      obtain ⟨hroute, heq⟩ := hinner hrest
      exact ⟨js, hroute, heq.le⟩
  | succ j =>
    rcases h.avoids_or_passes hs hne with h | ⟨ks, hks⟩
    · refine ⟨(s.supertypes.length + j) :: js, h.at_place ?_, (unstacked_add ..).le⟩
      rw [List.getElem?_append_right (Nat.le_add_right ..), Nat.add_sub_cancel_left]
      rfl
    · -- a later name led back to `q`, and the route that begins with `q` is earlier
      obtain ⟨hroute, heq⟩ := hinner hks
      refine ⟨ks, hroute, le_of_lt ?_⟩
      rw [heq]
      exact List.cons_lt_cons_iff.2 (.inl (Nat.succ_pos j))

end

end Catalogue

namespace Go

/-! ## What is met, and when -/

section
variable {c : Catalogue} {visited : List Text} {qs : List QName} {t : Structure}

theorem walk_reachable (c : Catalogue) (visited : List Text) (qs : List QName) :
    ∃ after, c.Walk visited qs (reachable c visited qs) after := by
  fun_induction reachable c visited qs with
  | case1 => exact ⟨_, .done⟩
  | case2 visited q qs hq ih =>
    obtain ⟨after, h⟩ := ih
    exact ⟨after, .visited hq h⟩
  | case3 visited q qs hq hnone ih =>
    obtain ⟨after, h⟩ := ih
    exact ⟨after, .unknown hq hnone h⟩
  | case4 visited q qs hq s hs ih =>
    obtain ⟨after, h⟩ := ih
    obtain ⟨us, between, vs, hsupers, hrest, heq⟩ := h.of_append
    rw [heq]
    exact ⟨after, .known hq hs hsupers hrest⟩

theorem exists_route_of_mem_reachable (h : t ∈ reachable c visited qs) : ∃ is, c.Route visited qs is t := by
  fun_induction reachable c visited qs with
  | case1 => cases h
  | case2 visited q qs hq ih =>
    obtain ⟨is, his⟩ := ih h
    exact ⟨_, his.cons⟩
  | case3 visited q qs hq hnone ih =>
    obtain ⟨is, his⟩ := ih h
    exact ⟨_, (his.avoiding fun _ _ _ hmem => List.mem_cons_of_mem _ hmem).cons⟩
  | case4 visited q qs hq s hs ih =>
    rcases List.mem_cons.1 h with rfl | h
    · exact ⟨[0], .last rfl hq hs⟩
    · obtain ⟨is, his⟩ := ih h
      exact ⟨_, his.of_known hq hs⟩

theorem reachable_pairwise (c : Catalogue) (visited : List Text) (qs : List QName) :
    (reachable c visited qs).Pairwise (c.Precedes visited qs) := by
  fun_induction reachable c visited qs with
  | case1 => exact .nil
  | case2 visited q qs hq ih =>
    refine ih.imp fun htu => Catalogue.precedes_of_unstacked 0 htu (fun is his => his.cons) ?_
    intro js hjs
    obtain ⟨ks, hks, heq⟩ := hjs.of_passed_over (.inl hq)
    exact ⟨ks, hks, heq.le⟩
  | case3 visited q qs hq hnone ih =>
    -- no route comes to an unknown name, so that it does not matter whether the name is avoided
    refine ih.imp fun htu => Catalogue.precedes_of_unstacked 0 htu ?_ ?_
    · intro is his
      exact (his.avoiding fun _ _ _ hmem => List.mem_cons_of_mem _ hmem).cons
    · intro js hjs
      obtain ⟨ks, hks, heq⟩ := hjs.of_passed_over (.inr hnone)
      refine ⟨ks, hks.avoiding ?_, heq.le⟩
      intro p r hp hmem
      exact (List.mem_cons.1 hmem).resolve_left (Catalogue.dotted_ne_of_get? hnone hp)
  | case4 visited q qs hq s hs ih =>
    have hne : ∀ u ∈ reachable c (q.dotted :: visited) (s.supertypes ++ qs), u ≠ s := by
      rintro u hu rfl
      obtain ⟨is, his⟩ := exists_route_of_mem_reachable hu
      exact his.key_not_mem (by simp [Catalogue.key_of_get? hs])
    refine List.pairwise_cons.2 ⟨?_, ih.imp_of_mem ?_⟩
    · -- the shortest route leads to the structure itself, and the others go on from it or begin later
      intro u hu
      refine ⟨[0], .last rfl hq hs, ?_⟩
      intro js hjs
      obtain ⟨ks, hks, hle⟩ := hjs.exists_known hs (hne u hu)
      exact lt_of_lt_of_le (Catalogue.lt_unstacked _ hks.ne_nil) hle
    · intro t u _ hu htu
      exact Catalogue.precedes_of_unstacked _ htu (fun is his => his.of_known hq hs)
        fun js hjs => hjs.exists_known hs (hne u hu)

theorem mem_reachable_iff :
    t ∈ reachable c visited qs ↔
      ∃ q ∈ qs, q.dotted ∉ visited ∧ ∃ u, c.get? q = some u ∧ ReflTransGen (c.SupertypeOutside visited) u t := by
  constructor
  · intro h
    obtain ⟨is, his⟩ := exists_route_of_mem_reachable h
    exact his.exists_path
  · rintro ⟨q, hq, hv, u, hu, hpath⟩
    induction hpath with
    | refl => exact mem_reachable hq hv hu
    | tail _ hstep ih =>
      obtain ⟨p, hp, hpv, ht⟩ := hstep
      exact reachable_closed ih hp hpv ht

end

/-! ## Method sets -/

/-- The structures that are met in depth from `s`, its base before its interfaces: which ones they are, the walk that
meets them, and their order without regard to the walk. The first step goes to no name in `skip`, and no step to the name
of `s` itself. -/
structure MetInDepth (c : Catalogue) (skip : List Text) (s : Structure) (ts : List Structure) : Prop where
  once : (ts.map Catalogue.key).Nodup
  mem_iff : ∀ t, t ∈ ts ↔ ∃ q ∈ s.supertypes, q.dotted ∉ skip ∧ q.dotted ≠ s.name.dotted ∧
    ∃ u, c.get? q = some u ∧ ReflTransGen (c.SupertypeOutside [s.name.dotted]) u t
  walked : ∃ after, c.Walk [s.name.dotted] (s.supertypes.filter fun q => q.dotted ∉ skip) ts after
  ordered : ts.Pairwise (c.Precedes [s.name.dotted] (s.supertypes.filter fun q => q.dotted ∉ skip))

theorem metInDepth_reachable (c : Catalogue) (skip : List Text) (s : Structure) :
    MetInDepth c skip s (reachable c [s.name.dotted] (s.supertypes.filter fun q => q.dotted ∉ skip)) := by
  have hordered := reachable_pairwise c [s.name.dotted] (s.supertypes.filter fun q => q.dotted ∉ skip)
  refine ⟨?_, ?_, walk_reachable .., hordered⟩
  · refine List.pairwise_map.2 (hordered.imp_of_mem fun {t u} _ hu htu => ?_)
    obtain ⟨js, hjs⟩ := exists_route_of_mem_reachable hu
    exact htu.key_ne hjs
  · intro t
    simp only [mem_reachable_iff, List.mem_filter, List.mem_singleton, decide_eq_true_eq, and_assoc, ne_eq]

theorem MetInDepth.unique {c : Catalogue} {skip : List Text} {s : Structure} {ts us : List Structure}
    (ht : MetInDepth c skip s ts) (hu : MetInDepth c skip s us) : ts = us := by
  have hperm : ts.Perm us :=
    (List.perm_ext_iff_of_nodup (List.Nodup.of_map _ ht.once) (List.Nodup.of_map _ hu.once)).2 fun t =>
      (ht.mem_iff t).trans (hu.mem_iff t).symm
  exact hperm.eq_of_pairwise (fun _ _ _ _ htu hut => absurd hut htu.asymm) ht.ordered hu.ordered

theorem reachable_empty (visited : List Text) (qs : List QName) : reachable .empty visited qs = [] := by
  rw [List.eq_nil_iff_forall_not_mem]
  intro t h
  obtain ⟨is, his⟩ := exists_route_of_mem_reachable h
  obtain ⟨q, hq⟩ := his.exists_get?
  cases hq

/-- The method set of a structure has its own methods, then those of every structure that is met from it in depth.
There is always exactly one list of these, whatever the supertypes of the structures in the catalogue are and whatever
stands under the name of `s` in it. Without a catalogue there are none. -/
theorem methodSet_in_depth (inherited : Option Catalogue) (skip : List Text) (s : Structure) :
    ∃ ts, (MetInDepth (inherited.getD .empty) skip s ts ∧
        ∀ us, MetInDepth (inherited.getD .empty) skip s us → us = ts) ∧
      methodSet inherited skip s = s.methods ++ ts.flatMap Structure.methods := by
  have hmet := metInDepth_reachable (inherited.getD .empty) skip s
  refine ⟨_, ⟨hmet, fun us hus => hus.unique hmet⟩, ?_⟩
  cases inherited with
  | none => simp [methodSet, reachable_empty]
  | some c => rfl

end Go

end Stencil
