import Stencil.Proofs.Blocks
import Stencil.Proofs.Registries
import Stencil.Workspace

/-!
# What a workspace remembers

A journal keeps all that the steps of a builder did, in order: what was made, what was added where, what was stored. The
workspace keeps only the present state, and whatever it shows can be told from the journal: names stand where they first
came, and under each the last one counts. Handles and the container share the structures.
-/

namespace Stencil

namespace Building

theorem header_foldl_addMethod (ms : List Method) (s : Building) (r : Registry Text Method) :
    { ms.foldl addMethod s with methods := r } = { s with methods := r } := by
  induction ms generalizing s with
  | nil => rfl
  | cons m ms ih => exact ih (s.addMethod m)

theorem holds_foldl_addMethod {s : Building} (hs : s.methods = {}) (ms : List Method) :
    (ms.foldl addMethod s).methods.Holds (ms.map fun m => (m.name, m)) := by
  induction ms using List.reverseRecOn with
  | nil =>
    rw [List.foldl_nil, hs]
    exact .start
  | append_singleton ms m ih =>
    rw [List.foldl_append, List.map_append]
    exact ih.put m.name m

end Building

namespace Workspace

/-! ## Acts -/

/-- What a step comes to: getters and setters are methods that are added, and what lacks its argument is refused. -/
inductive Act where
  | make (handle : Text) (kind : Kind) (name base : QName) (interfaces : List QName)
  | add (handle : Text) (m : Method)
  | refuse (handle : Text) (error : QName → BuildError)
  | store (handle : Option Text)

def Step.act : Step → Act
  | .create handle kind name base interfaces => .make handle kind name base interfaces
  | .add handle (some m) => .add handle m
  | .add handle none => .refuse handle .noMethod
  | .addGetter handle (some p) => .add handle (Structure.getterFor p)
  | .addGetter handle none => .refuse handle .noGetterArgument
  | .addSetter handle (some p) => .add handle (Structure.setterFor p)
  | .addSetter handle none => .refuse handle .noSetterArgument
  | .store handle => .store handle

def perform (w : Workspace) : Act → Workspace × Option BuildError
  | .make handle kind name base interfaces => (w.create handle (.make kind name base interfaces), none)
  | .add handle m => w.modify handle fun s => .ok (s.addMethod m)
  | .refuse handle error => w.modify handle fun s => .error (error s.name)
  | .store handle => (w.store handle, none)

theorem step_eq_perform (w : Workspace) (step : Step) : w.step step = w.perform step.act := by
  cases step with
  | create => rfl
  | add handle m => cases m <;> rfl
  | addGetter handle p => cases p <;> rfl
  | addSetter handle p => cases p <;> rfl
  | store => rfl

theorem modify_of_unknown {w : Workspace} {handle : Text} (h : w.handles handle = none)
    (f : Building → Except BuildError Building) : w.modify handle f = (w, none) := by
  simp [modify, h]

theorem modify_of_known {w : Workspace} {handle : Text} {i : Nat} {s : Building} (hi : w.handles handle = some i)
    (hs : w.places[i]? = some s) (f : Building → Building) :
    w.modify handle (fun s => .ok (f s)) = ({ w with places := w.places.set i (f s) }, none) := by
  simp [modify, hi, hs]

theorem modify_of_accepted (w : Workspace) (handle : Text) (f : Building → Building) :
    (w.modify handle fun s => .ok (f s)).2 = none := by
  unfold modify
  cases w.handles handle with
  | none => rfl
  | some i => cases hs : w.places[i]? <;> simp [hs]

theorem modify_of_refused (w : Workspace) (handle : Text) (error : QName → BuildError) :
    w.modify handle (fun s => .error (error s.name)) = (w, (w.get? handle).map fun s => error s.name) := by
  unfold modify get?
  cases w.handles handle with
  | none => rfl
  | some i => cases hs : w.places[i]? <;> simp [hs]

theorem refusal_step (w : Workspace) (step : Step) :
    (w.step step).2 =
      match step.act with
      | .refuse handle error => (w.get? handle).map fun s => error s.name
      | _ => none := by
  rw [step_eq_perform]
  cases step.act with
  | make => rfl
  | add handle m => exact modify_of_accepted w handle _
  | refuse handle error => exact congrArg Prod.snd (modify_of_refused w handle error)
  | store => rfl

theorem step_of_refused {w : Workspace} {step : Step} (h : (w.step step).2.isSome = true) : (w.step step).1 = w := by
  rw [refusal_step] at h
  rw [step_eq_perform]
  cases hact : step.act with
  | refuse handle error => exact congrArg Prod.fst (modify_of_refused w handle error)
  | make => rw [hact] at h; cases h
  | add => rw [hact] at h; cases h
  | store => rw [hact] at h; cases h

/-! ## Journals -/

structure Journal where
  made : List (Text × Building) := []
  added : List (Nat × Method) := []
  stored : List Nat := []

namespace Journal

def place? (j : Journal) (handle : Text) : Option Nat :=
  (j.made.zipIdx.reverse.find? fun e => e.1.1 = handle).map Prod.snd

def make (j : Journal) (handle : Text) (s : Building) : Journal := { j with made := j.made ++ [(handle, s)] }

def addTo (j : Journal) (i : Nat) (m : Method) : Journal := { j with added := j.added ++ [(i, m)] }

def store (j : Journal) (i : Nat) : Journal := { j with stored := j.stored ++ [i] }

/-- The journal with one act more. An act on an unknown handle is not written, nor is one that is refused. -/
def write (j : Journal) : Act → Journal
  | .make handle kind name base interfaces => j.make handle (.make kind name base interfaces)
  | .add handle m => (j.place? handle).elim j fun i => j.addTo i m
  | .refuse _ _ => j
  | .store handle => (handle.bind j.place?).elim j j.store

def ofSteps (steps : List Step) : Journal := steps.foldl (fun j step => j.write step.act) {}

def made? (j : Journal) (i : Nat) : Option Building := (j.made[i]?).map Prod.snd

def addedTo (j : Journal) (i : Nat) : List Method := (j.added.filter fun e => e.1 = i).map Prod.snd

def building? (j : Journal) (i : Nat) : Option Building :=
  (j.made? i).map fun s => (j.addedTo i).foldl Building.addMethod s

def entries (j : Journal) : List (Text × Nat) :=
  j.stored.filterMap fun i => (j.made? i).map fun s => (s.name.dotted, i)

/-! ## One step more -/

theorem place?_lt {j : Journal} {handle : Text} {i : Nat} (h : j.place? handle = some i) : i < j.made.length := by
  obtain ⟨e, he, rfl⟩ := Option.map_eq_some_iff.1 h
  have hmem := List.mem_reverse.1 (List.mem_of_find?_eq_some he)
  exact (List.mem_zipIdx' hmem).1

theorem place?_make (j : Journal) (handle : Text) (s : Building) (other : Text) :
    (j.make handle s).place? other = if other = handle then some j.made.length else j.place? other := by
  unfold place? make
  simp only [List.zipIdx_append, List.zipIdx_singleton, Nat.zero_add, List.reverse_append, List.reverse_singleton,
    List.singleton_append, List.find?_cons]
  by_cases h : other = handle
  · simp [h]
  · simp [h, Ne.symm h]

theorem made?_make_of_lt {j : Journal} {i : Nat} (h : i < j.made.length) (handle : Text) (s : Building) :
    (j.make handle s).made? i = j.made? i := by
  simp only [made?, make, List.getElem?_append_left h]

theorem made?_eq_none_iff {j : Journal} {i : Nat} : j.made? i = none ↔ j.made.length ≤ i := by
  simp [made?]

theorem addedTo_addTo (j : Journal) (i : Nat) (m : Method) (i' : Nat) :
    (j.addTo i m).addedTo i' = if i = i' then j.addedTo i' ++ [m] else j.addedTo i' := by
  by_cases h : i = i' <;> simp [addedTo, addTo, h]

theorem addedTo_eq_nil {j : Journal} {i : Nat} (h : ∀ e ∈ j.added, e.1 < i) : j.addedTo i = [] := by
  have hnone : j.added.filter (fun e => e.1 = i) = [] := by
    rw [List.filter_eq_nil_iff]
    intro e he
    simpa using Nat.ne_of_lt (h e he)
  rw [addedTo, hnone, List.map_nil]

theorem building?_eq_none_iff {j : Journal} {i : Nat} : j.building? i = none ↔ j.made.length ≤ i := by
  rw [building?, Option.map_eq_none_iff, made?_eq_none_iff]

theorem map_header_building? (j : Journal) (i : Nat) (r : Registry Text Method) :
    (j.building? i).map (fun s => { s with methods := r }) = (j.made? i).map fun s => { s with methods := r } := by
  rw [building?, Option.map_map]
  exact congrArg (Option.map · (j.made? i)) (funext fun s => Building.header_foldl_addMethod _ s r)

theorem map_name_building? (j : Journal) (i : Nat) :
    (j.building? i).map (·.name.dotted) = (j.made? i).map (·.name.dotted) := by
  have h := congrArg (Option.map fun s : Building => s.name.dotted) (j.map_header_building? i {})
  rwa [Option.map_map, Option.map_map] at h

end Journal

/-! ## The workspace and its journal -/

/-- The journal tells what the workspace holds. -/
structure Journal.Tells (j : Journal) (w : Workspace) : Prop where
  bare : ∀ e ∈ j.made, e.2.methods = {}
  added_lt : ∀ e ∈ j.added, e.1 < j.made.length
  stored_lt : ∀ i ∈ j.stored, i < j.made.length
  handles : ∀ handle, w.handles handle = j.place? handle
  places : ∀ i, w.places[i]? = j.building? i
  container : w.container.Holds j.entries

namespace Journal.Tells

theorem start : Tells {} {} where
  bare := by simp
  added_lt := by simp
  stored_lt := by simp
  handles _ := rfl
  places _ := rfl
  container := .start

variable {j : Journal} {w : Workspace} (h : j.Tells w)
include h

theorem length_places : w.places.length = j.made.length := by
  have hnone : ∀ i, w.places.length ≤ i ↔ j.made.length ≤ i := by
    intro i
    rw [← List.getElem?_eq_none_iff, h.places, building?_eq_none_iff]
  exact Nat.le_antisymm ((hnone _).2 (Nat.le_refl _)) ((hnone _).1 (Nat.le_refl _))

theorem exists_place {handle : Text} {i : Nat} (hi : j.place? handle = some i) : ∃ s, w.places[i]? = some s := by
  have hlt := place?_lt hi
  rw [← h.length_places] at hlt
  exact ⟨_, List.getElem?_eq_getElem hlt⟩

theorem create (handle : Text) {s : Building} (hs : s.methods = {}) : (j.make handle s).Tells (w.create handle s) where
  bare := by
    intro e he
    rcases List.mem_append.1 he with he | he
    · exact h.bare e he
    · rw [List.mem_singleton.1 he]
      exact hs
  added_lt e he := by
    have hlt := h.added_lt e he
    simp only [make, List.length_append, List.length_singleton]
    omega
  stored_lt i hi := by
    have hlt := h.stored_lt i hi
    simp only [make, List.length_append, List.length_singleton]
    omega
  handles other := by
    rw [place?_make, ← h.length_places, ← h.handles]
    rfl
  places i := by
    have hplaces := h.places i
    unfold Workspace.create building?
    simp only
    rcases Nat.lt_trichotomy i j.made.length with hlt | rfl | hgt
    · rw [List.getElem?_append_left (h.length_places ▸ hlt), made?_make_of_lt hlt, hplaces]
      rfl
    · -- nothing was added to a place that is new
      have hnil : (j.make handle s).addedTo j.made.length = [] := addedTo_eq_nil h.added_lt
      rw [hnil, ← h.length_places, List.getElem?_concat_length, h.length_places]
      simp [made?, make]
    · have hw : (w.places ++ [s]).length ≤ i := by
        rw [List.length_append, h.length_places]
        exact hgt
      have hj : (j.make handle s).made.length ≤ i := by
        rw [make, List.length_append]
        exact hgt
      rw [List.getElem?_eq_none hw, made?_eq_none_iff.2 hj]
      rfl
  container := by
    have hentries : (j.make handle s).entries = j.entries := by
      apply List.filterMap_congr
      intro i hi
      rw [made?_make_of_lt (h.stored_lt i hi)]
    rw [hentries]
    exact h.container

theorem add {handle : Text} {i : Nat} (hi : j.place? handle = some i) (m : Method) :
    (j.addTo i m).Tells (w.modify handle fun s => .ok (s.addMethod m)).1 := by
  obtain ⟨s, hs⟩ := h.exists_place hi
  have hmodify : (w.modify handle fun s => .ok (s.addMethod m)).1 =
      { w with places := w.places.set i (s.addMethod m) } := by
    rw [modify_of_known (by rw [h.handles, hi]) hs]
  have hlt : i < w.places.length := h.length_places ▸ place?_lt hi
  rw [hmodify]
  refine ⟨h.bare, ?_, h.stored_lt, h.handles, ?_, h.container⟩
  · intro e he
    rcases List.mem_append.1 he with he | he
    · exact h.added_lt e he
    · rw [List.mem_singleton.1 he]
      exact place?_lt hi
  · intro i'
    have hplaces := h.places i'
    unfold building? at hplaces ⊢
    rw [addedTo_addTo, List.getElem?_set]
    by_cases heq : i = i'
    · subst heq
      rw [hs] at hplaces
      obtain ⟨made, hmade, hbuilt⟩ := Option.map_eq_some_iff.1 hplaces.symm
      have hsame : (j.addTo i m).made? i = some made := hmade
      rw [if_pos rfl, if_pos hlt, if_pos rfl, hsame, Option.map_some, List.foldl_append, hbuilt]
      rfl
    · rw [if_neg heq, if_neg heq]
      exact hplaces

theorem map_name_places (i : Nat) : (w.places[i]?).map (·.name.dotted) = (j.made? i).map (·.name.dotted) := by
  rw [h.places, map_name_building?]

theorem store {handle : Text} {i : Nat} (hi : j.place? handle = some i) : (j.store i).Tells (w.store (some handle)) := by
  obtain ⟨s, hs⟩ := h.exists_place hi
  have hstore : w.store (some handle) = { w with container := w.container.put s.name.dotted i } := by
    simp [Workspace.store, h.handles, hi, hs]
  have hentries : (j.store i).entries = j.entries ++ [(s.name.dotted, i)] := by
    have hname := h.map_name_places i
    rw [hs, Option.map_some, eq_comm, Option.map_eq_some_iff] at hname
    obtain ⟨made, hmade, hname⟩ := hname
    unfold entries Journal.store
    rw [List.filterMap_append]
    congr 1
    have hsame : made? { j with stored := j.stored ++ [i] } i = some made := hmade
    simp [hsame, hname]
  rw [hstore]
  refine ⟨h.bare, h.added_lt, ?_, h.handles, h.places, ?_⟩
  · intro i' hi'
    rcases List.mem_append.1 hi' with hi' | hi'
    · exact h.stored_lt i' hi'
    · rw [List.mem_singleton.1 hi']
      exact place?_lt hi
  · rw [hentries]
    exact h.container.put s.name.dotted i

end Journal.Tells

theorem Journal.Tells.step {j : Journal} {w : Workspace} (h : j.Tells w) (step : Step) :
    (j.write step.act).Tells (w.step step).1 := by
  rw [step_eq_perform]
  cases step.act with
  | make handle kind name base interfaces => exact h.create handle rfl
  | add handle m =>
    rw [write, perform]
    cases hi : j.place? handle with
    | none =>
      rw [modify_of_unknown (by rw [h.handles, hi])]
      exact h
    | some i => exact h.add hi m
  | refuse handle error =>
    rw [write, perform, modify_of_refused]
    exact h
  | store handle =>
    rw [write, perform]
    cases hi : handle.bind j.place? with
    | none =>
      have hstore : w.store handle = w := by simp [Workspace.store, funext h.handles, hi]
      rw [hstore]
      exact h
    | some i =>
      obtain ⟨handle, rfl, hi⟩ := Option.bind_eq_some_iff.1 hi
      exact h.store hi

theorem tells_run (steps : List Step) : (Journal.ofSteps steps).Tells (run steps) := by
  have hfrom : ∀ (j : Journal) (w : Workspace), j.Tells w →
      (steps.foldl (fun j step => j.write step.act) j).Tells (steps.foldl (fun w s => (w.step s).1) w) := by
    induction steps with
    | nil => exact fun _ _ h => h
    | cons step steps ih => exact fun j w h => ih _ _ (h.step step)
  exact hfrom {} {} .start

/-! ## What the workspace shows -/

/-- What the workspace shows can be told from the journal. -/
structure Recalls (w : Workspace) (j : Journal) : Prop where
  handles : ∀ handle, w.handles handle = j.place? handle
  made : ∀ i, (w.places[i]?).map (fun s => { s with methods := {} }) = j.made? i
  methods : ∀ (i : Nat) (s : Building), w.places[i]? = some s →
    s.methods.Holds ((j.addedTo i).map fun m => (m.name, m))
  own_method : ∀ (i : Nat) (s : Building) (k : Text) (m : Method), w.places[i]? = some s →
    s.methods.map k = some m → m.name = k
  container : w.container.Holds (j.stored.filterMap fun i => (w.places[i]?).map fun s => (s.name.dotted, i))
  own_structure : ∀ k i, w.container.map k = some i → ∃ s, w.places[i]? = some s ∧ s.name.dotted = k
  /-- Read as plain lists, structures and container are what adding and putting make of plain lists. -/
  structures : ∀ (i : Nat) (s : Building), w.places[i]? = some s →
    s.toStructure = (j.addedTo i).foldl Structure.addMethod { s.toStructure with methods := [] }
  catalogue : w.catalogue = .ofList (j.stored.filterMap fun i => (w.places[i]?).map Building.toStructure)
  found : ∀ q, w.catalogue.get? q = (w.stored? q).map Building.toStructure

namespace Journal.Tells
variable {j : Journal} {w : Workspace} (h : j.Tells w)
include h

theorem made_places (i : Nat) : (w.places[i]?).map (fun s => { s with methods := {} }) = j.made? i := by
  rw [h.places, map_header_building?]
  cases hi : j.made? i with
  | none => rfl
  | some made =>
    obtain ⟨e, he, rfl⟩ := Option.map_eq_some_iff.1 hi
    have hbare := h.bare e (List.mem_of_getElem? he)
    rw [Option.map_some, ← hbare]

theorem holds_methods {i : Nat} {s : Building} (hs : w.places[i]? = some s) :
    s.methods.Holds ((j.addedTo i).map fun m => (m.name, m)) := by
  rw [h.places] at hs
  obtain ⟨made, hmade, rfl⟩ := Option.map_eq_some_iff.1 hs
  obtain ⟨e, he, rfl⟩ := Option.map_eq_some_iff.1 hmade
  exact Building.holds_foldl_addMethod (h.bare e (List.mem_of_getElem? he)) _

theorem name_of_map {i : Nat} {s : Building} (hs : w.places[i]? = some s) {k : Text} {m : Method}
    (hm : s.methods.map k = some m) : m.name = k := by
  obtain ⟨m', _, heq⟩ := List.mem_map.1 ((h.holds_methods hs).mem_of_map hm)
  obtain ⟨rfl, rfl⟩ := Prod.mk.injEq .. ▸ heq
  rfl

theorem entries_eq : j.entries = j.stored.filterMap fun i => (w.places[i]?).map fun s => (s.name.dotted, i) := by
  apply List.filterMap_congr
  intro i _
  have hname := congrArg (Option.map fun k => (k, i)) (h.map_name_places i)
  rw [Option.map_map, Option.map_map] at hname
  exact hname.symm

theorem exists_of_mem_entries {e : Text × Nat} (he : e ∈ j.entries) :
    ∃ s, w.places[e.2]? = some s ∧ s.name.dotted = e.1 := by
  rw [h.entries_eq] at he
  obtain ⟨i, _, hi⟩ := List.mem_filterMap.1 he
  obtain ⟨s, hs, rfl⟩ := Option.map_eq_some_iff.1 hi
  exact ⟨s, hs, rfl⟩

theorem filterMap_entries {β : Type} (f : Building → β) :
    j.entries.filterMap (fun e => (w.places[e.2]?).map f) = j.stored.filterMap fun i => (w.places[i]?).map f := by
  rw [h.entries_eq, List.filterMap_filterMap]
  apply List.filterMap_congr
  intro i _
  cases hi : w.places[i]? <;> simp [hi]

theorem toStructure_eq {i : Nat} {s : Building} (hs : w.places[i]? = some s) :
    s.toStructure = (j.addedTo i).foldl Structure.addMethod { s.toStructure with methods := [] } := by
  have hall := (h.holds_methods hs).filterMap_all Method.name (f := some) (by simp)
  have hputs : ((j.addedTo i).map fun m => (m.name, m)).filterMap (fun e => some e.2) = j.addedTo i := by
    simp [List.filterMap_map]
  rw [List.filterMap_some, hputs] at hall
  rw [Outline.foldl_addMethod, ← hall]
  rfl

theorem catalogue_eq :
    w.catalogue = .ofList (j.stored.filterMap fun i => (w.places[i]?).map Building.toStructure) := by
  have hkey : ∀ e ∈ j.entries, ∃ s, (w.places[e.2]?).map Building.toStructure = some s ∧ Catalogue.key s = e.1 := by
    intro e he
    obtain ⟨s, hs, hname⟩ := h.exists_of_mem_entries he
    exact ⟨s.toStructure, by rw [hs]; rfl, hname⟩
  have hentries := h.container.filterMap_all Catalogue.key (f := fun i => (w.places[i]?).map Building.toStructure) hkey
  rw [h.filterMap_entries] at hentries
  exact congrArg Catalogue.mk (hentries.trans (Catalogue.entries_ofList_eq_foldl _).symm)

theorem pairwise_catalogue : w.catalogue.entries.Pairwise fun s t => Catalogue.key s ≠ Catalogue.key t := by
  rw [h.catalogue_eq, Catalogue.entries_ofList_eq_foldl]
  exact Keyed.pairwise_foldl_put Catalogue.key _

theorem exists_of_map {k : Text} {i : Nat} (hk : w.container.map k = some i) :
    ∃ s, w.places[i]? = some s ∧ s.name.dotted = k := h.exists_of_mem_entries (h.container.mem_of_map hk)

theorem get?_catalogue (q : QName) : w.catalogue.get? q = (w.stored? q).map Building.toStructure := by
  apply Option.ext
  intro t
  rw [Catalogue.get?, Keyed.get?_eq_some_iff Catalogue.key h.pairwise_catalogue]
  constructor
  · rintro ⟨ht, hkey⟩
    obtain ⟨i, hi, ht⟩ := List.mem_filterMap.1 ht
    obtain ⟨s, hs, rfl⟩ := Option.map_eq_some_iff.1 ht
    obtain ⟨k, _, hk⟩ := List.mem_filterMap.1 hi
    -- the key that leads to the place is the name of its structure
    obtain ⟨s', hs', rfl⟩ := h.exists_of_map hk
    obtain rfl : s' = s := Option.some.inj (hs'.symm.trans hs)
    have hname : s'.name.dotted = q.dotted := hkey
    rw [stored?, ← hname, hk, Option.bind_some, hs]
    rfl
  · intro ht
    obtain ⟨s, hs, rfl⟩ := Option.map_eq_some_iff.1 ht
    obtain ⟨i, hi, hs⟩ := Option.bind_eq_some_iff.1 hs
    obtain ⟨s', hs', hname⟩ := h.exists_of_map hi
    obtain rfl : s' = s := Option.some.inj (hs'.symm.trans hs)
    have hmem : q.dotted ∈ w.container.order := (h.container.mem_iff _).2 (by rw [hi]; rfl)
    have hall : i ∈ w.container.all := List.mem_filterMap.2 ⟨_, hmem, hi⟩
    exact ⟨List.mem_filterMap.2 ⟨i, hall, by rw [hs]; rfl⟩, hname⟩

theorem recalls : w.Recalls j where
  handles := h.handles
  made := h.made_places
  methods _ _ := h.holds_methods
  own_method _ _ _ _ hs := h.name_of_map hs
  container := h.entries_eq ▸ h.container
  own_structure _ _ := h.exists_of_map
  structures _ _ := h.toStructure_eq
  catalogue := h.catalogue_eq
  found := h.get?_catalogue

end Journal.Tells

theorem seen_step_of_add {w : Workspace} {step : Step} {handle : Text} {m : Method} (hact : step.act = .add handle m)
    {i : Nat} {s : Building} (hi : w.handles handle = some i) (hs : w.places[i]? = some s) :
    (∀ other, w.handles other = some i → (w.step step).1.get? other = some (s.addMethod m)) ∧
      ∀ q, w.container.map q.dotted = some i → (w.step step).1.stored? q = some (s.addMethod m) := by
  have hafter : (w.step step).1 = { w with places := w.places.set i (s.addMethod m) } := by
    rw [step_eq_perform, hact, perform, modify_of_known hi hs]
  have hplace : (w.places.set i (s.addMethod m))[i]? = some (s.addMethod m) :=
    List.getElem?_set_self (List.getElem?_eq_some_iff.1 hs).1
  rw [hafter]
  constructor
  · intro other hother
    rw [get?, hother]
    exact hplace
  · intro q hq
    rw [stored?, hq]
    exact hplace

/-- After any steps the workspace shows what they did, in the order in which names first came and with the last one under
each name. One step more is seen wherever the structure is. It is refused if its argument is missing, and leaves
everything as it is if it is refused or stores nothing. -/
theorem run_recalls_steps (steps : List Step) :
    (run steps).Recalls (Journal.ofSteps steps) ∧
    (∀ (step : Step) (handle : Text) (m : Method) (i : Nat) (s : Building), step.act = .add handle m →
      (run steps).handles handle = some i → (run steps).places[i]? = some s →
      (∀ other, (run steps).handles other = some i → ((run steps).step step).1.get? other = some (s.addMethod m)) ∧
        ∀ q, (run steps).container.map q.dotted = some i →
          ((run steps).step step).1.stored? q = some (s.addMethod m)) ∧
    (∀ step, ((run steps).step step).2 =
      match step.act with
      | .refuse handle error => ((run steps).get? handle).map fun s => error s.name
      | _ => none) ∧
    (∀ step, ((run steps).step step).2.isSome = true ∨ step = .store none → ((run steps).step step).1 = run steps) := by
  refine ⟨(tells_run steps).recalls, ?_, refusal_step _, ?_⟩
  · intro step handle m i s hact hi hs
    exact seen_step_of_add hact hi hs
  · rintro step (hrefused | rfl)
    · exact step_of_refused hrefused
    · rfl

/-- A method that comes after its structure was stored. -/
example :
    (run [.create "a" .klass (.ofText "app.Job") .unset [], .store (some (Text.ofString "a")),
        .add "a" (some ⟨"run", .void, []⟩)]).catalogue.entries.map (fun s => s.methods.map Method.name) =
      [[Text.ofString "run"]] := by
  decide

end Workspace

end Stencil
