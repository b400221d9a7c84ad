import Mathlib.Logic.Relation
import Mathlib.Order.WellFounded
import Stencil.Target.Go

/-!
# Names of parameters and receivers

The receiver and the parameters of a Go method have to differ from each other and from the keywords. A name that is
taken gets underscores until it is free. What comes out may be the name of a later parameter, which then has to give way
in turn, so that a name depends on all names before it.
-/

namespace Stencil.Go

open Relation

def underscored (t : Text) (n : Nat) : Text := t ++ List.replicate n (.char '_')

/-- `name` is `t` with the fewest underscores at its end that make it differ from all names taken. -/
def IsLeastFree (taken : List Text) (t name : Text) : Prop :=
  ∃ n, name = underscored t n ∧ name ∉ taken ∧ ∀ k < n, underscored t k ∈ taken

def Renamed (taken : List Text) (t t' : Text) : Prop := t ∈ taken ∧ t' = underscored t 1

theorem underscored_zero (t : Text) : underscored t 0 = t := List.append_nil t

theorem underscored_succ (t : Text) (n : Nat) : underscored (underscored t 1) n = underscored t (n + 1) := by
  unfold underscored
  rw [List.append_assoc, List.replicate_append_replicate, Nat.add_comm]

/-! ## Renaming -/

section
variable {taken : List Text} {t : Text}

theorem fresh_of_mem (h : t ∈ taken) : fresh taken t = fresh taken (underscored t 1) := by
  rw [fresh, if_pos h]
  rfl

theorem fresh_of_not_mem (h : t ∉ taken) : fresh taken t = t := by
  rw [fresh, if_neg h]

end

section
variable (taken : List Text)

theorem wellFounded_renamed : WellFounded fun t' t => Renamed taken t t' := by
  let longer (t : Text) := (taken.filter fun u => t.length ≤ u.length).length
  refine Subrelation.wf ?_ (measure longer).wf
  intro t' t h
  obtain ⟨ht, rfl⟩ := h
  exact longer_lt ht

theorem renamed_fresh (t : Text) : ReflTransGen (Renamed taken) t (fresh taken t) := by
  induction t using (wellFounded_renamed taken).induction with
  | _ t ih =>
    by_cases ht : t ∈ taken
    · have hstep : Renamed taken t (underscored t 1) := ⟨ht, rfl⟩
      rw [fresh_of_mem ht]
      exact .head hstep (ih _ hstep)
    · rw [fresh_of_not_mem ht]

theorem isLeastFree_fresh (t : Text) : IsLeastFree taken t (fresh taken t) := by
  induction t using (wellFounded_renamed taken).induction with
  | _ t ih =>
    by_cases ht : t ∈ taken
    · obtain ⟨n, hname, hfree, hless⟩ := ih (underscored t 1) ⟨ht, rfl⟩
      rw [fresh_of_mem ht]
      refine ⟨n + 1, by rw [hname, underscored_succ], hfree, ?_⟩
      intro k hk
      cases k with
      | zero => rwa [underscored_zero]
      | succ k =>
        rw [← underscored_succ]
        exact hless k (Nat.lt_of_succ_lt_succ hk)
    · rw [fresh_of_not_mem ht]
      refine ⟨0, (underscored_zero t).symm, ht, ?_⟩
      intro k hk
      exact absurd hk (Nat.not_lt_zero k)

theorem fresh_not_mem (t : Text) : fresh taken t ∉ taken := by
  obtain ⟨_, _, hfree, _⟩ := isLeastFree_fresh taken t
  exact hfree

end

/-! ## Lists of names -/

theorem length_freshNames (taken ts : List Text) : (freshNames taken ts).length = ts.length := by
  induction ts generalizing taken with
  | nil => rfl
  | cons t ts ih => simp [freshNames, ih]

theorem isLeastFree_freshNames (taken : List Text) {ts : List Text} {i : Nat} {t : Text} (h : ts[i]? = some t) :
    ∃ name, (freshNames taken ts)[i]? = some name ∧
      IsLeastFree (taken ++ (freshNames taken ts).take i) (identifier t) name := by
  induction ts generalizing taken i with
  | nil => simp at h
  | cons u ts ih =>
    rw [freshNames]
    cases i with
    | zero =>
      obtain rfl : u = t := by simpa using h
      refine ⟨_, rfl, ?_⟩
      simpa using isLeastFree_fresh taken (identifier u)
    | succ i =>
      -- the first name is taken for all others
      obtain ⟨name, hname, hleast⟩ := ih (taken ++ [fresh taken (identifier u)]) (by simpa using h)
      refine ⟨name, by simpa using hname, ?_⟩
      simpa using hleast

theorem freshNames_apart (taken ts : List Text) :
    (∀ name ∈ freshNames taken ts, name ∉ taken) ∧ (freshNames taken ts).Nodup := by
  induction ts generalizing taken with
  | nil => simp [freshNames]
  | cons t ts ih =>
    obtain ⟨hfree, hnodup⟩ := ih (taken ++ [fresh taken (identifier t)])
    rw [freshNames]
    refine ⟨?_, List.nodup_cons.2 ⟨?_, hnodup⟩⟩
    · intro name hname
      rcases List.mem_cons.1 hname with rfl | hname
      · exact fresh_not_mem taken _
      · exact fun hmem => hfree name hname (List.mem_append_left _ hmem)
    · exact fun hmem => hfree _ hmem (by simp)

/-! ## Keywords -/

theorem isKeyword_underscored_succ (t : Text) (n : Nat) : isKeyword (underscored t (n + 1)) = false := by
  have hlast : ∀ k ∈ keywords, k.getLast? ≠ some (.char '_') := by decide
  have hend : (underscored t (n + 1)).getLast? = some (.char '_') := by
    unfold underscored
    rw [List.replicate_succ', ← List.append_assoc, List.getLast?_concat]
  simpa [isKeyword] using fun hmem => hlast _ hmem hend

theorem IsLeastFree.isKeyword {taken : List Text} {t name : Text} (h : IsLeastFree taken t name)
    (ht : Go.isKeyword t = false) : Go.isKeyword name = false := by
  obtain ⟨n, rfl, _, _⟩ := h
  cases n with
  | zero => rwa [underscored_zero]
  | succ n => exact isKeyword_underscored_succ t n

theorem isKeyword_identifier (t : Text) : isKeyword (identifier t) = false := by
  unfold identifier
  split
  · exact isKeyword_underscored_succ t 0
  · rename_i h
    simpa using h

theorem isKeyword_of_mem_freshNames {taken ts : List Text} {name : Text} (h : name ∈ freshNames taken ts) :
    isKeyword name = false := by
  induction ts generalizing taken with
  | nil => cases h
  | cons t ts ih =>
    rcases List.mem_cons.1 h with rfl | h
    · exact (isLeastFree_fresh taken _).isKeyword (isKeyword_identifier t)
    · exact ih h

theorem isKeyword_receiverStem (typeName : Text) : isKeyword (receiverStem typeName) = false := by
  have hlong : ∀ k ∈ keywords, k.length ≠ 1 := by decide
  have hrecv : isKeyword "recv" = false := by decide
  unfold receiverStem
  split
  · split
    · simpa [isKeyword] using fun hmem => hlong _ hmem rfl
    · exact hrecv
  · exact hrecv

/-! ## Signatures -/

theorem length_paramNames (m : Method) : (paramNames m).length = m.params.length := by
  rw [paramNames, length_freshNames, List.length_map]

theorem names_profile (o : Options) (scope : Scope) (m : Method) :
    (Profile.of o scope m).params.map ParamStub.name = paramNames m := by
  simp only [Profile.of, List.map_zipWith, ParamStub.of]
  rw [← List.map_uncurry_zip_eq_zipWith]
  exact List.map_fst_zip (length_paramNames m).le

/-- Every parameter is called what the outline calls it, with an underscore if that is a keyword, and with the fewest
further underscores that set it apart from the parameters before it. The receiver is set apart from all parameters in
the same way. None of these names is a keyword, and renaming comes to an end, at the name that is chosen. In every file
the names in front of the body of a method are therefore different. -/
theorem names_set_apart (m : Method) :
    (paramNames m).length = m.params.length ∧
      (∀ i p, m.params[i]? = some p →
        ∃ name, (paramNames m)[i]? = some name ∧
          IsLeastFree ((paramNames m).take i) (identifier p.name) name) ∧
      (paramNames m).Nodup ∧
      (∀ name ∈ paramNames m, isKeyword name = false) ∧
      (∀ typeName params, IsLeastFree params (receiverStem typeName) (receiverName typeName params) ∧
        receiverName typeName params ∉ params ∧ isKeyword (receiverName typeName params) = false) ∧
      (∀ taken, (WellFounded fun t' t => Renamed taken t t') ∧
        ∀ t, ReflTransGen (Renamed taken) t (fresh taken t) ∧ ∀ t', ¬ Renamed taken (fresh taken t) t') ∧
      (∀ o scope, (Profile.of o scope m).params.map ParamStub.name = paramNames m) ∧
      ∀ o scope s, ∀ stub ∈ (File.of o scope s).methods,
        (stub.receiver :: stub.profile.params.map ParamStub.name).Nodup := by
  have hnodup : ∀ m, (paramNames m).Nodup := fun m => (freshNames_apart [] _).2
  refine ⟨length_paramNames m, ?_, hnodup m, ?_, ?_, ?_, fun o scope => names_profile o scope m, ?_⟩
  · intro i p hp
    have hname : (m.params.map Param.name)[i]? = some p.name := by simp [hp]
    exact isLeastFree_freshNames [] hname
  · exact fun name hname => isKeyword_of_mem_freshNames hname
  · intro typeName params
    have hfree := isLeastFree_fresh params (receiverStem typeName)
    exact ⟨hfree, fresh_not_mem params _, hfree.isKeyword (isKeyword_receiverStem typeName)⟩
  · intro taken
    refine ⟨wellFounded_renamed taken, fun t => ⟨renamed_fresh taken t, ?_⟩⟩
    exact fun _ hagain => fresh_not_mem taken t hagain.1
  · intro o scope s stub hstub
    obtain ⟨m', _, rfl⟩ := List.mem_map.1 hstub
    rw [names_profile]
    exact List.nodup_cons.2 ⟨fresh_not_mem _ _, hnodup m'⟩

example :
    let named (name : String) : Param := ⟨.named (.ofText "T"), name, false⟩
    let m : Method := ⟨"run", .void, [named "type", named "type_", named "x", named "type"]⟩
    paramNames m = ["type_", "type__", "x", "type___"].map Text.ofString ∧
      receiverName "X" (paramNames m) = Text.ofString "x_" := by
  decide

end Stencil.Go
