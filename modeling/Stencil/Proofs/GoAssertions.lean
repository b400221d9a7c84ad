import Mathlib.Logic.Relation
import Stencil.Proofs.GoMethodSets

/-!
# Assertions of Go classes

The file of a class asserts that the class implements the interfaces that the run writes. A class cannot declare a
method with the name of a type that it embeds, so that such a method of an interface may be missing although it is
asserted; `assertion_backed_iff` says exactly when a method is there.
-/

namespace Stencil.Go

open Relation

/-- The file of `s` asserts that its type implements the type of `t`. -/
def Asserts (scope : Scope) (s t : Structure) : Prop := ∃ q ∈ asserted scope s, scope.selected? q = some t

/-- The type of `s` has a method: it declares it, or one of the types that it embeds does, or that these embed, and so
on. -/
def HasMethod (o : Options) (scope : Scope) (s : Structure) (name : Text) : Prop :=
  ∃ t, ReflTransGen (Embeds scope) s t ∧ name ∈ (File.of o scope t).methodNames

theorem mem_asserted {scope : Scope} {s : Structure} {q : QName} (h : q ∈ asserted scope s) :
    s.isInterface = false ∧ q ∈ s.interfaces ∧ (scope.selected? q).any Structure.isInterface = true := by
  unfold asserted at h
  split at h
  · cases h
  · rename_i hs
    obtain ⟨hq, hsel⟩ := List.mem_filter.1 h
    refine ⟨?_, hq, hsel⟩
    cases hk : s.isInterface with
    | false => rfl
    | true => simp [hk] at hs

theorem Asserts.isInterface {scope : Scope} {s t : Structure} (h : Asserts scope s t) :
    s.isInterface = false ∧ t.isInterface = true := by
  obtain ⟨q, hq, ht⟩ := h
  obtain ⟨hs, _, hsel⟩ := mem_asserted hq
  rw [ht] at hsel
  exact ⟨hs, hsel⟩

theorem embeds_iff {scope : Scope} {s t : Structure} :
    Embeds scope s t ↔ t ∈ (embedded scope s).filterMap scope.selected? := by
  unfold Embeds
  rw [List.mem_filterMap]

theorem embedded_names {scope : Scope} {s : Structure} {name : Text} :
    (∀ q ∈ embedded scope s, exported q.shortName ≠ name) ↔
      ∀ b, Embeds scope s b → exported b.shortName ≠ name := by
  have hshort : ∀ {q : QName} {b : Structure}, scope.selected? q = some b → b.shortName = q.shortName := by
    intro q b hb
    exact QName.shortName_eq (dotted_of_selected? hb)
  constructor
  · rintro h b ⟨q, hq, hb⟩
    rw [hshort hb]
    exact h q hq
  · intro h q hq
    obtain ⟨_, b, hb, _⟩ := mem_embedded hq
    rw [← hshort hb]
    exact h b ⟨q, hq, hb⟩

/-- A class declares the methods of all structures that are collected for it, but for those with the name of a type that
it embeds. -/
theorem mem_methodNames_of_class (o : Options) {scope : Scope} {c : Catalogue} (hc : scope.inherited = some c)
    {s : Structure} (hs : s.isInterface = false) {name : Text} :
    name ∈ (File.of o scope s).methodNames ↔
      (∀ b, Embeds scope s b → exported b.shortName ≠ name) ∧
        ∃ t ∈ walked c ((embedded scope s).map QName.dotted) s, ∃ m ∈ t.methods, exported m.name = name := by
  rw [mem_methodNames o hc, embedded_names, and_comm]
  simp [hs]

section
variable {job : Job} {structures : List Structure} {c : Catalogue} (hmem : ∀ s ∈ structures, c.get? s.name = some s)
include hmem

theorem Asserts.supertype {x i : Structure} (h : Asserts (job.scope structures (some c)) x i) :
    i ∈ structures ∧ c.Supertype x i := by
  obtain ⟨q, hq, hi⟩ := h
  obtain ⟨hmemi, hget⟩ := selected?_sound hmem hi
  exact ⟨hmemi, q, List.mem_append_right _ (mem_asserted hq).2.1, hget⟩

theorem class_of_embeds {x t : Structure} (hx : x ∈ structures) (hclass : x.isInterface = false)
    (h : ReflTransGen (Embeds (job.scope structures (some c))) x t) : t ∈ structures ∧ t.isInterface = false := by
  obtain ⟨ht, hkind⟩ := mem_of_embeds hmem hx h
  refine ⟨ht, ?_⟩
  unfold Structure.isInterface at hclass ⊢
  rw [hkind, hclass]

/-- The methods of an interface come from structures that its supertypes lead to. -/
theorem exists_supertype_of_hasMethod (o : Options) (hinherited : job.inherited = true) {i : Structure}
    (hi : i ∈ structures) (hiface : i.isInterface = true) {name : Text}
    (h : HasMethod o (job.scope structures (some c)) i name) :
    ∃ t, ReflTransGen c.Supertype i t ∧ ∃ m ∈ t.methods, exported m.name = name := by
  obtain ⟨w, hw, hname⟩ := h
  have hc : (job.scope structures (some c)).inherited = some c := if_pos hinherited
  obtain ⟨t, ht, hm⟩ := (mem_methodNames_of_interface o hc (interface_of_embeds hmem hi hiface hw).2).1 hname
  have hsuper : ReflTransGen c.Supertype i w := ReflTransGen.mono (fun _ _ hstep => hstep.supertype hmem) _ _ hw
  exact ⟨t, hsuper.trans (walked_sound ht), hm⟩

/-- The methods of an interface that is asserted are collected for the class, or for a class that it embeds. -/
theorem exists_walked_of_asserts (o : Options) (job : Job) (hinherited : job.inherited = true) {x i : Structure}
    (hx : x ∈ structures) (hi : Asserts (job.scope structures (some c)) x i) {name : Text}
    (h : HasMethod o (job.scope structures (some c)) i name) :
    ∃ w, ReflTransGen (Embeds (job.scope structures (some c))) x w ∧
      ∃ t ∈ walked c ((embedded (job.scope structures (some c)) w).map QName.dotted) w,
        ∃ m ∈ t.methods, exported m.name = name := by
  obtain ⟨hmemi, hstep⟩ := hi.supertype hmem
  obtain ⟨t, ht, hm⟩ := exists_supertype_of_hasMethod hmem o hinherited hmemi hi.isInterface.2 h
  have hknown : ∀ w, ReflTransGen (Embeds (job.scope structures (some c))) x w → c.get? w.name = some w :=
    fun w hw => hmem w (mem_of_embeds hmem hx hw).1
  obtain ⟨w, hw, htw⟩ := exists_walked_of_known hmem job hknown (ht.head hstep)
  exact ⟨w, hw, t, htw, hm⟩

theorem hasMethod_class_iff (o : Options) (job : Job) (hinherited : job.inherited = true) {x : Structure}
    (hx : x ∈ structures) (hclass : x.isInterface = false) (name : Text) :
    HasMethod o (job.scope structures (some c)) x name ↔
      ∃ w, ReflTransGen (Embeds (job.scope structures (some c))) x w ∧
        (∀ b, Embeds (job.scope structures (some c)) w b → exported b.shortName ≠ name) ∧
          ∃ t ∈ walked c ((embedded (job.scope structures (some c)) w).map QName.dotted) w,
            ∃ m ∈ t.methods, exported m.name = name := by
  have hc : (job.scope structures (some c)).inherited = some c := if_pos hinherited
  constructor
  · rintro ⟨w, hw, hname⟩
    exact ⟨w, hw, (mem_methodNames_of_class o hc (class_of_embeds hmem hx hclass hw).2).1 hname⟩
  · rintro ⟨w, hw, hname⟩
    exact ⟨w, hw, (mem_methodNames_of_class o hc (class_of_embeds hmem hx hclass hw).2).2 hname⟩

end

/-- In a run with inherited methods, let the file of `x` assert an interface `i`. A method of `i` is declared for `x`, or
for a class that `x` embeds, and so on, exactly if one of these classes collects a method of that name and embeds no
class of that name. In particular, a method is there if no class that `x` embeds, directly or not, has its name. -/
theorem assertion_backed_iff (o : Options) (format : Formatter) (outDir : Text) {structures : List Structure}
    {c : Catalogue} (hmem : ∀ s ∈ structures, c.get? s.name = some s) {x : Structure} (hx : x ∈ structures) :
    let job : Job := ⟨.go o, format, outDir, true⟩
    let scope := job.scope structures (some c)
    let file := File.of o scope
    (job.plan structures (some c) = structures.map fun s => ⟨s.name, job.path s, format (job.path s) (file s)⟩) ∧
      (∀ s, (file s).text = Text.unlines (file s).lines) ∧
      ∀ i, Asserts scope x i → ∀ name, HasMethod o scope i name →
        (HasMethod o scope x name ↔
          ∃ w, ReflTransGen (Embeds scope) x w ∧ (∀ b, Embeds scope w b → exported b.shortName ≠ name) ∧
            ∃ t ∈ walked c ((embedded scope w).map QName.dotted) w, ∃ m ∈ t.methods, exported m.name = name) ∧
          ((∀ b, TransGen (Embeds scope) x b → exported b.shortName ≠ name) → HasMethod o scope x name) := by
  intro job scope file
  refine ⟨rfl, fun s => File.text_eq (file s), fun i hi name hname => ?_⟩
  have hiff := hasMethod_class_iff hmem o job rfl hx hi.isInterface.1 name
  refine ⟨hiff, fun hfree => hiff.2 ?_⟩
  -- whichever class collects the method, all that it embeds is embedded by `x` as well
  obtain ⟨w, hw, hcollected⟩ := exists_walked_of_asserts hmem o job rfl hx hi hname
  exact ⟨w, hw, fun b hb => hfree b (TransGen.tail' hw hb), hcollected⟩

def shadowed : List Structure :=
  [((Structure.make .iface (.ofText "I") .unset []).addMethod ⟨"base", .void, []⟩).addMethod ⟨"run", .void, []⟩,
    .make .klass (.ofText "Base") .unset [],
    .make .klass (.ofText "X") (.ofText "Base") [.ofText "I"]]

def shadowedScope : Scope :=
  Job.scope ⟨.go ⟨[.builtins], []⟩, .standard, [], true⟩ shadowed (some (.ofList shadowed))

theorem shadowed_known : ∀ s ∈ shadowed, (Catalogue.ofList shadowed).get? s.name = some s := by decide

theorem shadowed_asserts : Asserts shadowedScope shadowed[2] shadowed[0] := ⟨.ofText "I", by decide, by decide⟩

theorem shadowed_interface {m : Method} (hm : m ∈ shadowed[0].methods) :
    HasMethod ⟨[.builtins], []⟩ shadowedScope shadowed[0] (exported m.name) :=
  ⟨shadowed[0], .refl, (mem_methodNames_of_interface _ rfl rfl).2 ⟨shadowed[0], List.mem_cons_self .., m, hm, rfl⟩⟩

theorem shadowed_embeds {t : Structure} (h : ReflTransGen (Embeds shadowedScope) shadowed[2] t) :
    t = shadowed[2] ∨ t = shadowed[1] := by
  have hx : ∀ b ∈ (embedded shadowedScope shadowed[2]).filterMap shadowedScope.selected?, b = shadowed[1] := by decide
  have hbase : (embedded shadowedScope shadowed[1]).filterMap shadowedScope.selected? = [] := by decide
  induction h with
  | refl => exact .inl rfl
  | tail _ hstep ih =>
    rw [embeds_iff] at hstep
    rcases ih with rfl | rfl
    · exact .inr (hx _ hstep)
    · rw [hbase] at hstep
      cases hstep

theorem shadowed_run_backed :
    (∀ s ∈ shadowed, (Catalogue.ofList shadowed).get? s.name = some s) ∧ shadowed[2] ∈ shadowed ∧
      Asserts shadowedScope shadowed[2] shadowed[0] ∧
      HasMethod ⟨[.builtins], []⟩ shadowedScope shadowed[0] (exported "run") ∧
      HasMethod ⟨[.builtins], []⟩ shadowedScope shadowed[2] (exported "run") := by
  have hx : shadowed[2] ∈ shadowed := by decide
  have hrun := shadowed_interface (m := ⟨"run", .void, []⟩) (by decide)
  refine ⟨shadowed_known, hx, shadowed_asserts, hrun, ?_⟩
  refine ((assertion_backed_iff ⟨[.builtins], []⟩ .standard [] shadowed_known hx).2.2 _ shadowed_asserts _ hrun).2 ?_
  intro b hb
  rcases shadowed_embeds hb.to_reflTransGen with rfl | rfl
  · decide
  · decide

/-- An assertion may miss a method: the method called like the base is declared nowhere. -/
theorem assertion_not_backed :
    ¬ ∀ (o : Options) (format : Formatter) (outDir : Text) (structures : List Structure) (c : Catalogue),
        (∀ s ∈ structures, c.get? s.name = some s) → ∀ x ∈ structures,
          let scope := Job.scope ⟨.go o, format, outDir, true⟩ structures (some c)
          ∀ i, Asserts scope x i → ∀ name, HasMethod o scope i name → HasMethod o scope x name := by
  intro h
  have hbase := shadowed_interface (m := ⟨"base", .void, []⟩) (by decide)
  have hx : shadowed[2] ∈ shadowed := by decide
  obtain ⟨w, hw, hname⟩ := h ⟨[.builtins], []⟩ .standard [] shadowed _ shadowed_known _ hx _ shadowed_asserts _ hbase
  rcases shadowed_embeds hw with rfl | rfl
  · have hembeds : Embeds shadowedScope shadowed[2] shadowed[1] := embeds_iff.2 (by decide)
    exact ((mem_methodNames_of_class _ rfl rfl).1 hname).1 _ hembeds (by decide)
  · obtain ⟨_, t, ht, m, hm, _⟩ := (mem_methodNames_of_class _ rfl rfl).1 hname
    have hnone : shadowed[1].supertypes = [] ∧ shadowed[1].methods = [] := by decide
    rcases (walked_sound ht).cases_head with rfl | ⟨u, ⟨q, hq, _⟩, _⟩
    · rw [hnone.2] at hm
      cases hm
    · rw [hnone.1] at hq
      cases hq

end Stencil.Go
