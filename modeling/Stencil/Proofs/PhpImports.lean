import Mathlib.Data.List.Basic
import Stencil.Proofs.Keyed
import Stencil.Proofs.PhpTexts

/-!
# What PHP files import

The file of a structure imports every structure that it refers to, once and in the order of first use, and refers to it
by the name that its `use` line declares (`file_by_use_lines`). The names that `use` lines declare are meant to be
different; `localNames_distinct_iff` says exactly when they are.
-/

namespace Stencil.Php

/-! ## Imported structures -/

theorem methodsIn_eq_append (s : Structure) (inherited : Option Catalogue) :
    ∃ others, s.methodsIn inherited = s.methods ++ others := by
  cases inherited with
  | none => exact ⟨[], (List.append_nil _).symm⟩
  | some c => exact ⟨_, rfl⟩

theorem references_subset_of_own {s : Structure} {m : Method} (h : m ∈ s.methods) {q : QName} (hq : q ∈ m.references) :
    q ∈ s.references :=
  List.mem_append_right _ (List.mem_flatMap.2 ⟨m, h, hq⟩)

/-- Passing over the methods that `s` has itself loses no reference. -/
theorem imported_methodsIn (s : Structure) (inherited : Option Catalogue) :
    imported s (s.methodsIn inherited) =
      Keyed.distinct QName.dotted [s.name.dotted]
        (s.supertypes ++ (s.methodsIn inherited).flatMap Method.references) := by
  obtain ⟨others, hms⟩ := methodsIn_eq_append s inherited
  have htaken : ∀ {q : QName}, q ∈ s.references → q.dotted ∈ s.references.map QName.dotted ++ [s.name.dotted] :=
    fun hq => List.mem_append_left _ (List.mem_map_of_mem hq)
  have hown : ∀ q ∈ s.methods.flatMap Method.references,
      q.dotted ∈ s.references.map QName.dotted ++ [s.name.dotted] :=
    fun q hq => htaken (List.mem_append_right _ hq)
  have hpassed : ∀ m ∈ s.methods ++ others, decide (s.method? m.name ≠ some m) = false →
      ∀ q ∈ m.references, q.dotted ∈ s.references.map QName.dotted ++ [s.name.dotted] := by
    intro m _ hm q hq
    have hm : s.method? m.name = some m := by simpa using hm
    exact htaken (references_subset_of_own (List.mem_of_find?_eq_some hm) hq)
  unfold imported
  rw [hms, List.flatMap_append, ← List.append_assoc]
  rw [show s.supertypes ++ s.methods.flatMap Method.references = s.references from rfl]
  rw [Keyed.distinct_append, Keyed.distinct_append, Keyed.distinct_flatMap_filter _ _ _ hpassed]
  rw [List.flatMap_append, Keyed.distinct_append_of_taken _ hown]

theorem name_ne_of_mem_imported {s : Structure} {ms : List Method} {q : QName} (h : q ∈ imported s ms) :
    q.dotted ≠ s.name.dotted := by
  have := (Keyed.mem_of_mem_distinct QName.dotted h).2
  simpa using this

theorem pairwise_imported (s : Structure) (ms : List Method) :
    (s.name :: imported s ms).Pairwise fun p q => p.dotted ≠ q.dotted :=
  .cons (fun _ hq => Ne.symm (name_ne_of_mem_imported hq)) (Keyed.pairwise_distinct QName.dotted _ _)

theorem map_name_imports (s : Structure) (ms : List Method) : (imports s ms).map Import.name = imported s ms := by
  simp [imports, Function.comp_def]

theorem pairwise_imports (s : Structure) (ms : List Method) :
    (imports s ms).Pairwise fun i j => i.name.dotted ≠ j.name.dotted := by
  have h := (List.pairwise_cons.1 (pairwise_imported s ms)).2
  rw [← map_name_imports, List.pairwise_map] at h
  exact h

/-! ## Local names -/

theorem localName_own {s : Structure} (ms : List Method) {q : QName} (h : q.dotted = s.name.dotted) :
    localName (imports s ms) q = s.shortName := by
  have hnone : Keyed.get? (fun i : Import => i.name.dotted) q.dotted (imports s ms) = none := by
    apply List.find?_eq_none.2
    intro i hi
    have hmem : i.name ∈ imported s ms := map_name_imports s ms ▸ List.mem_map_of_mem hi
    simpa [h] using name_ne_of_mem_imported hmem
  unfold localName
  rw [hnone]
  exact QName.shortName_eq h

theorem localName_of_mem {s : Structure} {ms : List Method} {i : Import} (hi : i ∈ imports s ms) {q : QName}
    (h : q.dotted = i.name.dotted) : localName (imports s ms) q = i.localName := by
  unfold localName
  rw [h, Keyed.get?_of_mem _ (pairwise_imports s ms) hi]

/-- The name that a `use` line declares: its alias, or else the last segment of what it imports. -/
def Import.declared (i : Import) : Text := i.alias?.getD i.name.shortName

theorem Import.declared_eq (i : Import) : i.declared = i.localName := by
  unfold Import.declared Import.alias?
  split
  · rename_i h; exact h.symm
  · rfl

/-- The name of a structure in the file of `s`: that of `s` itself, or else the one that its own `use` line declares.
What has neither is left to `unknown`. -/
def nameIn (s : Structure) (is : List Import) (unknown : QName → Text) (q : QName) : Text :=
  if q.same s.name then s.shortName
  else
    match is.find? fun i => i.name.same q with
    | some i => i.declared
    | none => unknown q

/-- Whatever `s` and its methods refer to is `s` itself or has a `use` line. -/
theorem localName_eq_nameIn (s : Structure) (inherited : Option Catalogue) (unknown : QName → Text) {q : QName}
    (h : q ∈ s.supertypes ++ (s.methodsIn inherited).flatMap Method.references) :
    localName (imports s (s.methodsIn inherited)) q =
      nameIn s (imports s (s.methodsIn inherited)) unknown q := by
  unfold nameIn
  by_cases hq : q.dotted = s.name.dotted
  · rw [if_pos (QName.same_iff.2 hq), localName_own _ hq]
  · have hmem : q.dotted ∈ (imported s (s.methodsIn inherited)).map QName.dotted := by
      rw [imported_methodsIn, Keyed.mem_map_key_distinct]
      exact ⟨List.mem_map_of_mem h, by simpa using hq⟩
    rw [← map_name_imports, List.map_map] at hmem
    obtain ⟨i, hi, hiq⟩ := List.mem_map.1 hmem
    have hiq : q.dotted = i.name.dotted := hiq.symm
    have hfind : (imports s (s.methodsIn inherited)).find? (fun i => i.name.same q) = some i := by
      have hget := Keyed.get?_of_mem _ (pairwise_imports s (s.methodsIn inherited)) hi
      rw [← hiq] at hget
      simpa [Keyed.get?, QName.same, beq_eq_decide] using hget
    rw [if_neg (mt QName.same_iff.1 hq), hfind, localName_of_mem hi hiq]
    exact (Import.declared_eq i).symm

/-! ## References in a declaration -/

section
variable (rules : List TypeRule) {f g : QName → Text}

theorem typeName_congr {t : TypeRef} (h : ∀ q ∈ t.references, f q = g q) : typeName rules f t = typeName rules g t := by
  unfold typeName TypeRule.resolve
  cases rules.findSome? (·.replacement? t) with
  | some text => rfl
  | none =>
    cases t with
    | builtin tag => rfl
    | named q => exact h q (List.mem_singleton.2 rfl)

theorem param_congr {p : Param} (h : ∀ q ∈ p.type.references, f q = g q) : param rules f p = param rules g p := by
  unfold param
  rw [typeName_congr rules h]

theorem paramLine_congr {p : Param} (h : ∀ q ∈ p.type.references, f q = g q) :
    paramLine rules f p = paramLine rules g p := by
  unfold paramLine
  rw [typeName_congr rules h]

theorem method_congr (inClass : Bool) {m : Method} (h : ∀ q ∈ m.references, f q = g q) :
    method rules f inClass m = method rules g inClass m := by
  have hret : ∀ q ∈ m.returns.references, f q = g q := fun q hq => h q (List.mem_append_left _ hq)
  have hpar : ∀ p ∈ m.params, ∀ q ∈ p.type.references, f q = g q :=
    fun p hp q hq => h q (List.mem_append_right _ (List.mem_flatMap.2 ⟨p, hp, hq⟩))
  have hlines : m.params.flatMap (paramLine rules f) = m.params.flatMap (paramLine rules g) := by
    simp only [List.flatMap]
    rw [List.map_congr_left fun p hp => paramLine_congr rules (hpar p hp)]
  unfold method
  rw [typeName_congr rules hret, hlines, List.map_congr_left fun p hp => param_congr rules (hpar p hp)]

theorem heading_congr {s : Structure} (h : ∀ q ∈ s.supertypes, f q = g q) : heading f s = heading g s := by
  have hifaces : s.interfaces.map f = s.interfaces.map g :=
    List.map_congr_left fun q hq => h q (List.mem_append_right _ hq)
  unfold heading
  rw [hifaces]
  cases hb : s.base with
  | none => rfl
  | some q =>
    have hq : f q = g q := h q (List.mem_append_left _ (by simp [hb]))
    simp only [hq]

/-- A declaration depends on the names of the structures that it refers to, and on no other names. -/
theorem declaration_congr {s : Structure} {ms : List Method}
    (h : ∀ q ∈ s.supertypes ++ ms.flatMap Method.references, f q = g q) :
    declaration rules f s ms = declaration rules g s ms := by
  have hms : ∀ m ∈ ms, ∀ q ∈ m.references, f q = g q :=
    fun m hm q hq => h q (List.mem_append_right _ (List.mem_flatMap.2 ⟨m, hm, hq⟩))
  have hbody : ms.flatMap (method rules f !s.isInterface) = ms.flatMap (method rules g !s.isInterface) := by
    simp only [List.flatMap]
    rw [List.map_congr_left fun m hm => method_congr rules _ (hms m hm)]
  unfold declaration
  rw [heading_congr fun q hq => h q (List.mem_append_left _ hq), hbody]

end

/-- A file imports the supertypes and then the structures of all signatures, each where it is first used and `s` never.
It has one `use` line for every import, in this order. After `extends` and `implements`, and wherever a type is written
that no rule replaces, every structure has the name that its own `use` line declares, and `s` has its short name; no
reference is left to `unknown`. -/
theorem file_by_use_lines (rules : List TypeRule) (inherited : Option Catalogue) (s : Structure) :
    let methods := s.methodsIn inherited
    let is := imports s methods
    is.map Import.name =
        ((s.base.toList ++ s.interfaces ++ methods.flatMap Method.references).filter
          fun q => !q.same s.name).eraseDupsBy QName.same ∧
      ∀ unknown : QName → Text,
        let name (q : QName) : Text :=
          if q.same s.name then s.shortName
          else
            match is.find? fun i => i.name.same q with
            | some i => i.alias?.getD i.name.shortName
            | none => unknown q
        let opening : List Text :=
          match s.package? with
          | some q => ["<?php", "", "namespace " ++ Text.join "\\" q.segments ++ ";", ""]
          | none => ["<?php", ""]
        let use (i : Import) : Text :=
          match i.alias? with
          | some other => "use " ++ Text.join "\\" i.name.segments ++ " as " ++ other ++ ";"
          | none => "use " ++ Text.join "\\" i.name.segments ++ ";"
        let extended : Text :=
          match s.base with
          | some q => " extends " ++ name q
          | none => ""
        let implemented : Text :=
          if s.interfaces = [] then "" else " implements " ++ Text.join ", " (s.interfaces.map name)
        let heading : List Text :=
          match s.kind with
          | .klass => ["class " ++ s.shortName ++ extended ++ implemented, "\x7b"]
          | .iface => ["interface " ++ s.shortName, "\x7b"]
        let type (t : TypeRef) : Text :=
          match TypeRule.resolve rules t with
          | .text text => text
          | .type (.builtin tag) => tag
          | .type (.named q) => name q
        let described (p : Param) : Text :=
          "     * @param " ++ type p.type ++ (if p.isArray then "[]" else "") ++ " $" ++ p.name
        let taken (p : Param) : Text :=
          match p.type with
          | .builtin _ => "$" ++ p.name
          | .named _ => (if p.isArray then Text.ofString "array" else type p.type) ++ " $" ++ p.name
        let function (m : Method) : Text :=
          "    public function " ++ m.name ++ "(" ++ Text.join ", " (m.params.map taken) ++ ")"
        let comment (m : Method) : List Text := ["", "    /**", "     * Method " ++ m.name, "     *"]
        let result (m : Method) : List Text := ["     * @return " ++ type m.returns, "     */"]
        let declared (m : Method) : List Text :=
          match s.kind with
          | .klass => [function m, "    \x7b", "    \x7d"]
          | .iface => [function m ++ ";"]
        let method (m : Method) : List Text := comment m ++ m.params.map described ++ result m ++ declared m
        file rules inherited s =
          Text.unlines (opening ++ (is.map use ++ if is = [] then [] else [[]]) ++
            (heading ++ methods.flatMap method ++ [Text.ofString "\x7d"])) := by
  intro methods is
  refine ⟨?_, ?_⟩
  · rw [map_name_imports, imported_methodsIn, Keyed.distinct_eq_eraseDupsBy QName.dotted fun p q => QName.same_iff]
    congr 1
    apply List.filter_congr
    intro q _
    simp [QName.same, beq_eq_decide]
  · intro unknown name opening use extended implemented heading type described taken function comment result declared
      method
    have hopening : preambleLines s = opening := by
      unfold preambleLines opening
      cases s.package? <;> rfl
    have huse : useTexts is = is.map use ++ if is = [] then [] else [[]] := rfl
    have hheading : [Php.heading name s, Text.ofString "\x7b"] = heading := by
      unfold Php.heading heading
      cases s.kind with
      | iface => rfl
      | klass =>
        unfold extended implemented Text.when
        cases s.base <;> cases s.interfaces <;> rfl
    have hmethod : methodLines rules name (!s.isInterface) = method := by
      funext m
      unfold methodLines method functionLines declared Structure.isInterface
      cases s.kind <;> rfl
    have hname : name = nameIn s is unknown := rfl
    have hfile : file rules inherited s = preamble s ++ useLines is ++ declaration rules name s methods := by
      rw [hname, ← declaration_congr rules fun q hq => localName_eq_nameIn s inherited unknown hq]
      rfl
    rw [hfile, preamble_eq, useLines_eq, declaration_eq, ← Text.unlines_append, ← Text.unlines_append, hopening, huse,
      declarationLines, hmethod, hheading]

/-! ## Different names -/

/-- Whether another structure that has a name in the file of `s` has the short name of `q`. -/
def Shared (s : Structure) (ms : List Method) (q : QName) : Prop :=
  ∃ p ∈ s.name :: imported s ms, p.dotted ≠ q.dotted ∧ p.shortName = q.shortName

theorem one_lt_count_iff {l : List QName} (hl : l.Pairwise fun p q => p.dotted ≠ q.dotted) {q : QName} (hq : q ∈ l) :
    1 < (l.map QName.shortName).count q.shortName ↔
      ∃ p ∈ l, p.dotted ≠ q.dotted ∧ p.shortName = q.shortName := by
  obtain ⟨l₁, l₂, rfl⟩ := List.append_of_mem hq
  have hcount : ((l₁ ++ q :: l₂).map QName.shortName).count q.shortName =
      ((l₁ ++ l₂).map QName.shortName).count q.shortName + 1 := by
    simp only [List.map_append, List.map_cons, List.count_append, List.count_cons_self]
    omega
  have hne : ∀ p ∈ l₁ ++ l₂, p.dotted ≠ q.dotted := by
    obtain ⟨_, hq₂, h₁⟩ := List.pairwise_append.1 hl
    intro p hp
    rcases List.mem_append.1 hp with hp | hp
    · exact h₁ p hp q (List.mem_cons_self ..)
    · exact Ne.symm ((List.pairwise_cons.1 hq₂).1 p hp)
  rw [hcount, Nat.lt_add_left_iff_pos, List.count_pos_iff, List.mem_map]
  constructor
  · rintro ⟨p, hp, hshort⟩
    refine ⟨p, ?_, hne p hp, hshort⟩
    exact (List.sublist_cons_self q l₂).append_left l₁ |>.subset hp
  · rintro ⟨p, hp, hdot, hshort⟩
    refine ⟨p, ?_, hshort⟩
    rcases List.mem_append.1 hp with hp | hp
    · exact List.mem_append_left _ hp
    · rcases List.mem_cons.1 hp with rfl | hp
      · exact absurd rfl hdot
      · exact List.mem_append_right _ hp

section
variable {s : Structure} {ms : List Method} {q : QName}

theorem shared_iff (hq : q ∈ imported s ms) :
    (s.shortName :: (imported s ms).map QName.shortName).count q.shortName > 1 ↔ Shared s ms q :=
  one_lt_count_iff (pairwise_imported s ms) (List.mem_cons_of_mem _ hq)

theorem localName_shared (hq : q ∈ imported s ms) (h : Shared s ms q) :
    localName (imports s ms) q = Text.join [] q.segments := by
  refine (localName_of_mem (List.mem_map_of_mem hq) rfl).trans ?_
  exact if_pos ((shared_iff hq).2 h)

theorem localName_unshared (hq : q ∈ imported s ms) (h : ¬ Shared s ms q) :
    localName (imports s ms) q = q.shortName := by
  refine (localName_of_mem (List.mem_map_of_mem hq) rfl).trans ?_
  exact if_neg (mt (shared_iff hq).1 h)

end

/-- Where two structures have the same name in a file, one of them was imported by all of its segments. -/
theorem shared_of_localName_eq {s : Structure} {ms : List Method} {p q : QName} (hp : p ∈ imported s ms)
    (hq : q ∈ s.name :: imported s ms) (hne : p.dotted ≠ q.dotted)
    (h : localName (imports s ms) p = localName (imports s ms) q) :
    Shared s ms p ∨ q ∈ imported s ms ∧ Shared s ms q := by
  refine Classical.or_iff_not_imp_left.2 fun hps => ?_
  rw [localName_unshared hp hps] at h
  rcases List.mem_cons.1 hq with rfl | hq
  · rw [localName_own ms rfl] at h
    exact absurd ⟨s.name, List.mem_cons_self .., Ne.symm hne, h.symm⟩ hps
  · refine ⟨hq, Classical.byContradiction fun hqs => ?_⟩
    rw [localName_unshared hq hqs] at h
    exact hps ⟨q, List.mem_cons_of_mem _ hq, Ne.symm hne, h.symm⟩

/-- The structures that have a name in a file have different names exactly if no import whose short name is shared has,
in all its segments put together, the short name of `s`, the segments of another such import put together, or the short
name of an import that shares it with none. -/
theorem localNames_distinct_iff (s : Structure) (ms : List Method) :
    (∀ p ∈ s.name :: imported s ms, ∀ q ∈ s.name :: imported s ms,
        localName (imports s ms) p = localName (imports s ms) q → p.dotted = q.dotted) ↔
      ∀ p ∈ imported s ms, Shared s ms p →
        Text.join [] p.segments ≠ s.shortName ∧
          ∀ q ∈ imported s ms, p.dotted ≠ q.dotted →
            (Shared s ms q → Text.join [] p.segments ≠ Text.join [] q.segments) ∧
              (¬ Shared s ms q → Text.join [] p.segments ≠ q.shortName) := by
  constructor
  · intro h p hp hps
    have hpm : p ∈ s.name :: imported s ms := List.mem_cons_of_mem _ hp
    refine ⟨fun heq => ?_, fun q hq hne => ⟨fun hqs heq => hne ?_, fun hqs heq => hne ?_⟩⟩
    · apply name_ne_of_mem_imported hp
      apply h p hpm s.name (List.mem_cons_self ..)
      rw [localName_shared hp hps, localName_own ms rfl, heq]
    · apply h p hpm q (List.mem_cons_of_mem _ hq)
      rw [localName_shared hp hps, localName_shared hq hqs, heq]
    · apply h p hpm q (List.mem_cons_of_mem _ hq)
      rw [localName_shared hp hps, localName_unshared hq hqs, heq]
  · intro h
    -- no import that is shared has the name of another structure
    have hclash : ∀ p ∈ imported s ms, Shared s ms p → ∀ q ∈ s.name :: imported s ms, p.dotted ≠ q.dotted →
        localName (imports s ms) p ≠ localName (imports s ms) q := by
      intro p hp hps q hq hne heq
      rw [localName_shared hp hps] at heq
      rcases List.mem_cons.1 hq with rfl | hq
      · rw [localName_own ms rfl] at heq
        exact (h p hp hps).1 heq
      · by_cases hqs : Shared s ms q
        · rw [localName_shared hq hqs] at heq
          exact ((h p hp hps).2 q hq hne).1 hqs heq
        · rw [localName_unshared hq hqs] at heq
          exact ((h p hp hps).2 q hq hne).2 hqs heq
    have himported : ∀ {p q : QName}, p ∈ imported s ms → q ∈ s.name :: imported s ms → p.dotted ≠ q.dotted →
        localName (imports s ms) p ≠ localName (imports s ms) q := by
      intro p q hp hq hne heq
      rcases shared_of_localName_eq hp hq hne heq with hps | ⟨hqm, hqs⟩
      · exact hclash p hp hps q hq hne heq
      · exact hclash q hqm hqs p (List.mem_cons_of_mem _ hp) (Ne.symm hne) heq.symm
    intro p hp q hq heq
    refine Classical.byContradiction fun hne => ?_
    rcases List.mem_cons.1 hp with rfl | hp
    · rcases List.mem_cons.1 hq with rfl | hq
      · exact hne rfl
      · exact himported hq (List.mem_cons_self ..) (Ne.symm hne) heq.symm
    · exact himported hp hq hne heq

/-- A class may import a structure without a package under its own short name. -/
theorem localNames_not_distinct :
    ¬ ∀ (s : Structure) (ms : List Method), ∀ p ∈ s.name :: imported s ms, ∀ q ∈ s.name :: imported s ms,
        localName (imports s ms) p = localName (imports s ms) q → p.dotted = q.dotted := by
  intro h
  let s : Structure := .make .klass (.ofText "app.Foo") (.ofText "Foo") []
  have hclash : localName (imports s []) (.ofText "app.Foo") = localName (imports s []) (.ofText "Foo") := by decide
  have heq := h s [] (.ofText "app.Foo") (by decide) (.ofText "Foo") (by decide) hclash
  exact absurd heq (by decide)

end Stencil.Php
