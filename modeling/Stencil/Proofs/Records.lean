import Stencil.Proofs.Origins
import Stencil.Target.Yaml

/-!
# What a record tells about a structure

A record keeps tags and names as plain texts. Structures that were read and have the same record are the same but for the
types of parameters: where one has a tag, the other may have a structure whose name is that tag. Both then refer to the
same structures in the same order, so that without such a name nothing is left open.
-/

namespace Stencil

theorem forall₂_of_mem {α β : Type} {R S : α → β → Prop} {l : List α} {l' : List β} (h : List.Forall₂ R l l')
    (hrs : ∀ a ∈ l, ∀ b ∈ l', R a b → S a b) : List.Forall₂ S l l' := by
  induction h with
  | nil => exact .nil
  | cons hab _ ih =>
    exact .cons (hrs _ (by simp) _ (by simp) hab)
      (ih fun a ha b hb => hrs a (List.mem_cons_of_mem _ ha) b (List.mem_cons_of_mem _ hb))

theorem map_eq_map_iff_forall₂ {α β : Type} {f : α → β} {R : α → α → Prop} {l l' : List α}
    (h : ∀ a ∈ l, ∀ b ∈ l', f a = f b ↔ R a b) : l.map f = l'.map f ↔ List.Forall₂ R l l' := by
  rw [← List.forall₂_eq_eq_eq, List.forall₂_map_left_iff, List.forall₂_map_right_iff]
  exact ⟨fun hl => forall₂_of_mem hl fun a ha b hb => (h a ha b hb).1,
    fun hl => forall₂_of_mem hl fun a ha b hb => (h a ha b hb).2⟩

theorem eq_of_forall₂ {α : Type} {R : α → α → Prop} {l l' : List α} (h : List.Forall₂ R l l')
    (heq : ∀ a ∈ l, ∀ b ∈ l', R a b → a = b) : l = l' := by
  rw [← List.forall₂_eq_eq_eq]
  exact forall₂_of_mem h heq

/-! ## Alike -/

/-- The same type, or a tag and a structure whose name is that tag. -/
inductive TypeRef.Alike : TypeRef → TypeRef → Prop
  | same (t : TypeRef) : Alike t t
  | tagName {tag : Text} (h : tag ∈ tags) : Alike (.builtin tag) (.named (.ofText tag))
  | nameTag {tag : Text} (h : tag ∈ tags) : Alike (.named (.ofText tag)) (.builtin tag)

structure Param.Alike (p q : Param) : Prop where
  name : p.name = q.name
  isArray : p.isArray = q.isArray
  type : p.type.Alike q.type

structure Method.Alike (m n : Method) : Prop where
  name : m.name = n.name
  returns : m.returns = n.returns
  params : List.Forall₂ Param.Alike m.params n.params

/-- Structures that are the same but for tags and names of parameter types, and refer to the same structures. -/
structure Structure.Alike (s t : Structure) : Prop where
  declared : { s with methods := [] } = { t with methods := [] }
  methods : List.Forall₂ Method.Alike s.methods t.methods
  references : s.references = t.references

/-! ### Without names that are tags -/

theorem TypeRef.dotted_ofText_tag {tag : Text} (h : tag ∈ tags) : (QName.ofText tag).dotted = tag := by
  have htags : ∀ tag ∈ tags, (QName.ofText tag).dotted = tag := by decide
  exact htags tag h

theorem TypeRef.Alike.eq {t u : TypeRef} (h : t.Alike u) (ht : ∀ q ∈ t.references, q.dotted ∉ tags)
    (hu : ∀ q ∈ u.references, q.dotted ∉ tags) : t = u := by
  cases h with
  | same => rfl
  | tagName htag => exact absurd ((dotted_ofText_tag htag).symm ▸ htag) (hu _ (List.mem_singleton.2 rfl))
  | nameTag htag => exact absurd ((dotted_ofText_tag htag).symm ▸ htag) (ht _ (List.mem_singleton.2 rfl))

theorem Method.Alike.eq {m n : Method} (h : m.Alike n) (hm : ∀ q ∈ m.references, q.dotted ∉ TypeRef.tags)
    (hn : ∀ q ∈ n.references, q.dotted ∉ TypeRef.tags) : m = n := by
  have hmem : ∀ {m : Method} {p : Param}, p ∈ m.params → ∀ q ∈ p.type.references, q ∈ m.references := by
    intro m p hp q hq
    exact List.mem_append_right _ (List.mem_flatMap.2 ⟨p, hp, hq⟩)
  have hparams : m.params = n.params := by
    refine eq_of_forall₂ h.params ?_
    intro p hp p' hp' halike
    have htype := halike.type.eq (fun q hq => hm q (hmem hp q hq)) fun q hq => hn q (hmem hp' q hq)
    cases p
    cases p'
    cases halike.name
    cases halike.isArray
    cases htype
    rfl
  cases m
  cases n
  cases h.name
  cases h.returns
  cases hparams
  rfl

theorem Structure.Alike.eq {s t : Structure} (h : s.Alike t)
    (hs : ∀ m ∈ s.methods, ∀ q ∈ m.references, q.dotted ∉ TypeRef.tags) : s = t := by
  have hsuper : s.supertypes = t.supertypes := by
    change Structure.supertypes { s with methods := [] } = Structure.supertypes { t with methods := [] }
    rw [h.declared]
  -- the supertypes come first among the references and are the same
  have hrefs : s.methods.flatMap Method.references = t.methods.flatMap Method.references := by
    have hrefs := h.references
    rw [Structure.references, Structure.references, hsuper] at hrefs
    exact List.append_cancel_left hrefs
  have ht : ∀ n ∈ t.methods, ∀ q ∈ n.references, q.dotted ∉ TypeRef.tags := by
    intro n hn q hq
    have hmem : q ∈ s.methods.flatMap Method.references := hrefs ▸ List.mem_flatMap.2 ⟨n, hn, hq⟩
    obtain ⟨m, hm, hqm⟩ := List.mem_flatMap.1 hmem
    exact hs m hm q hqm
  have hmethods : s.methods = t.methods :=
    eq_of_forall₂ h.methods fun m hm n hn halike => halike.eq (hs m hm) (ht n hn)
  have hdeclared := h.declared
  cases s
  cases t
  cases hmethods
  simpa using hdeclared

/-! ## Types, names and their texts -/

theorem TypeRef.isWritten_cases {t : TypeRef} (h : t.IsWritten) :
    (∃ tag ∈ tags, t = .builtin tag) ∨ ∃ q, q ≠ .unset ∧ t = .named q := by
  obtain ⟨written, rfl⟩ := h
  unfold ofText
  by_cases htag : isTag written = true
  · rw [if_pos htag]
    exact .inl ⟨written, of_decide_eq_true htag, rfl⟩
  · rw [if_neg htag]
    exact .inr ⟨_, QName.ofText_ne_unset written, rfl⟩

theorem TypeRef.text_eq_iff_alike {t u : TypeRef} (ht : t.IsWritten) (hu : u.IsWritten) :
    t.text = u.text ↔ t.Alike u := by
  constructor
  · intro h
    rcases isWritten_cases ht with ⟨tag, htag, rfl⟩ | ⟨q, hq, rfl⟩
    · rcases isWritten_cases hu with ⟨tag', _, rfl⟩ | ⟨q', hq', rfl⟩
      · obtain rfl : tag = tag' := h
        exact .same _
      · -- a name that was given is the one that its dotted form is read as
        obtain rfl : tag = q'.dotted := h
        have halike := Alike.tagName htag
        rwa [QName.ofText_dotted hq'] at halike
    · rcases isWritten_cases hu with ⟨tag', htag', rfl⟩ | ⟨q', hq', rfl⟩
      · obtain rfl : q.dotted = tag' := h
        have halike := Alike.nameTag htag'
        rwa [QName.ofText_dotted hq] at halike
      · obtain rfl := (QName.dotted_eq_iff hq hq').1 h
        exact .same _
  · intro h
    cases h with
    | same => rfl
    | tagName htag => exact (dotted_ofText_tag htag).symm
    | nameTag htag => exact dotted_ofText_tag htag

theorem map_dotted_eq_iff {qs qs' : List QName} (h : ∀ q ∈ qs, q ≠ .unset) (h' : ∀ q ∈ qs', q ≠ .unset) :
    qs.map QName.dotted = qs'.map QName.dotted ↔ qs = qs' := by
  rw [map_eq_map_iff_forall₂ fun q hq q' hq' => QName.dotted_eq_iff (h q hq) (h' q' hq'), List.forall₂_eq_eq_eq]

theorem getD_dotted_eq_iff {b b' : Option QName} (h : ∀ q ∈ b, q.dotted ≠ []) (h' : ∀ q ∈ b', q.dotted ≠ []) :
    (b.map QName.dotted).getD [] = (b'.map QName.dotted).getD [] ↔ b = b' := by
  cases b with
  | none =>
    cases b' with
    | none => simp
    | some q' => simpa using (h' q' rfl).symm
  | some q =>
    cases b' with
    | none => simpa using h q rfl
    | some q' =>
      have hq := QName.dotted_eq_iff (QName.ne_unset_of_dotted (h q rfl)) (QName.ne_unset_of_dotted (h' q' rfl))
      simpa using hq

/-! ## Records -/

namespace Yaml

theorem paramRecord_eq_iff {p q : Param} (hp : p.type.IsWritten) (hq : q.type.IsWritten) :
    ParamRecord.of p = ParamRecord.of q ↔ p.Alike q := by
  unfold ParamRecord.of
  rw [ParamRecord.mk.injEq, TypeRef.text_eq_iff_alike hp hq]
  exact ⟨fun ⟨hname, htype, harray⟩ => ⟨hname, harray, htype⟩, fun h => ⟨h.name, h.type, h.isArray⟩⟩

theorem methodRecord_eq_iff {m n : Method} (hm : m.IsRead) (hn : n.IsRead) :
    MethodRecord.of m = MethodRecord.of n ↔ m.Alike n := by
  have hreturns : m.returns.text = n.returns.text ↔ m.returns = n.returns := by
    refine ⟨fun h => ?_, congrArg _⟩
    rw [← TypeRef.ofText_text hm.returns, h, TypeRef.ofText_text hn.returns]
  unfold MethodRecord.of
  rw [MethodRecord.mk.injEq, hreturns,
    map_eq_map_iff_forall₂ fun p hp q hq => paramRecord_eq_iff (hm.params p hp) (hn.params q hq)]
  exact ⟨fun ⟨hname, hreturns, hparams⟩ => ⟨hname, hreturns, hparams⟩, fun h => ⟨h.name, h.returns, h.params⟩⟩

theorem ne_unset_of_mem_references {s : Structure} (h : s.IsRead) : ∀ q ∈ s.references, q ≠ .unset := by
  have hwritten : ∀ {t : TypeRef}, t.IsWritten → ∀ q ∈ t.references, q ≠ .unset := by
    intro t ht q hq
    rcases TypeRef.isWritten_cases ht with ⟨tag, _, rfl⟩ | ⟨name, hname, rfl⟩
    · cases hq
    · rwa [List.mem_singleton.1 hq]
  intro q hq
  rcases List.mem_append.1 hq with hq | hq
  · exact QName.ne_unset_of_dotted (h.supertypes q hq)
  · obtain ⟨m, hm, hq⟩ := List.mem_flatMap.1 hq
    have hread := h.methods m hm
    rcases List.mem_append.1 hq with hq | hq
    · exact hwritten ⟨_, TypeRef.ofText_text hread.returns⟩ q hq
    · obtain ⟨p, hp, hq⟩ := List.mem_flatMap.1 hq
      exact hwritten (hread.params p hp) q hq

theorem structureRecord_eq_iff {s t : Structure} (hs : s.IsRead) (ht : t.IsRead) :
    StructureRecord.of none s = StructureRecord.of none t ↔ s.Alike t := by
  have hbases : ∀ {s : Structure}, s.IsRead → ∀ q ∈ s.base, q.dotted ≠ [] := fun h q hq =>
    h.supertypes q (List.mem_append_left _ (Option.mem_toList.2 hq))
  have hinterfaces : ∀ {s : Structure}, s.IsRead → ∀ q ∈ s.interfaces, q ≠ .unset := fun h q hq =>
    QName.ne_unset_of_dotted (h.supertypes q (List.mem_append_right _ hq))
  have hmethods : s.methods.map MethodRecord.of = t.methods.map MethodRecord.of ↔
      List.Forall₂ Method.Alike s.methods t.methods :=
    map_eq_map_iff_forall₂ fun m hm n hn => methodRecord_eq_iff (hs.methods m hm) (ht.methods n hn)
  unfold StructureRecord.of
  rw [StructureRecord.mk.injEq]
  constructor
  · rintro ⟨hfqn, hword, _, _, hbase, himplements, huses, hrecords⟩
    have hname := (QName.dotted_eq_iff hs.name ht.name).1 hfqn
    refine ⟨?_, hmethods.1 hrecords,
      (map_dotted_eq_iff (ne_unset_of_mem_references hs) (ne_unset_of_mem_references ht)).1 huses⟩
    rw [hname, Outline.kind_word_inj hword, (getD_dotted_eq_iff (hbases hs) (hbases ht)).1 hbase,
      (map_dotted_eq_iff (hinterfaces hs) (hinterfaces ht)).1 himplements]
  · intro h
    obtain ⟨hname, hsame, hbase, hints, _⟩ := Structure.mk.inj h.declared
    refine ⟨by rw [hname], by rw [hsame], ?_, ?_, by rw [hbase], by rw [hints], by rw [h.references],
      hmethods.2 h.methods⟩
    · rw [Structure.shortName, Structure.shortName, hname]
    · rw [Structure.package?, Structure.package?, hname]

/-- Of structures that were read, those with the same record are alike and no others. They are the same if no method
refers to a structure whose name is a tag. -/
theorem record_eq_iff_alike {src src' : Text} {s t : Structure} (hs : s ∈ (Outline.read src).catalogue.entries)
    (ht : t ∈ (Outline.read src').catalogue.entries) :
    (StructureRecord.of none s = StructureRecord.of none t ↔ s.Alike t) ∧
      ((∀ m ∈ s.methods, ∀ q ∈ m.references, q.dotted ∉ TypeRef.tags) →
        (StructureRecord.of none s = StructureRecord.of none t ↔ s = t)) := by
  have halike := structureRecord_eq_iff (Outline.isRead_of_mem_read hs) (Outline.isRead_of_mem_read ht)
  refine ⟨halike, fun htags => ⟨fun h => (halike.1 h).eq htags, fun h => by rw [h]⟩⟩

/-- The one reads `int` as a tag and the other as a name, which a record does tell. -/
theorem tag_and_name_records_ne :
    let s : Structure := ⟨.ofText "A", .klass, none, [], [⟨"run", .void, [⟨.builtin "int", "x", false⟩]⟩]⟩
    let t : Structure := ⟨.ofText "A", .klass, none, [], [⟨"run", .void, [⟨.named (.ofText "int"), "x", false⟩]⟩]⟩
    s ∈ (Outline.read "class A\n  void run(int x)").catalogue.entries ∧
      t ∈ (Outline.read "class A\n  void run(int\t x)").catalogue.entries ∧
      StructureRecord.of none s ≠ StructureRecord.of none t := by
  intro s t
  have hs : s ∈ (Outline.read "class A\n  void run(int x)").catalogue.entries := by decide +kernel
  have ht : t ∈ (Outline.read "class A\n  void run(int\t x)").catalogue.entries := by decide +kernel
  have htags : ∀ m ∈ s.methods, ∀ q ∈ m.references, q.dotted ∉ TypeRef.tags := by decide +kernel
  have hne : s ≠ t := by decide +kernel
  exact ⟨hs, ht, mt ((record_eq_iff_alike hs ht).2 htags).1 hne⟩

/-- A tab after the type makes `int` a name, and the record does not tell which of two types is the name. -/
theorem record_not_faithful :
    let s : Structure := ⟨.ofText "A", .klass, none, [],
      [⟨"run", .void, [⟨.named (.ofText "int"), "x", false⟩, ⟨.builtin "int", "y", false⟩]⟩]⟩
    let t : Structure := ⟨.ofText "A", .klass, none, [],
      [⟨"run", .void, [⟨.builtin "int", "x", false⟩, ⟨.named (.ofText "int"), "y", false⟩]⟩]⟩
    s ∈ (Outline.read "class A\n  void run(int\t x, int y)").catalogue.entries ∧
      t ∈ (Outline.read "class A\n  void run(int x, int\t y)").catalogue.entries ∧
      StructureRecord.of none s = StructureRecord.of none t ∧ s ≠ t := by
  decide +kernel

end Yaml

end Stencil
