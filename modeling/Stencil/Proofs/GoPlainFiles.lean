import Stencil.Proofs.Casing
import Stencil.Proofs.GoNames
import Stencil.Proofs.GoTexts
import Stencil.Proofs.Keyed

/-!
# Plain Go files

A file is made of the names and types of its structure and of structures that it inherits from, of replacements for
types and of the name of a package. If none of these breaks a line, and no name is cut short by what is written after
it, the file is plain (`File.isPlain_of`), and says what it was made of.
-/

namespace Stencil.Go

/-! ## Plain structures -/

/-- Nothing in the names and types breaks a line, and what is written after a name does not begin inside it. -/
@[mk_iff]
structure IsPlain (s : Structure) : Prop where
  names : ∀ q ∈ s.name :: s.supertypes, q.dotted.FreeOf ['\n', '(', ')', ' ']
  methods : ∀ m ∈ s.methods, m.name.FreeOf ['\n', '(']
  params : ∀ m ∈ s.methods, ∀ p ∈ m.params, .char '\n' ∉ p.name
  types : ∀ m ∈ s.methods, ∀ t ∈ m.returns :: m.params.map Param.type, .char '\n' ∉ t.text

instance (s : Structure) : Decidable (IsPlain s) := decidable_of_iff _ (isPlain_iff s).symm

structure Options.IsPlain (o : Options) : Prop where
  package : .char '\n' ∉ o.package
  replacements : ∀ rule ∈ o.rules, ∀ t text, rule.replacement? t = some text → .char '\n' ∉ text

theorem Options.isPlain_builtins {package : Text} (h : .char '\n' ∉ package) :
    Options.IsPlain ⟨[.builtins], package⟩ := by
  have htargets : ∀ entries, TypeRule.builtins = .tags entries → ∀ r ∈ entries, .char '\n' ∉ r.target := by
    intro entries hentries
    cases hentries
    decide
  refine ⟨h, fun rule hrule t text h => ?_⟩
  obtain rfl := List.mem_singleton.1 hrule
  cases t with
  | named q => cases h
  | builtin tag =>
    obtain ⟨r, hr, rfl⟩ := Option.map_eq_some_iff.1 h
    exact htargets _ rfl r (List.mem_of_find?_eq_some hr)

theorem sign_not_mem_exported {d : Char} (hd : Unicode.IsSign d) {q : QName} (h : .char d ∉ q.dotted) :
    .char d ∉ exported q.shortName :=
  Text.sign_not_mem_capitalize hd fun hmem => h (QName.mem_dotted_of_mem_shortName hmem)

theorem freeOf_exported {q : QName} (h : q.dotted.FreeOf ['\n', '(', ')', ' ']) :
    (exported q.shortName).FreeOf ['\n', '(', ')', ' '] := by
  have hsigns : ∀ d ∈ ['\n', '(', ')', ' '], Unicode.IsSign d := by simp [Unicode.IsSign]
  exact fun d hd => sign_not_mem_exported (hsigns d hd) (h d hd)

section
variable {d : Char} (hd : d ≠ '_')
include hd

theorem not_mem_underscored {t : Text} (h : .char d ∉ t) (n : Nat) : .char d ∉ underscored t n := by
  simp [underscored, h, hd]

theorem not_mem_fresh (taken : List Text) {t : Text} (h : .char d ∉ t) : .char d ∉ fresh taken t := by
  obtain ⟨n, hname, _⟩ := isLeastFree_fresh taken t
  rw [hname]
  exact not_mem_underscored hd h n

theorem not_mem_identifier {t : Text} (h : .char d ∉ t) : .char d ∉ identifier t := by
  unfold identifier
  split
  · exact not_mem_underscored hd h 1
  · exact h

theorem not_mem_freshNames {taken ts : List Text} (h : ∀ t ∈ ts, .char d ∉ t) :
    ∀ name ∈ freshNames taken ts, .char d ∉ name := by
  induction ts generalizing taken with
  | nil => simp [freshNames]
  | cons t ts ih =>
    intro name hname
    rcases List.mem_cons.1 hname with rfl | hname
    · exact not_mem_fresh hd _ (not_mem_identifier hd (h t (by simp)))
    · exact ih (fun t' ht' => h t' (by simp [ht'])) name hname

end

theorem freeOf_receiverName (typeName : Text) (params : List Text) :
    (receiverName typeName params).FreeOf ['\n', ')'] := by
  have hstem : ∀ d ∈ ['\n', ')'], .char d ∉ receiverStem typeName := by
    intro d hd
    have hsign : Unicode.IsSign d ∧ Unicode.isLetter d = false ∧ .char d ∉ Text.ofString "recv" := by
      simp only [List.mem_cons, List.not_mem_nil, or_false] at hd
      rcases hd with rfl | rfl
      · decide
      · decide
    unfold receiverStem
    split
    · rename_i c _
      split
      · rename_i hc
        have hne : c ≠ d := by
          rintro rfl
          exact absurd hc (by simp [hsign.2.1])
        simpa using (Unicode.toLower_ne_sign hsign.1 hne).symm
      · exact hsign.2.2
    · exact hsign.2.2
  have hunderscore : ∀ d ∈ ['\n', ')'], d ≠ '_' := by simp
  exact fun d hd => not_mem_fresh (hunderscore d hd) _ (hstem d hd)

section
variable {o : Options} (ho : o.IsPlain) (scope : Scope)
include ho

theorem newline_not_mem_typeName {t : TypeRef} (ht : .char '\n' ∉ t.text) : .char '\n' ∉ typeName o scope t := by
  have hany : .char '\n' ∉ Text.ofString "any" := by decide
  unfold typeName TypeRule.resolve
  cases hfind : o.rules.findSome? (·.replacement? t) with
  | some text =>
    obtain ⟨rule, hrule, htext⟩ := List.exists_of_findSome?_eq_some hfind
    exact ho.replacements rule hrule t text htext
  | none =>
    cases t with
    | builtin tag => exact hany
    | named q =>
      show .char '\n' ∉ (if scope.isWritten q then exported q.shortName else "any" : Text)
      split
      · exact sign_not_mem_exported (by decide) ht
      · exact hany

theorem newline_not_mem_paramStub {name : Text} (hname : .char '\n' ∉ name) {p : Param}
    (hp : .char '\n' ∉ p.type.text) : .char '\n' ∉ (ParamStub.of o scope name p).text := by
  have htype : .char '\n' ∉ Text.orElse (typeName o scope p.type) "any" := by
    unfold Text.orElse
    split
    · decide
    · exact newline_not_mem_typeName ho scope hp
  have harray : .char '\n' ∉ Text.when p.isArray "[]" := by
    cases p.isArray with
    | false => decide
    | true => decide
  simp only [ParamStub.text, ParamStub.of, List.mem_append, not_or]
  exact ⟨⟨⟨hname, by decide⟩, harray⟩, htype⟩

theorem newline_not_mem_profile {m : Method} (hparams : ∀ p ∈ m.params, .char '\n' ∉ p.name)
    (htypes : ∀ t ∈ m.returns :: m.params.map Param.type, .char '\n' ∉ t.text) :
    .char '\n' ∉ (Profile.of o scope m).text := by
  have hresult := newline_not_mem_typeName ho scope (htypes _ (List.mem_cons_self ..))
  have hjoin : .char '\n' ∉ Text.join ", " ((Profile.of o scope m).params.map ParamStub.text) := by
    refine Text.not_mem_join (by decide) (List.forall_mem_map.2 ?_)
    intro stub hstub
    obtain ⟨i, hi, rfl⟩ := List.mem_iff_getElem.1 hstub
    simp only [Profile.of, List.getElem_zipWith]
    apply newline_not_mem_paramStub ho
    · exact not_mem_freshNames (by decide) (List.forall_mem_map.2 hparams) _ (List.getElem_mem _)
    · exact htypes _ (List.mem_cons_of_mem _ (List.mem_map_of_mem (List.getElem_mem _)))
  unfold Profile.text
  simp only [List.mem_append, not_or]
  refine ⟨⟨⟨by decide, hjoin⟩, by decide⟩, ?_⟩
  cases ht : (Profile.of o scope m).result with
  | none => simp
  | some t =>
    have hres : t = typeName o scope m.returns := by
      simp only [Profile.of] at ht
      split at ht
      · cases ht
      · exact (Option.some.inj ht).symm
    simp [Text.ofString, hres, hresult]

theorem newline_not_mem_packageName (s : Structure) : .char '\n' ∉ packageName o scope s := by
  have hdefault : .char '\n' ∉ defaultPackage := by decide
  have hword : ∀ segment, .char '\n' ∉ packageWord segment := by
    intro segment hmem
    obtain ⟨g, _, hg⟩ := List.mem_filterMap.1 hmem
    cases g with
    | stray b => cases hg
    | char c =>
      simp only [Option.ite_none_right_eq_some, Option.some.injEq, Glyph.char.injEq] at hg
      obtain ⟨hc, hlower⟩ := hg
      have hkept : Unicode.isWordChar (Unicode.toLower c) = true := Unicode.isWordChar_toLower hc
      rw [hlower] at hkept
      exact absurd hkept (by decide)
  unfold packageName
  split
  · exact ho.package
  · split
    · exact hdefault
    · dsimp only
      split
      · exact hword _
      · exact hdefault

end

theorem mem_entries_of_mem_reachable {c : Catalogue} {visited : List Text} {qs : List QName} {t : Structure}
    (h : t ∈ reachable c visited qs) : t ∈ c.entries := by
  fun_induction reachable c visited qs with
  | case1 => cases h
  | case2 visited q qs _ ih => exact ih h
  | case3 visited q qs _ _ ih => exact ih h
  | case4 visited q qs _ s hs ih =>
    rcases List.mem_cons.1 h with rfl | h
    · exact List.mem_of_find?_eq_some hs
    · exact ih h

theorem exists_of_mem_methodSet {inherited : Option Catalogue} {skip : List Text} {s : Structure} {m : Method}
    (h : m ∈ methodSet inherited skip s) : ∃ t, (t = s ∨ ∃ c ∈ inherited, t ∈ c.entries) ∧ m ∈ t.methods := by
  cases inherited with
  | none => exact ⟨s, .inl rfl, h⟩
  | some c =>
    rcases List.mem_append.1 h with h | h
    · exact ⟨s, .inl rfl, h⟩
    · obtain ⟨t, ht, hm⟩ := List.mem_flatMap.1 h
      exact ⟨t, .inr ⟨c, rfl, mem_entries_of_mem_reachable ht⟩, hm⟩

/-- A file is plain if everything it can be made of is. -/
theorem File.isPlain_of {o : Options} (ho : o.IsPlain) {scope : Scope} {s : Structure} (hs : Go.IsPlain s)
    (hinherited : ∀ c ∈ scope.inherited, ∀ t ∈ c.entries, Go.IsPlain t) : (File.of o scope s).IsPlain := by
  have hsupers : ∀ q ∈ s.supertypes, (exported q.shortName).FreeOf ['\n', '(', ')', ' '] :=
    fun q hq => freeOf_exported (hs.names q (List.mem_cons_of_mem _ hq))
  have hname := freeOf_exported (hs.names s.name (List.mem_cons_self ..))
  have hembeds : ∀ q ∈ embedded scope s, q ∈ s.supertypes := by
    intro q hq
    have hmem := (List.mem_filter.1 (Keyed.mem_of_mem_distinct _ hq).1).1
    split at hmem
    · exact hmem
    · exact List.mem_append_left _ hmem
  have hasserts : ∀ q ∈ asserted scope s, q ∈ s.supertypes := by
    intro q hq
    unfold asserted at hq
    split at hq
    · cases hq
    · exact List.mem_append_right _ (List.mem_filter.1 hq).1
  have hmethods : ∀ m ∈ declared scope s, ∃ t, Go.IsPlain t ∧ m ∈ t.methods := by
    intro m hm
    obtain ⟨t, ht, hmt⟩ := exists_of_mem_methodSet (Keyed.mem_of_mem_distinct _ hm).1
    rcases ht with rfl | ⟨c, hc, ht⟩
    · exact ⟨t, hs, hmt⟩
    · exact ⟨t, hinherited c hc t ht, hmt⟩
  constructor
  · exact newline_not_mem_packageName ho scope s
  · exact fun c hc => hname c (by revert c; simp)
  · exact hs.names s.name (List.mem_cons_self ..) '\n' (by simp)
  · exact List.forall_mem_map.2 fun q hq c hc => hsupers q (hembeds q hq) c (by revert c; simp)
  · exact List.forall_mem_map.2 fun q hq c hc => hsupers q (hasserts q hq) c (by revert c; simp)
  · exact List.forall_mem_map.2 fun m _ => freeOf_receiverName _ _
  · refine List.forall_mem_map.2 fun m hm => ?_
    obtain ⟨t, ht, hmt⟩ := hmethods m hm
    have hsigns : ∀ d ∈ ['\n', '('], Unicode.IsSign d := by simp [Unicode.IsSign]
    exact fun d hd => Text.sign_not_mem_capitalize (hsigns d hd) (ht.methods m hmt d hd)
  · refine List.forall_mem_map.2 fun m hm => ?_
    obtain ⟨t, ht, hmt⟩ := hmethods m hm
    exact newline_not_mem_profile ho scope (ht.params m hmt) (ht.types m hmt)

end Stencil.Go
