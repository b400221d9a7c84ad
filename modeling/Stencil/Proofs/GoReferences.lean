import Stencil.Proofs.GoAssertions

/-!
# Types that Go files mention

A signature may refer to any structure, also to one that the run does not write, and inherited methods bring in the
references of structures that were never selected. What reaches a file are predeclared types and types that the same
run declares, so that no file is left with a type that is declared nowhere.
-/

namespace Stencil.Go

def predeclared : List Text := ["string", "int", "float32", "float64", "bool", "any"]

def Profile.typeNames (p : Profile) : List Text := p.params.map ParamStub.type ++ p.result.toList

/-- The type names in a file, without the brackets of arrays: embedded types, asserted interfaces, then the types of
parameters and results. -/
def File.typeNames (f : File) : List Text :=
  f.embeds ++ f.asserts ++ f.methods.flatMap fun m => m.profile.typeNames

/-- A type name that means something in the files of a run. -/
def Known (structures : List Structure) (name : Text) : Prop :=
  name ∈ predeclared ∨ ∃ t ∈ structures, name = exported t.shortName

/-! ## Types -/

theorem known_any (structures : List Structure) : Known structures "any" := .inl (by decide)

theorem builtins_replacement {tag text : Text} (h : TypeRule.builtins.replacement? (.builtin tag) = some text) :
    text = [] ∨ text ∈ predeclared := by
  have htargets : ∀ entries, TypeRule.builtins = .tags entries →
      ∀ r ∈ entries, r.target = [] ∨ r.target ∈ predeclared := by
    intro entries hentries
    cases hentries
    decide
  obtain ⟨r, hr, rfl⟩ := Option.map_eq_some_iff.1 h
  exact htargets _ rfl r (List.mem_of_find?_eq_some hr)

section
variable {scope : Scope} {structures : List Structure} (hscope : scope.selected = some (.ofList structures))
include hscope

theorem exists_of_isWritten {q : QName} (h : scope.isWritten q = true) :
    ∃ t ∈ structures, t.shortName = q.shortName := by
  have hsome : (scope.selected? q).isSome = true := by
    unfold Scope.isWritten at h
    unfold Scope.selected?
    rw [hscope] at h ⊢
    exact h
  obtain ⟨t, ht⟩ := Option.isSome_iff_exists.1 hsome
  exact ⟨t, mem_of_selected? hscope ht, QName.shortName_eq (dotted_of_selected? ht)⟩

/-- A type is written as nothing, or by a name that is known. -/
theorem known_typeName (package : Text) (t : TypeRef) :
    typeName ⟨[.builtins], package⟩ scope t = [] ∨ Known structures (typeName ⟨[.builtins], package⟩ scope t) := by
  unfold typeName TypeRule.resolve
  simp only [List.findSome?_cons, List.findSome?_nil]
  cases t with
  | builtin tag =>
    cases hr : TypeRule.builtins.replacement? (.builtin tag) with
    | none => exact .inr (known_any structures)
    | some text => exact (builtins_replacement hr).imp_right .inl
  | named q =>
    have hr : TypeRule.builtins.replacement? (.named q) = none := rfl
    simp only [hr]
    split
    · rename_i hq
      obtain ⟨s, hs, hshort⟩ := exists_of_isWritten hscope hq
      exact .inr (.inr ⟨s, hs, by rw [hshort]⟩)
    · exact .inr (known_any structures)

theorem known_param (package name : Text) (p : Param) :
    Known structures (ParamStub.of ⟨[.builtins], package⟩ scope name p).type := by
  simp only [ParamStub.of, Text.orElse]
  split
  · exact known_any structures
  · rename_i hne
    exact (known_typeName hscope package p.type).resolve_left hne

theorem known_profile (package : Text) (m : Method) {name : Text}
    (h : name ∈ (Profile.of ⟨[.builtins], package⟩ scope m).typeNames) : Known structures name := by
  rcases List.mem_append.1 h with h | h
  · obtain ⟨p, hp, rfl⟩ := List.mem_map.1 h
    obtain ⟨i, hi, rfl⟩ := List.getElem_of_mem hp
    simp only [Profile.of, List.getElem_zipWith]
    exact known_param hscope package _ _
  · simp only [Profile.of, Option.mem_toList] at h
    split at h
    · cases h
    · rename_i hne
      obtain rfl := Option.some.inj h
      exact (known_typeName hscope package m.returns).resolve_left hne

/-! ## Supertypes -/

/-- Names that the run writes are those of the structures that they stand for. -/
theorem names_written {P : Structure → Prop} {qs : List QName} (h : ∀ q ∈ qs, ∃ t, scope.selected? q = some t ∧ P t) :
    ∃ ts : List Structure, (qs.map fun q => exported q.shortName) = ts.map (fun t => exported t.shortName) ∧
      ∀ t ∈ ts, t ∈ structures ∧ t.name.dotted ∈ qs.map QName.dotted ∧ P t := by
  induction qs with
  | nil => exact ⟨[], rfl, by simp⟩
  | cons q qs ih =>
    obtain ⟨t, ht, hP⟩ := h q (by simp)
    obtain ⟨ts, hts, hall⟩ := ih fun p hp => h p (by simp [hp])
    have hdotted := dotted_of_selected? ht
    have hshort : t.shortName = q.shortName := QName.shortName_eq hdotted
    refine ⟨t :: ts, by rw [List.map_cons, List.map_cons, hts, hshort], ?_⟩
    intro u hu
    rcases List.mem_cons.1 hu with rfl | hu
    · exact ⟨mem_of_selected? hscope ht, by simp [hdotted], hP⟩
    · obtain ⟨hmem, hname, hPu⟩ := hall u hu
      exact ⟨hmem, List.mem_cons_of_mem _ hname, hPu⟩

theorem embedded_written (s : Structure) :
    ∃ ts : List Structure, ((embedded scope s).map fun q => exported q.shortName) =
        ts.map (fun t => exported t.shortName) ∧
      ∀ t ∈ ts, t ∈ structures ∧ t.kind = s.kind ∧ t.name.dotted ∈ s.supertypes.map QName.dotted := by
  obtain ⟨ts, hts, hall⟩ := names_written hscope fun q (hq : q ∈ embedded scope s) => (mem_embedded hq).2
  refine ⟨ts, hts, fun t ht => ?_⟩
  obtain ⟨hmem, hname, hkind⟩ := hall t ht
  obtain ⟨q, hq, hqt⟩ := List.mem_map.1 hname
  exact ⟨hmem, hkind, hqt ▸ List.mem_map_of_mem (mem_embedded hq).1⟩

theorem asserted_written (s : Structure) :
    ∃ ts : List Structure, ((asserted scope s).map fun q => exported q.shortName) =
        ts.map (fun t => exported t.shortName) ∧
      ∀ t ∈ ts, t ∈ structures ∧ t.kind = .iface ∧ t.name.dotted ∈ s.interfaces.map QName.dotted := by
  have hsel : ∀ q ∈ asserted scope s, ∃ t, scope.selected? q = some t ∧ t.kind = .iface := by
    intro q hq
    obtain ⟨_, _, hany⟩ := mem_asserted hq
    obtain ⟨t, ht, hiface⟩ := (Option.any_eq_true _ _).1 hany
    exact ⟨t, ht, by simpa [Structure.isInterface] using hiface⟩
  obtain ⟨ts, hts, hall⟩ := names_written hscope hsel
  refine ⟨ts, hts, fun t ht => ?_⟩
  obtain ⟨hmem, hname, hkind⟩ := hall t ht
  obtain ⟨q, hq, hqt⟩ := List.mem_map.1 hname
  exact ⟨hmem, hkind, hqt ▸ List.mem_map_of_mem (mem_asserted hq).2.1⟩

end

/-- Without replacements of the user, every type name in a file of a run is predeclared, or is the name of a type that a
file of the same run declares. What a type embeds are supertypes of its own kind that the run writes, and what is
asserted are interfaces that the run writes. The lines of the text show these names and no others, and where nothing
breaks a line they can be read from it. -/
theorem types_declared (package : Text) (format : Formatter) (inherited : Bool) (outDir : Text)
    (structures : List Structure) (c : Option Catalogue) :
    let o : Options := ⟨[.builtins], package⟩
    let job : Job := ⟨.go o, format, outDir, inherited⟩
    let file := File.of o (job.scope structures c)
    let text (s : Structure) := render o (job.scope structures c) (.structure s)
    (job.plan structures c = structures.map fun s => ⟨s.name, job.path s, format (job.path s) (file s)⟩) ∧
      ∀ s ∈ structures,
        (∀ name ∈ (file s).typeNames, name ∈ predeclared ∨ ∃ t ∈ structures, name = (file t).name) ∧
        (∃ ts : List Structure, (file s).embeds = ts.map (fun t => (file t).name) ∧
          ∀ t ∈ ts, t ∈ structures ∧ t.kind = s.kind ∧ t.name.dotted ∈ s.supertypes.map QName.dotted) ∧
        (∃ ts : List Structure, (file s).asserts = ts.map (fun t => (file t).name) ∧
          ∀ t ∈ ts, t ∈ structures ∧ t.kind = .iface ∧ t.name.dotted ∈ s.interfaces.map QName.dotted) ∧
        (file s).text = text s ∧ text s = Text.unlines (file s).lines ∧
        (.char '\n' ∉ package → IsPlain s → (∀ c' ∈ c, ∀ t ∈ c'.entries, IsPlain t) →
          embeddedTypes (text s) = (file s).embeds ∧ (s.kind = .klass → assertedTypes (text s) = (file s).asserts) ∧
          declaredSignatures (text s) = (file s).methods.map fun m => m.name ++ m.profile.written) := by
  intro o job file text
  have hscope : (job.scope structures c).selected = some (.ofList structures) := rfl
  refine ⟨rfl, fun s _ => ?_⟩
  obtain ⟨es, hes, hemb⟩ := embedded_written hscope s
  obtain ⟨as, has, hass⟩ := asserted_written hscope s
  refine ⟨?_, ⟨es, hes, hemb⟩, ⟨as, has, hass⟩, rfl, render_structure .., ?_⟩
  · intro name hname
    rcases List.mem_append.1 hname with hname | hname
    · rcases List.mem_append.1 hname with hname | hname
      · have hname : name ∈ es.map fun t => (file t).name := hes ▸ hname
        obtain ⟨t, ht, rfl⟩ := List.mem_map.1 hname
        exact .inr ⟨t, (hemb t ht).1, rfl⟩
      · have hname : name ∈ as.map fun t => (file t).name := has ▸ hname
        obtain ⟨t, ht, rfl⟩ := List.mem_map.1 hname
        exact .inr ⟨t, (hass t ht).1, rfl⟩
    · obtain ⟨stub, hstub, hname⟩ := List.mem_flatMap.1 hname
      obtain ⟨m, _, rfl⟩ := List.mem_map.1 hstub
      exact known_profile hscope package m hname
  · intro hpackage hs hentries
    have hinherited : ∀ c' ∈ (job.scope structures c).inherited, ∀ t ∈ c'.entries, IsPlain t := by
      intro c' hc'
      cases inherited with
      | false => cases hc'
      | true => exact hentries c' hc'
    have hplain := File.isPlain_of (Options.isPlain_builtins hpackage) hs hinherited
    exact ⟨hplain.embeddedTypes_text, hplain.assertedTypes_text,
      hplain.declaredSignatures_text.trans (by rw [MethodStub.signature_eq])⟩

def timed : List Structure :=
  [.make .klass (.ofText "app.Job") .unset [.ofText "app.Timed"],
    .make .klass (.ofText "app.zone") .unset [],
    (Structure.make .iface (.ofText "app.Timed") .unset []).addMethod
      ⟨"at", .named (.ofText "app.Clock"), [⟨.named (.ofText "app.zone"), "z", true⟩]⟩]

def timedScope : Scope :=
  Job.scope ⟨.go ⟨[.builtins], []⟩, .standard, [], true⟩ (timed.take 2) (some (.ofList timed))

theorem timed_walked : walked (.ofList timed) [] timed[0] = [timed[0], timed[2]] := by
  have hsupers : timed[0].supertypes.filter (fun q => q.dotted ∉ ([] : List Text)) = [.ofText "app.Timed"] := by decide
  have hnone : timed[2].supertypes = [] := by decide
  unfold walked
  rw [hsupers, reachable_known (s := timed[2]) (by decide) (by decide), hnone, List.nil_append, reachable]

theorem timed_declared : declared timedScope timed[0] = timed[2].methods := by
  have hembeds : embedded timedScope timed[0] = [] := by decide
  have hset : methodSet timedScope.inherited [] timed[0] = timed[2].methods := by
    have hc : timedScope.inherited = some (.ofList timed) := rfl
    rw [hc, methodSet_eq_walked, timed_walked]
    decide
  unfold declared
  simp only [hembeds, List.map_nil, hset]
  decide

/-- What the class inherits is written with the structure of the run, and with `any` for the one that is not there. -/
theorem timed_types :
    let file := File.of ⟨[.builtins], []⟩ timedScope
    timed[0] ∈ timed.take 2 ∧ (file timed[0]).typeNames = [Text.ofString "Zone", Text.ofString "any"] ∧
      ∃ t ∈ timed.take 2, Text.ofString "Zone" = (file t).name := by
  intro file
  have hmem : timed[0] ∈ timed.take 2 := by decide
  have htypes : (file timed[0]).typeNames = [Text.ofString "Zone", Text.ofString "any"] := by
    unfold file File.typeNames File.of
    rw [timed_declared]
    decide
  have hzone : Text.ofString "Zone" ∈ (file timed[0]).typeNames := by
    rw [htypes]
    exact List.mem_cons_self ..
  have hknown := ((types_declared [] .standard true [] (timed.take 2) (some (.ofList timed))).2 _ hmem).1 _ hzone
  exact ⟨hmem, htypes, hknown.resolve_left (by decide)⟩

end Stencil.Go
