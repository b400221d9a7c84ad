import Stencil.Proofs.GoMethodSets

/-!
# Methods that Go types declare

A Go type may declare one method of a name, and a struct type none with the name of a field. Names fall together when
they are exported, and the methods that are collected come from the structure itself and from any number of supertypes.
The first method of every name is declared, which is one of the structure's own if it has any.
-/

namespace Stencil.Go

theorem methodSet_eq_append (inherited : Option Catalogue) (skip : List Text) (s : Structure) :
    ∃ others, methodSet inherited skip s = s.methods ++ others := by
  cases inherited with
  | none => exact ⟨[], (List.append_nil _).symm⟩
  | some c => exact ⟨_, rfl⟩

theorem mem_fields {scope : Scope} {s : Structure} {name : Text} :
    name ∈ (if s.isInterface then [] else (embedded scope s).map fun q => exported q.shortName) ↔
      s.kind = .klass ∧ name ∈ (embedded scope s).map fun q => exported q.shortName := by
  cases hkind : s.kind <;> simp [Structure.isInterface, hkind]

theorem own_of_mem_declared {scope : Scope} {s : Structure} {m own : Method} (hm : m ∈ declared scope s)
    (hown : s.methods.find? (fun m' => exported m'.name = exported m.name) = some own) : m = own := by
  unfold declared at hm
  obtain ⟨others, hset⟩ := methodSet_eq_append scope.inherited ((embedded scope s).map QName.dotted) s
  simp only [hset, Keyed.distinct_append] at hm
  rcases List.mem_append.1 hm with hm | hm
  · have hfirst := Keyed.get?_of_mem_distinct (fun m : Method => exported m.name) hm
    exact Option.some.inj (hfirst.symm.trans hown)
  · have hname : exported own.name = exported m.name := by simpa using List.find?_some hown
    refine absurd ?_ (Keyed.mem_of_mem_distinct (fun m : Method => exported m.name) hm).2
    exact List.mem_append_left _ (List.mem_map.2 ⟨own, List.mem_of_find?_eq_some hown, hname⟩)

theorem declared_eq_filter (scope : Scope) (s : Structure) :
    let methods := methodSet scope.inherited ((embedded scope s).map QName.dotted) s
    declared scope s = (methods.zipIdx.filter fun p =>
      exported p.1.name ∉ (methods.take p.2).map (fun m => exported m.name) ∧
        ¬ (s.kind = .klass ∧ exported p.1.name ∈ (embedded scope s).map fun q => exported q.shortName)).map Prod.fst := by
  intro methods
  rw [declared, Keyed.distinct_eq_filter_zipIdx]
  simp only [mem_fields]
  rfl

/-- A Go type declares the methods that are collected for it, in their order, but none whose exported name an earlier
one has, and in a class none with the name of a type that it embeds. In the text of the file, an interface type has one
line for each of them, and a class one function. The declared names are therefore different from each other and from the
fields of a class. Where the structure has own methods of a declared name, the first of them is declared. If nothing
breaks a line, the signatures can be read from the text again. -/
theorem methods_declared (o : Options) (scope : Scope) (s : Structure) :
    let file := File.of o scope s
    let stub (m : Method) : MethodStub := ⟨receiverName file.name (paramNames m), exported m.name, .of o scope m⟩
    let methods := methodSet scope.inherited ((embedded scope s).map QName.dotted) s
    let kept := (methods.zipIdx.filter fun p =>
      exported p.1.name ∉ (methods.take p.2).map (fun m => exported m.name) ∧
        ¬ (s.kind = .klass ∧ exported p.1.name ∈ file.embeds)).map Prod.fst
    let item (t : Text) : Text := "\t" ++ t
    let first (word : Text) : Text := "type " ++ file.name ++ word
    let last : Text := "\x7d"
    let function (m : Method) : List Text :=
      ["", "func (" ++ receiverName file.name (paramNames m) ++ " *" ++ file.name ++ ") " ++ exported m.name ++
        (Profile.of o scope m).written ++ " \x7b", "\tpanic(\"not implemented\")", "\x7d"]
    render o scope (.structure s) = Text.unlines (file.openingLines ++
      (match s.kind with
        | .iface =>
          first " interface \x7b" ::
            (file.embeds ++ kept.map fun m => exported m.name ++ (Profile.of o scope m).written).map item ++ [last]
        | .klass =>
          first " struct \x7b" :: file.embeds.map item ++ [last] ++ file.asserts.flatMap file.assertionLines ++
            kept.flatMap function) ++
      [[]]) ∧
      file.methods = kept.map stub ∧
      file.methodNames.Nodup ∧
      (s.kind = .klass → ∀ name ∈ file.methodNames, name ∉ file.embeds) ∧
      (∀ d ∈ file.methods, ∀ own, s.methods.find? (fun m => exported m.name = d.name) = some own → d = stub own) ∧
      (o.IsPlain → IsPlain s → (∀ c ∈ scope.inherited, ∀ t ∈ c.entries, IsPlain t) →
        declaredSignatures (render o scope (.structure s)) = kept.map (signature o scope)) := by
  intro file stub methods kept item first last function
  have hkept : declared scope s = kept := declared_eq_filter scope s
  have hmethods : file.methods = kept.map stub := by
    rw [← hkept]
    rfl
  have hnames : file.methodNames = (declared scope s).map fun m => exported m.name := methodNames_of o scope s
  refine ⟨?_, hmethods, ?_, ?_, ?_, ?_⟩
  · have hkind : file.kind = s.kind := rfl
    have hstruct : (File.of o scope s).typeLines " struct \x7b" [] =
        first " struct \x7b" :: file.embeds.map item ++ [last] := by
      rw [File.typeLines, List.append_nil]
    rw [render_structure, File.lines, hmethods, hkind, hstruct, List.map_map, List.flatMap_map]
    rfl
  · rw [hnames, List.nodup_iff_pairwise_ne, List.pairwise_map]
    exact Keyed.pairwise_distinct _ _ _
  · intro hkind name hname hembeds
    rw [hnames] at hname
    exact ((Keyed.mem_map_key_distinct _).1 hname).2 (mem_fields.2 ⟨hkind, hembeds⟩)
  · intro d hd own hown
    obtain ⟨m, hm, rfl⟩ := List.mem_map.1 hd
    exact congrArg stub (own_of_mem_declared hm hown)
  · intro ho hs hinherited
    have hread := (File.isPlain_of ho hs hinherited).declaredSignatures_text
    rw [← hkept]
    exact hread.trans (List.map_map ..)

end Stencil.Go
