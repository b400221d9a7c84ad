import Mathlib.Data.List.TakeWhile
import Stencil.Generation
import Stencil.Proofs.Casing
import Stencil.Proofs.Catalogues

/-!
# The Go package of a run

The package of a file is worked out for every structure by itself, from its own namespace and from all structures of the
run. The answer is the same for all of them, and the package clause of every file names it (`one_package`).
-/

namespace Stencil

/-! ## Package clauses -/

namespace Declaration

theorem tokens?_word {g : Glyph} {t : Text} (hg : isNameStart g = true) (ht : ∀ g ∈ t, isNamePart g = true) :
    tokens? (g :: t) = some [Token.ofWord (g :: t)] := by
  have hblank : ¬ (g = .char ' ' ∨ g = .char '\t' ∨ g = .char '\r') := by
    rintro (rfl | rfl | rfl) <;> exact absurd hg (by decide)
  have hbreak : g ≠ .char '\n' := by
    rintro rfl
    exact absurd hg (by decide)
  have htake : t.takeWhile isNamePart = t := List.takeWhile_eq_self_iff.2 ht
  have hdrop : t.dropWhile isNamePart = [] := List.dropWhile_eq_nil_iff.2 ht
  unfold tokens?
  rw [List.length_cons, tokensFrom?, if_neg hblank, if_neg hbreak, if_pos hg, htake, hdrop]
  simp [tokensFrom?]

theorem packageName?_of_isName {t : Text} (h : isName t = true) : packageName? t = some t := by
  unfold isName at h
  simp only [Bool.and_eq_true, Bool.not_eq_true'] at h
  obtain ⟨⟨hhead, hall⟩, hkeyword⟩ := h
  cases t with
  | nil => cases hhead
  | cons g t =>
    have hword : Token.ofWord (g :: t) = .name (g :: t) := if_neg (by simp [hkeyword])
    unfold packageName?
    rw [tokens?_word hhead fun g hg => List.all_eq_true.1 hall g (List.mem_cons_of_mem _ hg), hword]

end Declaration

namespace Go

def clause (package : Text) : Text := "// Code generated by prototype. DO NOT EDIT.\n\npackage " ++ package ++ "\n\n"

/-- A formatter that leaves a file its package clause. What stands there is `clauseName?` of the package, which is the
package itself if that is a name. -/
structure KeepsClause (format : Formatter) (clauseName? : Text → Option Text) : Prop where
  of_isName : ∀ p, Declaration.isName p = true → clauseName? p = some p
  begins : ∀ path f text, format path f = some text →
    ∃ name, clauseName? f.package = some name ∧ clause name <+: text

theorem clause_prefix_text (f : File) : clause f.package <+: f.text := by
  simp only [File.text, clause, List.append_assoc, List.prefix_append_right_inj, List.prefix_append]

theorem clause_prefix_format? {f : File} {text : Text} (h : Declaration.format? f = some text) :
    ∃ name, Declaration.packageName? f.package = some name ∧ clause name <+: text := by
  unfold Declaration.format? at h
  simp only [Option.bind_eq_bind, Option.bind_eq_some_iff] at h
  obtain ⟨name, hname, origin, _, h⟩ := h
  refine ⟨name, hname, ?_⟩
  split at h
  · cases h
  · obtain ⟨signatures, _, h⟩ := Option.bind_eq_some_iff.1 h
    cases h
    simp only [clause, List.append_assoc, List.prefix_append_right_inj, List.prefix_append]

/-! ## The package of a structure -/

def namespaceWord (q : QName) : Text := Text.lower (q.shortName.filter (Glyph.satisfies Unicode.isWordChar))

/-- A namespace after which the package of a run can be named: it is not empty, all structures have it, and its word
begins with a letter and is no keyword. -/
structure Common (structures : List Structure) (q : QName) : Prop where
  given : q.dotted ≠ []
  shared : ∀ s ∈ structures, s.name.parent.dotted = q.dotted
  letter : (namespaceWord q).head?.any (Glyph.satisfies Unicode.isLetter) = true
  free : namespaceWord q ∉ keywords

/-- What the package of a run is called: as the user says, or after the common namespace, or as by default. -/
inductive PackageOf (named : Text) (structures : List Structure) : Text → Prop
  | named : named ≠ [] → PackageOf named structures named
  | common (q : QName) : named = [] → Common structures q → PackageOf named structures (namespaceWord q)
  | default : named = [] → (∀ q, ¬ Common structures q) → PackageOf named structures "model"

theorem packageWord_eq (t : Text) : packageWord t = Text.lower (t.filter (Glyph.satisfies Unicode.isWordChar)) := by
  induction t with
  | nil => rfl
  | cons g t ih =>
    unfold packageWord Text.lower at ih ⊢
    cases g with
    | stray b => exact ih
    | char c =>
      cases hc : Unicode.isWordChar c with
      | true =>
        have hfilter : Glyph.satisfies Unicode.isWordChar (.char c) = true := hc
        rw [List.filter_cons_of_pos hfilter, List.map_cons, ← ih]
        exact List.filterMap_cons_some (if_pos hc)
      | false =>
        have hfilter : ¬ Glyph.satisfies Unicode.isWordChar (.char c) = true := by simp [Glyph.satisfies, hc]
        rw [List.filter_cons_of_neg hfilter, ← ih]
        exact List.filterMap_cons_none (if_neg hfilter)

theorem isPackageWord_iff (t : Text) :
    isPackageWord t = true ↔ t.head?.any (Glyph.satisfies Unicode.isLetter) = true ∧ t ∉ keywords := by
  unfold isPackageWord isKeyword
  rw [Bool.and_eq_true]
  refine and_congr ?_ (by simp)
  cases t with
  | nil => simp
  | cons g t => cases g <;> simp [Glyph.satisfies]

theorem namespaceWord_congr {p q : QName} (h : p.dotted = q.dotted) : namespaceWord p = namespaceWord q := by
  unfold namespaceWord
  rw [QName.shortName_eq h]

theorem PackageOf.unique {named : Text} {structures : List Structure} {s : Structure} (hs : s ∈ structures) {p p' : Text}
    (h : PackageOf named structures p) (h' : PackageOf named structures p') : p = p' := by
  cases h with
  | named hne =>
    cases h' with
    | named => rfl
    | common q' hnil => exact absurd hnil hne
    | default hnil => exact absurd hnil hne
  | common q hnil hq =>
    cases h' with
    | named hne => exact absurd hnil hne
    | common q' _ hq' => exact namespaceWord_congr ((hq.shared s hs).symm.trans (hq'.shared s hs))
    | default _ hnone => exact absurd hq (hnone q)
  | default hnil hnone =>
    cases h' with
    | named hne => exact absurd hnil hne
    | common q' _ hq' => exact absurd hq' (hnone q')
    | default => rfl

/-- Only what all structures of the run have in common is asked of the others. -/
theorem all_others_iff {structures : List Structure} {q : QName} :
    ((Catalogue.ofList structures).entries.all fun other => other.name.parent.same q) = true ↔
      ∀ s ∈ structures, s.name.parent.dotted = q.dotted := by
  simp only [List.all_eq_true, QName.same_iff]
  constructor
  · intro h s hs
    obtain ⟨s', hs', hkey⟩ := Catalogue.exists_mem_ofList hs
    exact (QName.parent_congr hkey.symm).trans (h s' hs')
  · intro h s hs
    exact h s (Catalogue.mem_of_mem_ofList hs)

theorem common_iff {structures : List Structure} {s : Structure} (hs : s ∈ structures) {q : QName} :
    Common structures q ↔ s.name.parent.dotted ≠ [] ∧ q.dotted = s.name.parent.dotted ∧
      ((Catalogue.ofList structures).entries.all fun other => other.name.parent.same s.name.parent) = true ∧
        isPackageWord (packageWord s.name.parent.shortName) = true := by
  rw [all_others_iff, packageWord_eq, isPackageWord_iff]
  constructor
  · intro h
    have hq : q.dotted = s.name.parent.dotted := (h.shared s hs).symm
    have hword := namespaceWord_congr hq
    unfold namespaceWord at hword
    refine ⟨hq ▸ h.given, hq, fun t ht => (h.shared t ht).trans hq, ?_, ?_⟩
    · rw [← hword]
      exact h.letter
    · rw [← hword]
      exact h.free
  · rintro ⟨hgiven, hq, hshared, hletter, hfree⟩
    have hword := namespaceWord_congr hq
    refine ⟨hq ▸ hgiven, fun t ht => (hshared t ht).trans hq.symm, ?_, ?_⟩
    · rw [hword]
      exact hletter
    · rw [hword]
      exact hfree

theorem packageOf_packageName (o : Options) {scope : Scope} {structures : List Structure}
    (hscope : scope.selected = some (.ofList structures)) {s : Structure} (hs : s ∈ structures) :
    PackageOf o.package structures (packageName o scope s) := by
  unfold packageName Structure.package?
  by_cases hnamed : o.package = []
  · rw [if_neg (by simpa using hnamed), hscope]
    by_cases hempty : s.name.parent.dotted = []
    · have hisEmpty : s.name.parent.isEmpty = true := by simp [QName.isEmpty, hempty]
      rw [if_pos hisEmpty]
      exact .default hnamed fun q hq => ((common_iff hs).1 hq).1 hempty
    · have hisEmpty : ¬ s.name.parent.isEmpty = true := by simpa [QName.isEmpty] using hempty
      rw [if_neg hisEmpty]
      simp only [Option.map_some, Option.getD_some, Bool.and_eq_true]
      split
      · rename_i hrule
        rw [packageWord_eq]
        exact .common s.name.parent hnamed ((common_iff hs).2 ⟨hempty, rfl, hrule⟩)
      · rename_i hrule
        exact .default hnamed fun q hq => hrule ((common_iff hs).1 hq).2.2
  · rw [if_pos hnamed]
    exact .named hnamed

theorem exists_packageOf (named : Text) (structures : List Structure) : ∃ p, PackageOf named structures p := by
  by_cases hnamed : named = []
  · by_cases hcommon : ∃ q, Common structures q
    · obtain ⟨q, hq⟩ := hcommon
      exact ⟨_, .common q hnamed hq⟩
    · exact ⟨_, .default hnamed fun q hq => hcommon ⟨q, hq⟩⟩
  · exact ⟨_, .named hnamed⟩

theorem isNameStart_of_letter {g : Glyph} (h : g.satisfies Unicode.isLetter = true) :
    Declaration.isNameStart g = true := by
  cases g with
  | stray b => cases h
  | char c =>
    have hletter : Unicode.isLetter c = true := h
    simp [Declaration.isNameStart, Glyph.satisfies, hletter]

theorem isNamePart_of_mem_word {q : QName} {g : Glyph} (h : g ∈ namespaceWord q) : Declaration.isNamePart g = true := by
  obtain ⟨g', hg', rfl⟩ := List.mem_map.1 h
  have hword := (List.mem_filter.1 hg').2
  cases g' with
  | stray b => cases hword
  | char c =>
    have hlower : Unicode.isWordChar (Unicode.toLower c) = true := Unicode.isWordChar_toLower hword
    unfold Unicode.isWordChar at hlower
    simp only [Declaration.isNamePart, Glyph.satisfies, Bool.or_assoc, hlower, Bool.or_true]

/-- The package of a run has a proper name, unless the user gives it another one. -/
theorem PackageOf.isName {named : Text} {structures : List Structure} {p : Text} (h : PackageOf named structures p)
    (hnamed : named = [] ∨ Declaration.isName named = true) : Declaration.isName p = true := by
  cases h with
  | named hne => exact hnamed.resolve_left hne
  | common q _ hq =>
    have hstart : (namespaceWord q).head?.any Declaration.isNameStart = true := by
      obtain ⟨g, hg, hletter⟩ := (Option.any_eq_true _ _).1 hq.letter
      exact (Option.any_eq_true _ _).2 ⟨g, hg, isNameStart_of_letter hletter⟩
    have hall : (namespaceWord q).all Declaration.isNamePart = true :=
      List.all_eq_true.2 fun g hg => isNamePart_of_mem_word hg
    have hfree : isKeyword (namespaceWord q) = false := by simpa [isKeyword] using hq.free
    unfold Declaration.isName
    rw [hstart, hall, hfree]
    rfl
  | default => decide

theorem keepsClause_plain : KeepsClause .plain some := by
  refine ⟨fun p _ => rfl, fun path f text h => ?_⟩
  cases h
  exact ⟨_, rfl, clause_prefix_text f⟩

/-- Standard layout leaves out the blanks around a name. -/
theorem keepsClause_standard : KeepsClause .standard Declaration.packageName? :=
  ⟨fun _ => Declaration.packageName?_of_isName, fun _ _ _ => clause_prefix_format?⟩

/-- All files of a run have the same package clause. It names the package that the user asked for, or else the package
that the common namespace of all structures gives, or else `model`. A formatter that leaves files their clauses leaves
them this one, unless the user asked for something that is no name. -/
theorem one_package (o : Options) (inherited : Bool) (outDir : Text) (structures : List Structure)
    (c : Option Catalogue) :
    let scope := Scope.ofRun inherited structures c
    ∃ p, PackageOf o.package structures p ∧
      (∀ s ∈ structures, (File.of o scope s).package = p ∧ clause p <+: render o scope (.structure s)) ∧
      ∀ (format : Formatter) (clauseName? : Text → Option Text), KeepsClause format clauseName? →
        let job : Job := ⟨.go o, format, outDir, inherited⟩
        (o.package = [] ∨ Declaration.isName o.package = true → clauseName? p = some p) ∧
        ∀ f ∈ job.plan structures c, ∀ text, f.text = some text →
          ∃ name, clauseName? p = some name ∧ clause name <+: text := by
  intro scope
  obtain ⟨p, hp⟩ := exists_packageOf o.package structures
  have hpackage : ∀ s ∈ structures, (File.of o scope s).package = p :=
    fun s hs => (packageOf_packageName o rfl hs).unique hs hp
  refine ⟨p, hp, fun s hs => ⟨hpackage s hs, ?_⟩, fun format clauseName? hformat => ⟨fun hnamed => ?_, ?_⟩⟩
  · rw [← hpackage s hs]
    exact clause_prefix_text _
  · exact hformat.of_isName p (hp.isName hnamed)
  · intro f hf text htext
    obtain ⟨s, hs, rfl⟩ := List.mem_map.1 hf
    rw [← hpackage s hs]
    exact hformat.begins _ _ _ htext

def webApi : List Structure :=
  [.make .klass (.ofText "app.Web-Api.User") .unset [], .make .iface (.ofText "app.Web-Api.Role") .unset []]

theorem webApi_package :
    let job : Job := ⟨.go ⟨[.builtins], []⟩, .standard, "out", false⟩
    ∀ s ∈ webApi, (File.of ⟨[.builtins], []⟩ (job.scope webApi none) s).package = Text.ofString "webapi" ∧
      ∀ f ∈ job.plan webApi none, ∀ text, f.text = some text → clause "webapi" <+: text := by
  intro job s hs
  obtain ⟨p, hp, hpackage, hformat⟩ := one_package ⟨[.builtins], []⟩ false "out" webApi none
  have hcommon : Common webApi (.ofText "app.Web-Api") := ⟨by decide, by decide, by decide, by decide⟩
  have hname : p = Text.ofString "webapi" := (hp.unique hs (.common _ rfl hcommon)).trans (by decide)
  refine ⟨(hpackage s hs).1.trans hname, fun f hf text htext => ?_⟩
  obtain ⟨hnamed, hclause⟩ := hformat _ _ keepsClause_standard
  obtain ⟨name, hread, hbegins⟩ := hclause f hf text htext
  rw [hnamed (.inl rfl)] at hread
  cases hread
  exact hname ▸ hbegins

end Go

end Stencil
