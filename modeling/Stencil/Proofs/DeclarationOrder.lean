import Stencil.Proofs.GoMethodSets
import Stencil.Proofs.Locality
import Stencil.Proofs.Passages

/-!
# The order of declarations

An outline is a row of passages, each of them a header with the lines below it. Whatever the order of the passages, the
same files are written, and only the order of writing follows. Targets look up structures by their names; the one place
where Go goes through all of them asks for something that all have to fulfil.
-/

namespace Stencil

/-! ## Catalogues that differ in order only -/

structure Catalogue.Same (c c' : Catalogue) : Prop where
  perm : c.entries.Perm c'.entries
  distinct : c.entries.Pairwise fun s t => key s ≠ key t

theorem Catalogue.Same.get? {c c' : Catalogue} (h : c.Same c') (q : QName) : c.get? q = c'.get? q :=
  Keyed.get?_perm key h.distinct h.perm q.dotted

theorem Catalogue.same_ofList {l l' : List Structure} (h : l.Perm l')
    (hl : l.Pairwise fun s t => key s ≠ key t) : (ofList l).Same (ofList l') := by
  have hl' : l'.Pairwise fun s t => key s ≠ key t := (h.pairwise_iff fun hne => Ne.symm hne).1 hl
  refine ⟨?_, ?_⟩
  · rw [entries_ofList hl, entries_ofList hl']
    exact h
  · rw [entries_ofList hl]
    exact hl

section
variable {x y : Option Catalogue} (h : Option.Rel Catalogue.Same x y)
include h

theorem Catalogue.bind_get?_same (q : QName) : (x.bind fun c => c.get? q) = y.bind fun c => c.get? q := by
  cases h with
  | some hc => exact hc.get? q
  | none => rfl

theorem Catalogue.all_has_same (q : QName) : (x.all fun c => c.has q) = y.all fun c => c.has q := by
  cases h with
  | some hc => simp [has, hc.get? q]
  | none => rfl

theorem Catalogue.all_entries_same (p : Structure → Bool) :
    ((x.map entries).getD []).all p = ((y.map entries).getD []).all p := by
  cases h with
  | some hc => exact hc.perm.all_eq
  | none => rfl

end

structure Scope.Same (a b : Scope) : Prop where
  selected : Option.Rel Catalogue.Same a.selected b.selected
  inherited : Option.Rel Catalogue.Same a.inherited b.inherited

theorem Scope.Same.selected? {a b : Scope} (h : a.Same b) (q : QName) : a.selected? q = b.selected? q :=
  Catalogue.bind_get?_same h.selected q

theorem Scope.Same.isWritten {a b : Scope} (h : a.Same b) (q : QName) : a.isWritten q = b.isWritten q :=
  Catalogue.all_has_same h.selected q

theorem Scope.Same.methods? {a b : Scope} (h : a.Same b) (q : QName) : a.methods? q = b.methods? q :=
  congrArg (Option.map Structure.methods) (Catalogue.bind_get?_same h.inherited q)

/-! ## Go files -/

namespace Go

theorem reachable_congr {c c' : Catalogue} (h : ∀ q, c.get? q = c'.get? q) (visited : List Text) (qs : List QName) :
    reachable c visited qs = reachable c' visited qs := by
  fun_induction reachable c visited qs with
  | case1 => rw [reachable]
  | case2 visited q qs hq ih => rw [reachable_visited hq, ih]
  | case3 visited q qs hq hnone ih => rw [reachable_unknown hq (h q ▸ hnone), ih]
  | case4 visited q qs hq s hs ih => rw [reachable_known hq (h q ▸ hs), ih]

theorem methodSet_same {x y : Option Catalogue} (h : Option.Rel Catalogue.Same x y) (skip : List Text)
    (s : Structure) : methodSet x skip s = methodSet y skip s := by
  unfold methodSet
  cases h with
  | some hc => simp only [reachable_congr hc.get?]
  | none => rfl

section
variable {a b : Scope} (h : a.Same b)
include h

theorem typeName_same (o : Options) (t : TypeRef) : typeName o a t = typeName o b t := by
  unfold typeName
  split
  · rfl
  · rfl
  · rw [h.isWritten]

theorem profile_same (o : Options) (m : Method) : Profile.of o a m = Profile.of o b m := by
  have hparam : ParamStub.of o a = ParamStub.of o b := by
    funext name p
    unfold ParamStub.of
    rw [typeName_same h]
  unfold Profile.of
  rw [hparam, typeName_same h]

theorem packageName_same (o : Options) (s : Structure) : packageName o a s = packageName o b s := by
  unfold packageName
  simp only [Catalogue.all_entries_same h.selected]

theorem embedded_same (s : Structure) : embedded a s = embedded b s := by
  unfold embedded
  simp only [h.selected?]

theorem asserted_same (s : Structure) : asserted a s = asserted b s := by
  have hnone : ∀ {x y : Option Catalogue}, Option.Rel Catalogue.Same x y → x.isNone = y.isNone := by
    rintro _ _ (_ | _) <;> rfl
  unfold asserted
  simp only [h.selected?, hnone h.inherited]

theorem declared_same (s : Structure) : declared a s = declared b s := by
  unfold declared
  simp only [embedded_same h, methodSet_same h.inherited]

/-- A Go file depends on the structures of the run and of the catalogue, and not on their order. -/
theorem file_same (o : Options) (s : Structure) : File.of o a s = File.of o b s := by
  unfold File.of
  simp only [packageName_same h, embedded_same h, asserted_same h, declared_same h, profile_same h]

end

end Go

theorem Target.render_same {a b : Scope} (h : a.Same b) (target : Target) (s : Structure) :
    target.render a (.structure s) = target.render b (.structure s) := by
  cases target with
  | go o =>
    simp only [render, Go.render]
    rw [Go.file_same h]
  | php rules => exact render_congr_of_local (fun q _ => h.methods? q) (by simp)
  | yaml => exact render_congr_of_local (fun q _ => h.methods? q) (by simp)

/-! ## Runs -/

section
variable {c c' : Catalogue} (h : c.Same c')
include h

theorem Selection.select_same (sel : Selection) : (sel.select c).Perm (sel.select c') := by
  rw [select_eq_filter, select_eq_filter]
  exact h.perm.filter _

theorem Job.scope_same (job : Job) (sel : Selection) :
    (job.scope (sel.select c) (some c)).Same (job.scope (sel.select c') (some c')) := by
  have hdistinct : (sel.select c).Pairwise fun s t => Catalogue.key s ≠ Catalogue.key t := by
    rw [Selection.select_eq_filter]
    exact h.distinct.filter _
  refine ⟨.some (Catalogue.same_ofList (sel.select_same h) hdistinct), ?_⟩
  unfold scope Scope.ofRun
  cases job.inherited with
  | true => exact .some h
  | false => exact .none

end

open Outline

/-- Two outlines with the same passages in different orders hold the same structures, and a run on either of them writes
the same files, one for each structure that is selected. -/
theorem order_irrelevant (target : Target) (outDir : Text) (inherited : Bool) (sel : Selection) {ps ps' : List Passage}
    (hperm : ps.Perm ps') (hdistinct : ps.Pairwise fun p q => p.declared.name.dotted ≠ q.declared.name.dotted) :
    let job : Job := ⟨target, .plain, outDir, inherited⟩
    let chosen := sel.select (read (source ps)).catalogue
    let chosen' := sel.select (read (source ps')).catalogue
    let result : Except GenerationError Unit := if chosen = [] then .error .nothing else .ok ()
    (read (source ps)).catalogue.entries = ps.map Passage.built ∧
      (read (source ps')).catalogue.entries = ps'.map Passage.built ∧
      ∃ file : Structure → Text × Text,
        job.written sel (source ps) = (chosen.map file, result) ∧
        job.written sel (source ps') = (chosen'.map file, result) ∧
        (chosen.map file).Perm (chosen'.map file) := by
  intro job chosen chosen' result
  have hdistinct' : ps'.Pairwise fun p q => p.declared.name.dotted ≠ q.declared.name.dotted :=
    (hperm.pairwise_iff fun hne => Ne.symm hne).1 hdistinct
  have hentries := entries_source hdistinct
  have hentries' := entries_source hdistinct'
  have hsame : (read (source ps)).catalogue.Same (read (source ps')).catalogue := by
    refine ⟨?_, ?_⟩
    · rw [hentries, hentries']
      exact hperm.map _
    · rw [hentries, List.pairwise_map]
      simpa only [Passage.key_built] using hdistinct
  have hchosen : chosen.Perm chosen' := sel.select_same hsame
  have hnil : chosen' = [] ↔ chosen = [] := by
    constructor
    · intro h
      exact List.perm_nil.1 (h ▸ hchosen)
    · intro h
      exact List.nil_perm.1 (h ▸ hchosen)
  have hplain : job.IsPlain := .inl rfl
  refine ⟨hentries, hentries', _, Job.written_of_isPlain hplain sel (source ps), ?_, hchosen.map _⟩
  rw [Job.written_of_isPlain hplain]
  simp only [Target.render_same (job.scope_same hsame sel)]
  exact Prod.ext rfl (if_congr hnil rfl rfl)

def derivedPassage : Passage where
  header := "class app.Job extends app.Base\r"
  body := ["  app.Base run(app.Job[] after)\r", "# no more", ""]
  declared := .make .klass (.ofText "app.Job") (.ofText "app.Base") []
  unbroken := by decide
  isHeader := by decide
  accepted := by decide
  below := by decide

def basePassage : Passage where
  header := "class app.Base"
  body := ["  void stop()"]
  declared := .make .klass (.ofText "app.Base") .unset []
  unbroken := by decide
  isHeader := by decide
  accepted := by decide
  below := by decide

/-- The reference may come before the declaration or after it. -/
theorem forward_reference_written :
    let job : Job := ⟨.go ⟨[.builtins], []⟩, .plain, "out", true⟩
    [derivedPassage, basePassage].Perm [basePassage, derivedPassage] ∧
      ([derivedPassage, basePassage].Pairwise fun p q => p.declared.name.dotted ≠ q.declared.name.dotted) ∧
      source [derivedPassage, basePassage] ≠ source [basePassage, derivedPassage] ∧
      (job.written ⟨[]⟩ (source [derivedPassage, basePassage])).1.Perm
        (job.written ⟨[]⟩ (source [basePassage, derivedPassage])).1 := by
  intro job
  have hperm : [derivedPassage, basePassage].Perm [basePassage, derivedPassage] := .swap ..
  have hdistinct : [derivedPassage, basePassage].Pairwise fun p q =>
      p.declared.name.dotted ≠ q.declared.name.dotted := by decide
  obtain ⟨_, _, file, hfirst, hsecond, hfiles⟩ :=
    order_irrelevant (.go ⟨[.builtins], []⟩) "out" true ⟨[]⟩ hperm hdistinct
  refine ⟨hperm, hdistinct, by decide, ?_⟩
  rw [hfirst, hsecond]
  exact hfiles

end Stencil
