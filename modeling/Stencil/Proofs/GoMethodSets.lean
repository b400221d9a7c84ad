import Mathlib.Logic.Relation
import Stencil.Generation
import Stencil.Proofs.Catalogues
import Stencil.Proofs.GoPlainFiles

/-!
# Method sets of Go types

An interface type has the methods it declares and those of the interface types it embeds. The walk over the supertypes
leaves out what is embedded, and passes over what it has seen; together the two ways miss no method of a supertype,
whatever the graph of supertypes looks like.
-/

namespace Stencil

open Relation

/-- `t` is what a catalogue knows under the name of one of the supertypes of `s`. -/
def Catalogue.Supertype (c : Catalogue) (s t : Structure) : Prop := ∃ q ∈ s.supertypes, c.get? q = some t

namespace Go

/-! ## The walk over the supertypes -/

section
variable {c : Catalogue}

theorem reachable_visited {visited : List Text} {q : QName} (hq : q.dotted ∈ visited) (qs : List QName) :
    reachable c visited (q :: qs) = reachable c visited qs := by
  rw [reachable, dif_pos hq]

theorem reachable_unknown {visited : List Text} {q : QName} (hq : q.dotted ∉ visited) (h : c.get? q = none)
    (qs : List QName) : reachable c visited (q :: qs) = reachable c (q.dotted :: visited) qs := by
  rw [reachable, dif_neg hq]
  split
  · rfl
  · rename_i s hs
    rw [h] at hs
    cases hs

theorem reachable_known {visited : List Text} {q : QName} {s : Structure} (hq : q.dotted ∉ visited)
    (h : c.get? q = some s) (qs : List QName) :
    reachable c visited (q :: qs) = s :: reachable c (q.dotted :: visited) (s.supertypes ++ qs) := by
  rw [reachable, dif_neg hq]
  split
  · rename_i hnone
    rw [h] at hnone
    cases hnone
  · rename_i s' hs
    rw [h] at hs
    cases hs
    rfl

theorem reachable_sound {visited : List Text} {qs : List QName} {t : Structure} (h : t ∈ reachable c visited qs) :
    ∃ q ∈ qs, ∃ s, c.get? q = some s ∧ ReflTransGen c.Supertype s t := by
  fun_induction reachable c visited qs with
  | case1 => cases h
  | case2 visited q qs hq ih =>
    obtain ⟨p, hp, hs⟩ := ih h
    exact ⟨p, List.mem_cons_of_mem _ hp, hs⟩
  | case3 visited q qs hq hnone ih =>
    obtain ⟨p, hp, hs⟩ := ih h
    exact ⟨p, List.mem_cons_of_mem _ hp, hs⟩
  | case4 visited q qs hq s hs ih =>
    rcases List.mem_cons.1 h with rfl | h
    · exact ⟨q, List.mem_cons_self .., t, hs, .refl⟩
    · obtain ⟨p, hp, s', hs', hpath⟩ := ih h
      rcases List.mem_append.1 hp with hp | hp
      · exact ⟨q, List.mem_cons_self .., s, hs, .head ⟨p, hp, hs'⟩ hpath⟩
      · exact ⟨p, List.mem_cons_of_mem _ hp, s', hs', hpath⟩

/-- Every name that was not visited before is followed. -/
theorem mem_reachable {visited : List Text} {qs : List QName} {q : QName} {t : Structure} (hq : q ∈ qs)
    (hv : q.dotted ∉ visited) (ht : c.get? q = some t) : t ∈ reachable c visited qs := by
  fun_induction reachable c visited qs with
  | case1 => cases hq
  | case2 visited p qs hp ih =>
    rcases List.mem_cons.1 hq with rfl | hq
    · exact absurd hp hv
    · exact ih hq hv
  | case3 visited p qs hp hnone ih =>
    have hne := Catalogue.dotted_ne_of_get? hnone ht
    rcases List.mem_cons.1 hq with rfl | hq
    · exact absurd rfl hne
    · exact ih hq (by simp [hne, hv])
  | case4 visited p qs hp s hs ih =>
    by_cases heq : q.dotted = p.dotted
    · rw [Catalogue.eq_of_get? heq hs ht]
      exact List.mem_cons_self ..
    · rcases List.mem_cons.1 hq with rfl | hq
      · exact absurd rfl heq
      · exact List.mem_cons_of_mem _ (ih (List.mem_append_right _ hq) (by simp [heq, hv]))

/-- The walk ends with the supertypes of all that it found. -/
theorem reachable_closed {visited : List Text} {qs : List QName} {s t : Structure} (hs : s ∈ reachable c visited qs)
    {q : QName} (hq : q ∈ s.supertypes) (hv : q.dotted ∉ visited) (ht : c.get? q = some t) :
    t ∈ reachable c visited qs := by
  fun_induction reachable c visited qs with
  | case1 => cases hs
  | case2 visited p qs hp ih => exact ih hs hv
  | case3 visited p qs hp hnone ih =>
    have hne := Catalogue.dotted_ne_of_get? hnone ht
    exact ih hs (by simp [hne, hv])
  | case4 visited p qs hp u hu ih =>
    by_cases heq : q.dotted = p.dotted
    · rw [Catalogue.eq_of_get? heq hu ht]
      exact List.mem_cons_self ..
    · have hv' : q.dotted ∉ p.dotted :: visited := by simp [heq, hv]
      apply List.mem_cons_of_mem
      rcases List.mem_cons.1 hs with rfl | hs
      · exact mem_reachable (List.mem_append_left _ hq) hv' ht
      · exact ih hs hv'

/-- The structures whose methods are collected for `s`: itself, and what its supertypes lead to, but for those in
`skip`. -/
def walked (c : Catalogue) (skip : List Text) (s : Structure) : List Structure :=
  s :: reachable c [s.name.dotted] (s.supertypes.filter fun q => q.dotted ∉ skip)

theorem methodSet_eq_walked (skip : List Text) (s : Structure) :
    methodSet (some c) skip s = (walked c skip s).flatMap Structure.methods := rfl

theorem walked_sound {skip : List Text} {s t : Structure} (h : t ∈ walked c skip s) :
    ReflTransGen c.Supertype s t := by
  rcases List.mem_cons.1 h with rfl | h
  · exact .refl
  · obtain ⟨q, hq, u, hu, hpath⟩ := reachable_sound h
    exact .head ⟨q, List.mem_of_mem_filter hq, hu⟩ hpath

/-- A supertype of a structure that was walked is walked too, unless it is a direct one to be left out. -/
theorem walked_step {skip : List Text} {s t u : Structure} (hself : c.get? s.name = some s) (ht : t ∈ walked c skip s)
    {q : QName} (hq : q ∈ t.supertypes) (hu : c.get? q = some u) (hskip : t = s → q.dotted ∉ skip) :
    u ∈ walked c skip s := by
  by_cases hown : q.dotted = s.name.dotted
  · rw [Catalogue.eq_of_get? hown hself hu]
    exact List.mem_cons_self ..
  · have hv : q.dotted ∉ [s.name.dotted] := by simpa using hown
    apply List.mem_cons_of_mem
    rcases List.mem_cons.1 ht with rfl | ht
    · exact mem_reachable (List.mem_filter.2 ⟨hq, by simpa using hskip rfl⟩) hv hu
    · exact reachable_closed ht hq hv hu

end

/-! ## Embedding -/

/-- The type of `s` embeds the type of `t`. -/
def Embeds (scope : Scope) (s t : Structure) : Prop := ∃ q ∈ embedded scope s, scope.selected? q = some t

theorem mem_embedded {scope : Scope} {s : Structure} {q : QName} (h : q ∈ embedded scope s) :
    q ∈ s.supertypes ∧ ∃ sup, scope.selected? q = some sup ∧ sup.kind = s.kind := by
  obtain ⟨hq, hkind⟩ := List.mem_filter.1 (Keyed.mem_of_mem_distinct QName.dotted h).1
  refine ⟨?_, ?_⟩
  · split at hq
    · exact hq
    · exact List.mem_append_left _ hq
  · cases hsel : scope.selected? q with
    | none => simp [hsel] at hkind
    | some sup => exact ⟨sup, rfl, by simpa [hsel] using hkind⟩

theorem Embeds.kind_eq {scope : Scope} {s t : Structure} (h : Embeds scope s t) : t.kind = s.kind := by
  obtain ⟨q, hq, ht⟩ := h
  obtain ⟨_, sup, hsup, hkind⟩ := mem_embedded hq
  rw [ht] at hsup
  cases hsup
  exact hkind

theorem methodNames_of (o : Options) (scope : Scope) (s : Structure) :
    (File.of o scope s).methodNames = (declared scope s).map fun m => exported m.name := by
  simp [File.methodNames, File.of, Function.comp_def]

/-- The methods of all structures that are collected for `s` are declared, but in a class none with the name of a type
that it embeds. -/
theorem mem_methodNames (o : Options) {scope : Scope} {c : Catalogue} (hc : scope.inherited = some c) {s : Structure}
    {name : Text} :
    name ∈ (File.of o scope s).methodNames ↔
      (∃ t ∈ walked c ((embedded scope s).map QName.dotted) s, ∃ m ∈ t.methods, exported m.name = name) ∧
        (s.isInterface = false → ∀ q ∈ embedded scope s, exported q.shortName ≠ name) := by
  have hdeclared : declared scope s = Keyed.distinct (fun m => exported m.name)
      (if s.isInterface then [] else (embedded scope s).map fun q => exported q.shortName)
      ((walked c ((embedded scope s).map QName.dotted) s).flatMap Structure.methods) := by
    simp only [declared, hc, methodSet_eq_walked]
  rw [methodNames_of, hdeclared, Keyed.mem_map_key_distinct fun m : Method => exported m.name]
  refine and_congr ?_ ?_
  · simp only [List.mem_map, List.mem_flatMap]
    constructor
    · rintro ⟨m, ⟨t, ht, hm⟩, hname⟩
      exact ⟨t, ht, m, hm, hname⟩
    · rintro ⟨t, ht, m, hm, hname⟩
      exact ⟨m, ⟨t, ht, hm⟩, hname⟩
  · cases s.isInterface <;> simp

theorem mem_methodNames_of_interface (o : Options) {scope : Scope} {c : Catalogue} (hc : scope.inherited = some c)
    {s : Structure} (hs : s.isInterface = true) {name : Text} :
    name ∈ (File.of o scope s).methodNames ↔
      ∃ t ∈ walked c ((embedded scope s).map QName.dotted) s, ∃ m ∈ t.methods, exported m.name = name := by
  rw [mem_methodNames o hc]
  simp [hs]

/-! ## Runs -/

theorem dotted_of_selected? {scope : Scope} {q : QName} {t : Structure} (h : scope.selected? q = some t) :
    t.name.dotted = q.dotted := by
  obtain ⟨c, _, hget⟩ := Option.bind_eq_some_iff.1 h
  exact Catalogue.key_of_get? hget

theorem mem_of_selected? {scope : Scope} {structures : List Structure}
    (hscope : scope.selected = some (.ofList structures)) {q : QName} {t : Structure}
    (h : scope.selected? q = some t) : t ∈ structures := by
  unfold Scope.selected? at h
  rw [hscope] at h
  have hget : (Catalogue.ofList structures).get? q = some t := h
  exact Catalogue.mem_of_mem_ofList (List.mem_of_find?_eq_some hget)

section
variable {job : Job} {structures : List Structure} {c : Catalogue} (hmem : ∀ s ∈ structures, c.get? s.name = some s)
include hmem

theorem selected?_sound {q : QName} {t : Structure} (h : (job.scope structures (some c)).selected? q = some t) :
    t ∈ structures ∧ c.get? q = some t := by
  have ht : t ∈ structures := mem_of_selected? rfl h
  exact ⟨ht, (c.get?_congr (dotted_of_selected? h).symm).trans (hmem t ht)⟩

theorem Embeds.supertype {s t : Structure} (h : Embeds (job.scope structures (some c)) s t) : c.Supertype s t := by
  obtain ⟨q, hq, ht⟩ := h
  exact ⟨q, (mem_embedded hq).1, (selected?_sound hmem ht).2⟩

/-- Whatever a type embeds is written in the same run, and is of the same kind. -/
theorem mem_of_embeds {x t : Structure} (hx : x ∈ structures)
    (h : ReflTransGen (Embeds (job.scope structures (some c))) x t) : t ∈ structures ∧ t.kind = x.kind := by
  induction h with
  | refl => exact ⟨hx, rfl⟩
  | tail _ hstep ih =>
    refine ⟨?_, hstep.kind_eq.trans ih.2⟩
    obtain ⟨q, _, ht⟩ := hstep
    exact (selected?_sound hmem ht).1

theorem interface_of_embeds {x t : Structure} (hx : x ∈ structures) (hi : x.isInterface = true)
    (h : ReflTransGen (Embeds (job.scope structures (some c))) x t) : t ∈ structures ∧ t.isInterface = true := by
  obtain ⟨ht, hkind⟩ := mem_of_embeds hmem hx h
  refine ⟨ht, ?_⟩
  unfold Structure.isInterface at hi ⊢
  rw [hkind, hi]

/-- Every structure that supertypes lead to is walked for a type that is embedded, if the catalogue knows these types
under their own names. A step to a supertype stays in the walk it started from, unless it goes to a type that is
embedded; there a new walk begins. -/
theorem exists_walked_of_known (job : Job) {x t : Structure}
    (hknown : ∀ w, ReflTransGen (Embeds (job.scope structures (some c))) x w → c.get? w.name = some w)
    (h : ReflTransGen c.Supertype x t) :
    ∃ w, ReflTransGen (Embeds (job.scope structures (some c))) x w ∧
      t ∈ walked c ((embedded (job.scope structures (some c)) w).map QName.dotted) w := by
  induction h with
  | refl => exact ⟨x, .refl, List.mem_cons_self ..⟩
  | @tail t u _ hstep ih =>
    obtain ⟨w, hw, ht⟩ := ih
    obtain ⟨q, hq, hu⟩ := hstep
    by_cases hemb : t = w ∧ q.dotted ∈ (embedded (job.scope structures (some c)) w).map QName.dotted
    · obtain ⟨rfl, hemb⟩ := hemb
      obtain ⟨p, hp, hpq⟩ := List.mem_map.1 hemb
      obtain ⟨_, v, hv, _⟩ := mem_embedded hp
      have huv : u = v := Catalogue.eq_of_get? hpq.symm (selected?_sound hmem hv).2 hu
      exact ⟨u, hw.tail ⟨p, hp, huv ▸ hv⟩, List.mem_cons_self ..⟩
    · exact ⟨w, hw, walked_step (hknown w hw) ht hq hu fun heq hskip => hemb ⟨heq, hskip⟩⟩

theorem exists_walked (job : Job) {x t : Structure} (hx : x ∈ structures) (hi : x.isInterface = true)
    (h : ReflTransGen c.Supertype x t) :
    ∃ w, ReflTransGen (Embeds (job.scope structures (some c))) x w ∧
      t ∈ walked c ((embedded (job.scope structures (some c)) w).map QName.dotted) w :=
  exists_walked_of_known hmem job (fun w hw => hmem w (interface_of_embeds hmem hx hi hw).1) h

end

/-- In a run with inherited methods, an interface that is written has exactly the methods of all structures that its
supertypes lead to: its type declares them, or one of the types that it embeds, and that these embed, and so on. All of
these are interface types that the run writes, and their texts are what they embed and declare, line by line. Where
nothing in the catalogue breaks a line, the texts can be read again, and it is their methods that are complete. -/
theorem interface_methods_complete (o : Options) (format : Formatter) (outDir : Text) {structures : List Structure}
    {c : Catalogue} (hmem : ∀ s ∈ structures, c.get? s.name = some s) {x : Structure} (hx : x ∈ structures)
    (hi : x.isInterface = true) :
    let job : Job := ⟨.go o, format, outDir, true⟩
    let scope := job.scope structures (some c)
    let file := File.of o scope
    let text (t : Structure) := render o scope (.structure t)
    let item (t : Text) : Text := "\t" ++ t
    (job.plan structures (some c) = structures.map fun s => ⟨s.name, job.path s, format (job.path s) (file s)⟩) ∧
      (∀ t, ReflTransGen (Embeds scope) x t →
        t ∈ structures ∧ t.isInterface = true ∧ (file t).text = text t ∧
          text t = Text.unlines ((file t).openingLines ++
            (("type " ++ exported t.shortName ++ " interface \x7b") ::
              ((embedded scope t).map (fun q => exported q.shortName) ++
                (declared scope t).map fun m => exported m.name ++ (Profile.of o scope m).written).map item ++
              [Text.ofString "\x7d"]) ++ [[]])) ∧
      (∀ name, (∃ t, ReflTransGen (Embeds scope) x t ∧ name ∈ (file t).methodNames) ↔
        ∃ t, ReflTransGen c.Supertype x t ∧ ∃ m ∈ t.methods, exported m.name = name) ∧
      (o.IsPlain → (∀ t ∈ c.entries, IsPlain t) →
        (∀ t, ReflTransGen (Embeds scope) x t →
          embeddedTypes (text t) = (embedded scope t).map fun q => exported q.shortName) ∧
        ∀ name, (∃ t, ReflTransGen (Embeds scope) x t ∧ name ∈ declaredNames (text t)) ↔
          ∃ t, ReflTransGen c.Supertype x t ∧ ∃ m ∈ t.methods, exported m.name = name) := by
  intro job scope file text item
  have hc : scope.inherited = some c := rfl
  have hiface : ∀ t, ReflTransGen (Embeds scope) x t → t ∈ structures ∧ t.isInterface = true :=
    fun t ht => interface_of_embeds hmem hx hi ht
  have hnames : ∀ name, (∃ t, ReflTransGen (Embeds scope) x t ∧ name ∈ (file t).methodNames) ↔
      ∃ t, ReflTransGen c.Supertype x t ∧ ∃ m ∈ t.methods, exported m.name = name := by
    refine fun name => ⟨?_, ?_⟩
    · rintro ⟨w, hw, hname⟩
      obtain ⟨t, ht, hm⟩ := (mem_methodNames_of_interface o hc (hiface w hw).2).1 hname
      have hsuper : ReflTransGen c.Supertype x w := ReflTransGen.mono (fun _ _ hstep => hstep.supertype hmem) _ _ hw
      exact ⟨t, hsuper.trans (walked_sound ht), hm⟩
    · rintro ⟨t, ht, hm⟩
      obtain ⟨w, hw, htw⟩ := exists_walked hmem job hx hi ht
      exact ⟨w, hw, (mem_methodNames_of_interface o hc (hiface w hw).2).2 ⟨t, htw, hm⟩⟩
  refine ⟨rfl, fun t ht => ⟨(hiface t ht).1, (hiface t ht).2, rfl, ?_⟩, hnames, fun ho hplain => ?_⟩
  · exact render_interface o scope (hiface t ht).2
  · have hread : ∀ t, ReflTransGen (Embeds scope) x t → (file t).IsPlain := by
      intro t ht
      have hentries : t ∈ c.entries := List.mem_of_find?_eq_some (hmem t (hiface t ht).1)
      refine File.isPlain_of ho (hplain t hentries) fun c' hc' => ?_
      cases hc'
      exact hplain
    refine ⟨fun t ht => (hread t ht).embeddedTypes_text, fun name => ?_⟩
    rw [← hnames]
    refine exists_congr fun t => and_congr_right fun ht => ?_
    rw [← (hread t ht).declaredNames_text]
    rfl

def looped : List Structure :=
  [(Structure.make .iface (.ofText "A") (.ofText "B") [.ofText "K"]).addMethod ⟨"run", .void, []⟩,
    (Structure.make .iface (.ofText "B") (.ofText "A") []).addMethod ⟨"stop", .void, []⟩,
    .make .klass (.ofText "K") (.ofText "L") [],
    (Structure.make .klass (.ofText "L") .unset []).addMethod ⟨"halt", .void, []⟩]

/-- The method of the last class reaches the second interface, although neither class is written. -/
theorem looped_methods :
    let c := Catalogue.ofList looped
    let written := looped.take 2
    let o : Options := ⟨[.builtins], []⟩
    let scope := Job.scope ⟨.go o, .standard, [], true⟩ written (some c)
    (∀ s ∈ written, c.get? s.name = some s) ∧ looped[1] ∈ written ∧ looped[1].isInterface = true ∧ o.IsPlain ∧
      (∀ t ∈ c.entries, IsPlain t) ∧
      ∃ t, ReflTransGen (Embeds scope) looped[1] t ∧
        Text.ofString "Halt" ∈ declaredNames (render o scope (.structure t)) := by
  intro c written o scope
  have hmem : ∀ s ∈ written, c.get? s.name = some s := by decide
  have hx : looped[1] ∈ written := by decide
  have hi : looped[1].isInterface = true := by decide
  have hBA : c.Supertype looped[1] looped[0] := ⟨.ofText "A", by decide, by decide⟩
  have hAK : c.Supertype looped[0] looped[2] := ⟨.ofText "K", by decide, by decide⟩
  have hKL : c.Supertype looped[2] looped[3] := ⟨.ofText "L", by decide, by decide⟩
  have ho : o.IsPlain := Options.isPlain_builtins (by simp)
  have hplain : ∀ t ∈ c.entries, IsPlain t := by decide
  refine ⟨hmem, hx, hi, ho, hplain, ?_⟩
  exact (((interface_methods_complete o .standard [] hmem hx hi).2.2.2 ho hplain).2 _).2
    ⟨looped[3], .head hBA (.head hAK (.single hKL)), ⟨"halt", .void, []⟩, by decide, by decide⟩

end Go

end Stencil
