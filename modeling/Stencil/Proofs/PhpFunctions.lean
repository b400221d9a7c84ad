import Mathlib.Data.List.Nodup
import Stencil.Proofs.Locality
import Stencil.Proofs.PhpImports
import Stencil.Proofs.WrittenLines

/-!
# Functions of PHP files

A file declares one function for every method that its structure has or inherits, in their order (`functionNames_file`).
Nothing is left out when two of them have the same name, so that a function may be declared twice;
`functions_distinct_iff` says exactly when none is.
-/

namespace Stencil.Php

open Text (unlines unlines_append)

/-! ## Reading the functions of a text -/

def functionName? (line : Text) : Option Text :=
  let keyword := Text.ofString "    public function "
  if keyword.isPrefixOf line then (Text.cut? '(' (line.drop keyword.length)).map Prod.fst else none

def functionNames (t : Text) : List Text := (t.split '\n').filterMap functionName?

theorem functionNames_unlines {ls : List Text} (h : ∀ l ∈ ls, .char '\n' ∉ l) :
    functionNames (unlines ls) = ls.filterMap functionName? := by
  rw [functionNames, Text.split_unlines h, List.filterMap_append]
  exact List.append_nil _

theorem functionName?_function {name : Text} (h : .char '(' ∉ name) (rest : Text) :
    functionName? ("    public function " ++ name ++ "(" ++ rest) = some name := by
  unfold functionName?
  rw [List.append_assoc, List.append_assoc, if_pos (List.isPrefixOf_iff_prefix.2 (List.prefix_append ..)),
    List.drop_left]
  exact congrArg (Option.map Prod.fst) (Text.cut?_append h rest)

/-! ## The lines of a file -/

def fileLines (rules : List TypeRule) (inherited : Option Catalogue) (s : Structure) : List Text :=
  let methods := s.methodsIn inherited
  let is := imports s methods
  preambleLines s ++ useTexts is ++ declarationLines rules (localName is) s methods

theorem file_eq (rules : List TypeRule) (inherited : Option Catalogue) (s : Structure) :
    file rules inherited s = unlines (fileLines rules inherited s) := by
  simp only [file, fileLines, preamble_eq, useLines_eq, declaration_eq, unlines_append]

/-! ## The lines that declare functions -/

theorem filterMap_preambleLines (s : Structure) : (preambleLines s).filterMap functionName? = [] := by
  unfold preambleLines
  cases s.package? with
  | none => rfl
  | some q => rfl

theorem filterMap_useTexts (is : List Import) : (useTexts is).filterMap functionName? = [] := by
  apply List.filterMap_eq_nil_iff.2
  intro line hline
  rcases List.mem_append.1 hline with hline | hline
  · obtain ⟨i, _, rfl⟩ := List.mem_map.1 hline
    unfold useText
    cases i.alias? with
    | none => rfl
    | some name => rfl
  · split at hline
    · cases hline
    · rw [List.mem_singleton.1 hline]
      rfl

section
variable (rules : List TypeRule) (nameOf : QName → Text)

theorem filterMap_commentLines (m : Method) : (commentLines rules nameOf m).filterMap functionName? = [] := by
  apply List.filterMap_eq_nil_iff.2
  intro line hline
  simp only [commentLines, List.mem_append, List.mem_cons, List.mem_map, List.not_mem_nil, or_false] at hline
  rcases hline with ((rfl | rfl | rfl | rfl) | ⟨p, _, rfl⟩) | rfl | rfl
  · rfl
  · rfl
  · rfl
  · rfl
  · rfl
  · rfl
  · rfl

theorem functionName?_functionText {m : Method} (h : .char '(' ∉ m.name) (ending : Text) :
    functionName? (functionText rules nameOf m ++ ending) = some m.name := by
  unfold functionText
  rw [List.append_assoc, List.append_assoc]
  exact functionName?_function h _

theorem filterMap_methodLines (inClass : Bool) {m : Method} (h : .char '(' ∉ m.name) :
    (methodLines rules nameOf inClass m).filterMap functionName? = [m.name] := by
  unfold methodLines functionLines
  rw [List.filterMap_append, filterMap_commentLines, List.nil_append]
  cases inClass with
  | false =>
    exact List.filterMap_cons_some (functionName?_functionText rules nameOf h _)
  | true =>
    have hfunction := functionName?_functionText rules nameOf h []
    rw [List.append_nil] at hfunction
    exact List.filterMap_cons_some hfunction

theorem filterMap_declarationLines (s : Structure) {methods : List Method} (h : ∀ m ∈ methods, .char '(' ∉ m.name) :
    (declarationLines rules nameOf s methods).filterMap functionName? = methods.map Method.name := by
  have hheading : functionName? (heading nameOf s) = none := by
    unfold heading
    cases s.kind with
    | klass => rfl
    | iface => rfl
  have hopen : functionName? "\x7b" = none := rfl
  have hclose : functionName? "\x7d" = none := rfl
  have hmethods : (methods.flatMap (methodLines rules nameOf !s.isInterface)).filterMap functionName? =
      methods.map Method.name := by
    clear hheading hopen hclose
    induction methods with
    | nil => rfl
    | cons m methods ih =>
      rw [List.flatMap_cons, List.filterMap_append, filterMap_methodLines rules nameOf _ (h m (by simp)),
        ih fun m' hm' => h m' (List.mem_cons_of_mem _ hm')]
      rfl
  unfold declarationLines
  rw [List.filterMap_append, List.filterMap_append, hmethods, List.filterMap_cons_none hheading,
    List.filterMap_cons_none hopen, List.filterMap_cons_none hclose]
  simp

end

/-! ## Lines without breaks -/

/-- Nothing that is written in the file of `s` breaks a line, and no method has a parenthesis in its name. -/
structure IsPlain (rules : List TypeRule) (s : Structure) (ms : List Method) : Prop where
  name : .char '\n' ∉ s.name.dotted
  supertypes : ∀ q ∈ s.supertypes, .char '\n' ∉ q.dotted
  methods : ∀ m ∈ ms, m.name.FreeOf ['\n', '(']
  params : ∀ m ∈ ms, ∀ p ∈ m.params, .char '\n' ∉ p.name
  returns : ∀ m ∈ ms, .char '\n' ∉ m.returns.text
  types : ∀ m ∈ ms, ∀ p ∈ m.params, .char '\n' ∉ p.type.text
  replacements : ∀ rule ∈ rules, ∀ t text, rule.replacement? t = some text → .char '\n' ∉ text

section
variable {rules : List TypeRule} {nameOf : QName → Text}
  (hrules : ∀ rule ∈ rules, ∀ t text, rule.replacement? t = some text → .char '\n' ∉ text)
include hrules

theorem newline_not_mem_typeName {t : TypeRef} (ht : .char '\n' ∉ t.text)
    (hname : ∀ q ∈ t.references, .char '\n' ∉ nameOf q) : .char '\n' ∉ typeName rules nameOf t := by
  unfold typeName TypeRule.resolve
  cases hfind : rules.findSome? (·.replacement? t) with
  | some text =>
    obtain ⟨rule, hrule, htext⟩ := List.exists_of_findSome?_eq_some hfind
    exact hrules rule hrule t text htext
  | none =>
    cases t with
    | builtin tag => exact ht
    | named q => exact hname q (List.mem_singleton.2 rfl)

theorem newline_not_mem_param {p : Param} (hp : .char '\n' ∉ p.name) (ht : .char '\n' ∉ p.type.text)
    (hname : ∀ q ∈ p.type.references, .char '\n' ∉ nameOf q) : .char '\n' ∉ param rules nameOf p := by
  have htype := newline_not_mem_typeName hrules ht hname
  unfold param
  cases hpt : p.type with
  | builtin tag => simp [Text.ofString, hp]
  | named q =>
    rw [hpt] at htype
    cases p.isArray with
    | true => simp [Text.ofString, hp]
    | false => simp [Text.ofString, hp, htype]

theorem newline_not_mem_methodLines (inClass : Bool) {m : Method} (hm : .char '\n' ∉ m.name)
    (hps : ∀ p ∈ m.params, .char '\n' ∉ p.name) (hret : .char '\n' ∉ m.returns.text)
    (hts : ∀ p ∈ m.params, .char '\n' ∉ p.type.text) (hname : ∀ q ∈ m.references, .char '\n' ∉ nameOf q) :
    ∀ line ∈ methodLines rules nameOf inClass m, .char '\n' ∉ line := by
  have hnames : ∀ p ∈ m.params, ∀ q ∈ p.type.references, .char '\n' ∉ nameOf q := fun p hp q hq =>
    hname q (List.mem_append_right _ (List.mem_flatMap.2 ⟨p, hp, hq⟩))
  have hreturn : .char '\n' ∉ typeName rules nameOf m.returns :=
    newline_not_mem_typeName hrules hret fun q hq => hname q (List.mem_append_left _ hq)
  have hparams : .char '\n' ∉ Text.join ", " (m.params.map (param rules nameOf)) := by
    refine Text.not_mem_join (by decide) (List.forall_mem_map.2 ?_)
    intro p hp
    exact newline_not_mem_param hrules (hps p hp) (hts p hp) (hnames p hp)
  intro line hline
  simp only [methodLines, commentLines, List.mem_append, List.mem_cons, List.mem_map, List.not_mem_nil,
    or_false] at hline
  rcases hline with ((((rfl | rfl | rfl | rfl) | ⟨p, hp, rfl⟩) | rfl | rfl) | hline)
  · decide
  · decide
  · simp [Text.ofString, hm]
  · decide
  · have htype := newline_not_mem_typeName hrules (hts p hp) (hnames p hp)
    cases hb : p.isArray <;> simp [paramText, Text.ofString, hb, hps p hp, htype]
  · simp [Text.ofString, hreturn]
  · decide
  · have hfunction : .char '\n' ∉ functionText rules nameOf m := by
      simpa [functionText, Text.ofString, hm] using hparams
    cases inClass with
    | false =>
      rw [List.mem_singleton.1 hline]
      simp [Text.ofString, hfunction]
    | true =>
      simp only [functionLines, if_true, List.mem_cons, List.not_mem_nil, or_false] at hline
      rcases hline with rfl | rfl | rfl
      · exact hfunction
      · decide
      · decide

end

theorem newline_not_mem_namespaced {q : QName} (h : .char '\n' ∉ q.dotted) : .char '\n' ∉ namespaced q := by
  unfold namespaced QName.joined
  rw [if_neg (by decide)]
  exact Text.not_mem_join (by decide) fun t ht hmem => h (QName.mem_dotted_of_mem_segment ht hmem)

theorem newline_not_mem_parent {q : QName} (h : .char '\n' ∉ q.dotted) : .char '\n' ∉ q.parent.dotted := by
  rw [QName.parent_dotted, QName.dotted_ofText]
  have hjoin : .char '\n' ∉ Text.join "." q.segments.dropLast :=
    Text.not_mem_join (by decide) fun t ht hmem =>
      h (QName.mem_dotted_of_mem_segment ((List.dropLast_sublist _).subset ht) hmem)
  intro hmem
  rcases QName.mem_of_mem_normalize hmem with hmem | hdot
  · exact hjoin hmem
  · exact absurd hdot (by decide)

section
variable {rules : List TypeRule} {inherited : Option Catalogue} {s : Structure}
  (h : IsPlain rules s (s.methodsIn inherited))
include h

theorem newline_not_mem_reference {q : QName}
    (hq : q ∈ s.supertypes ++ (s.methodsIn inherited).flatMap Method.references) : .char '\n' ∉ q.dotted := by
  have htype : ∀ {t : TypeRef}, .char '\n' ∉ t.text → q ∈ t.references → .char '\n' ∉ q.dotted := by
    intro t ht hq
    cases t with
    | builtin tag => cases hq
    | named p => rwa [List.mem_singleton.1 hq]
  rcases List.mem_append.1 hq with hq | hq
  · exact h.supertypes q hq
  · obtain ⟨m, hm, hq⟩ := List.mem_flatMap.1 hq
    rcases List.mem_append.1 hq with hq | hq
    · exact htype (h.returns m hm) hq
    · obtain ⟨p, hp, hq⟩ := List.mem_flatMap.1 hq
      exact htype (h.types m hm p hp) hq

theorem newline_not_mem_import {i : Import} (hi : i ∈ imports s (s.methodsIn inherited)) :
    .char '\n' ∉ i.name.dotted ∧ .char '\n' ∉ i.localName := by
  obtain ⟨q, hq, rfl⟩ := List.mem_map.1 hi
  rw [imported_methodsIn] at hq
  have hdotted := newline_not_mem_reference h (Keyed.mem_of_mem_distinct QName.dotted hq).1
  refine ⟨hdotted, ?_⟩
  simp only
  split
  · exact Text.not_mem_join (by decide) fun t ht hmem => hdotted (QName.mem_dotted_of_mem_segment ht hmem)
  · exact fun hmem => hdotted (QName.mem_dotted_of_mem_shortName hmem)

theorem newline_not_mem_localName {q : QName}
    (hq : q ∈ s.supertypes ++ (s.methodsIn inherited).flatMap Method.references) :
    .char '\n' ∉ localName (imports s (s.methodsIn inherited)) q := by
  unfold localName
  split
  · rename_i i hi
    exact (newline_not_mem_import h (List.mem_of_find?_eq_some hi)).2
  · exact fun hmem => newline_not_mem_reference h hq (QName.mem_dotted_of_mem_shortName hmem)

theorem newline_not_mem_preambleLines : ∀ line ∈ preambleLines s, .char '\n' ∉ line := by
  have hnamespace := newline_not_mem_namespaced (newline_not_mem_parent h.name)
  unfold preambleLines Structure.package?
  split
  · rename_i q hq
    split at hq
    · cases hq
    · cases hq
      simp [Text.ofString, hnamespace]
  · simp [Text.ofString]

theorem newline_not_mem_useTexts :
    ∀ line ∈ useTexts (imports s (s.methodsIn inherited)), .char '\n' ∉ line := by
  intro line hline
  rcases List.mem_append.1 hline with hline | hline
  · obtain ⟨i, hi, rfl⟩ := List.mem_map.1 hline
    obtain ⟨hname, hlocal⟩ := newline_not_mem_import h hi
    have hnamespaced := newline_not_mem_namespaced hname
    unfold useText Import.alias?
    by_cases halias : i.localName = i.name.shortName
    · simp [halias, Text.ofString, hnamespaced]
    · simp [halias, Text.ofString, hnamespaced, hlocal]
  · split at hline
    · cases hline
    · rw [List.mem_singleton.1 hline]
      simp

theorem newline_not_mem_heading : .char '\n' ∉ heading (localName (imports s (s.methodsIn inherited))) s := by
  have hshort : .char '\n' ∉ s.shortName := fun hmem => h.name (QName.mem_dotted_of_mem_shortName hmem)
  have hnames : ∀ q ∈ s.supertypes, .char '\n' ∉ localName (imports s (s.methodsIn inherited)) q :=
    fun q hq => newline_not_mem_localName h (List.mem_append_left _ hq)
  have hinterfaces : .char '\n' ∉
      Text.join ", " (s.interfaces.map (localName (imports s (s.methodsIn inherited)))) := by
    refine Text.not_mem_join (by decide) (List.forall_mem_map.2 ?_)
    intro q hq
    exact hnames q (List.mem_append_right _ hq)
  have hclause : .char '\n' ∉ Text.when (s.interfaces ≠ []) (" implements " ++
      Text.join ", " (s.interfaces.map (localName (imports s (s.methodsIn inherited))))) := by
    unfold Text.when
    split
    · rw [List.mem_append, not_or]
      exact ⟨by decide, hinterfaces⟩
    · simp
  unfold heading
  cases s.kind with
  | iface => simp [Text.ofString, hshort]
  | klass =>
    cases hbase : s.base with
    | none =>
      simp only [List.mem_append, not_or]
      exact ⟨⟨⟨by decide, hshort⟩, by simp⟩, hclause⟩
    | some q =>
      have hq := hnames q (List.mem_append_left _ (by simp [hbase]))
      simp only [List.mem_append, not_or]
      exact ⟨⟨⟨by decide, hshort⟩, by decide, hq⟩, hclause⟩

theorem newline_not_mem_fileLines : ∀ line ∈ fileLines rules inherited s, .char '\n' ∉ line := by
  have hmethods : ∀ m ∈ s.methodsIn inherited, ∀ line ∈
      methodLines rules (localName (imports s (s.methodsIn inherited))) (!s.isInterface) m, .char '\n' ∉ line := by
    intro m hm
    apply newline_not_mem_methodLines h.replacements _ (h.methods m hm '\n' (by simp)) (h.params m hm) (h.returns m hm)
      (h.types m hm)
    intro q hq
    exact newline_not_mem_localName h (List.mem_append_right _ (List.mem_flatMap.2 ⟨m, hm, hq⟩))
  intro line hline
  simp only [fileLines, declarationLines, List.mem_append, List.mem_cons, List.mem_flatMap, List.not_mem_nil,
    or_false] at hline
  rcases hline with (hline | hline) | ((rfl | rfl) | ⟨m, hm, hline⟩) | rfl
  · exact newline_not_mem_preambleLines h line hline
  · exact newline_not_mem_useTexts h line hline
  · exact newline_not_mem_heading h
  · decide
  · exact hmethods m hm line hline
  · decide

/-- A file declares the functions of all methods, own and inherited, in their order. -/
theorem functionNames_file : functionNames (file rules inherited s) = (s.methodsIn inherited).map Method.name := by
  have hparen : ∀ m ∈ s.methodsIn inherited, .char '(' ∉ m.name := fun m hm => h.methods m hm '(' (by simp)
  rw [file_eq, functionNames_unlines (newline_not_mem_fileLines h)]
  unfold fileLines
  simp only [List.filterMap_append, filterMap_preambleLines, filterMap_useTexts,
    filterMap_declarationLines _ _ s hparen, List.nil_append]

end

/-! ## Functions that are declared once -/

/-- The structures whose methods the file of `s` shows: `s` itself, then its base and its interfaces as far as they are
known, each as often as it is named. -/
def shown (inherited : Option Catalogue) (s : Structure) : List Structure :=
  s :: s.supertypes.filterMap fun q => inherited.bind (·.get? q)

theorem methodsIn_eq_flatMap (inherited : Option Catalogue) (s : Structure) :
    s.methodsIn inherited = (shown inherited s).flatMap Structure.methods := by
  cases inherited with
  | none => simp [shown, Structure.methodsIn]
  | some c => rfl

/-- No function is declared twice exactly if all methods of every structure that is shown have different names, and no
two of these structures have methods with the same name. -/
theorem functions_distinct_iff {rules : List TypeRule} {inherited : Option Catalogue} {s : Structure}
    (h : IsPlain rules s (s.methodsIn inherited)) :
    (functionNames (file rules inherited s)).Nodup ↔
      (∀ t ∈ shown inherited s, (t.methods.map Method.name).Nodup) ∧
        (shown inherited s).Pairwise fun t u => ∀ m ∈ t.methods, ∀ n ∈ u.methods, m.name ≠ n.name := by
  rw [functionNames_file h, methodsIn_eq_flatMap, List.map_flatMap, List.nodup_flatMap]
  refine and_congr_right fun _ => ?_
  constructor
  · intro hpairs
    refine hpairs.imp fun hdisjoint m hm n hn heq => ?_
    exact hdisjoint (List.mem_map_of_mem hm) (heq ▸ List.mem_map_of_mem hn)
  · intro hpairs
    refine hpairs.imp fun hdiff name ht hu => ?_
    obtain ⟨m, hm, hmname⟩ := List.mem_map.1 ht
    obtain ⟨n, hn, hnname⟩ := List.mem_map.1 hu
    exact hdiff m hm n hn (hmname.trans hnname.symm)

def stack : List Structure :=
  [{ name := .ofText "app.Base", kind := .klass, base := none, interfaces := [],
     methods := [⟨"open", .void, []⟩, ⟨"run", .void, [⟨.ofText "int", "times", false⟩]⟩] },
   { name := .ofText "app.Closes", kind := .iface, base := none, interfaces := [],
     methods := [⟨"close", .ofText "app.Base", []⟩] },
   { name := .ofText "app.Door", kind := .klass, base := some (.ofText "app.Base"),
     interfaces := [.ofText "app.Closes"], methods := [⟨"knock", .void, [⟨.ofText "app.Door", "at", true⟩]⟩] },
   { name := .ofText "app.Gate", kind := .klass, base := some (.ofText "app.Base"), interfaces := [],
     methods := [⟨"open", .void, []⟩] }]

theorem door_functions_distinct :
    let door := stack[2]
    IsPlain [] door (door.methodsIn (some ⟨stack⟩)) ∧ (functionNames (file [] (some ⟨stack⟩) door)).Nodup := by
  intro door
  have hplain : IsPlain [] door (door.methodsIn (some ⟨stack⟩)) := by
    refine ⟨?_, ?_, ?_, ?_, ?_, ?_, ?_⟩
    · decide
    · decide
    · decide
    · decide
    · decide
    · decide
    · simp
  exact ⟨hplain, (functions_distinct_iff hplain).2 (by decide)⟩

/-- A class that overrides a method of its base declares the function twice. -/
theorem functions_not_distinct :
    ¬ ∀ (rules : List TypeRule) (inherited : Option Catalogue) (s : Structure),
      (functionNames (file rules inherited s)).Nodup := by
  intro hall
  have hgate := hall [] (some ⟨stack⟩) stack[3]
  exact absurd hgate (by decide +kernel)

end Stencil.Php
