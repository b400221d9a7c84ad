import Mathlib.Data.List.Basic
import Stencil.Target.Go
import Stencil.Text.Lemmas

/-!
# Go files as lines

What the text of a Go file says can be read off its lines: the types that its type embeds, the interfaces that are
asserted, and the signatures of the methods that it declares. A plain file, in which nothing breaks a line and no
parenthesis stands in a name, has exactly those that it was made of.
-/

namespace Stencil.Go

open Text (unlines unlines_append unlines_flatMap unlines_cons unlines_breaks split_unlines)

/-! ## The lines of a file -/

def ParamStub.written (p : ParamStub) : Text := p.name ++ " " ++ (if p.isArray then "[]" else "") ++ p.type

def Profile.written (p : Profile) : Text :=
  let result : Text := match p.result with
    | some t => " " ++ t
    | none => ""
  "(" ++ Text.join ", " (p.params.map ParamStub.written) ++ ")" ++ result

namespace File

def openingLines (f : File) : List Text :=
  ["// Code generated by prototype. DO NOT EDIT.", "", "package " ++ f.package, "",
    "// " ++ f.name ++ " is generated from " ++ f.origin ++ "."]

def typeLines (f : File) (opening : Text) (signatures : List Text) : List Text :=
  -- what is embedded comes first, then the methods that an interface type has
  let item (t : Text) : Text := "\t" ++ t
  ("type " ++ f.name ++ opening) :: (f.embeds ++ signatures).map item ++ [Text.ofString "\x7d"]

def assertionLines (f : File) (interface : Text) : List Text :=
  ["", "var _ " ++ interface ++ " = (*" ++ f.name ++ ")(nil)"]

def functionLines (f : File) (m : MethodStub) : List Text :=
  ["", "func (" ++ m.receiver ++ " *" ++ f.name ++ ") " ++ m.name ++ m.profile.written ++ " \x7b",
    "\tpanic(\"not implemented\")", "\x7d"]

def lines (f : File) : List Text :=
  f.openingLines ++
    (match f.kind with
      | .iface => f.typeLines " interface \x7b" (f.methods.map fun m => m.name ++ m.profile.written)
      | .klass =>
        f.typeLines " struct \x7b" [] ++ f.asserts.flatMap f.assertionLines ++ f.methods.flatMap f.functionLines) ++
    [[]]

end File

theorem Profile.text_eq (p : Profile) : p.text = p.written := by
  have hparam : ParamStub.text = ParamStub.written := by
    funext q
    unfold ParamStub.text ParamStub.written Text.when
    cases q.isArray <;> rfl
  unfold Profile.text written
  rw [hparam]
  cases p.result <;> rfl

theorem MethodStub.signature_eq : MethodStub.signature = fun m => m.name ++ m.profile.written := by
  funext m
  rw [signature, Profile.text_eq]

theorem unlines_typeLines (f : File) (opening : Text) (signatures : List Text) :
    let item (t : Text) : Text := "\n\t" ++ t
    unlines (f.typeLines opening signatures) =
      ("type " : Text) ++ f.name ++ opening ++ f.embeds.flatMap item ++ signatures.flatMap item ++
        "\n\x7d\n" := by
  unfold File.typeLines
  rw [List.cons_append, unlines_breaks]
  simp [Text.ofString, List.flatMap_append, List.flatMap_map]

theorem File.text_eq (f : File) : f.text = unlines f.lines := by
  unfold File.text lines
  rw [unlines_append, unlines_append]
  cases f.kind with
  | iface =>
    simp only [unlines_typeLines, MethodStub.signature_eq]
    simp [openingLines, unlines, Text.ofString]
  | klass =>
    simp only [unlines_append, unlines_flatMap, unlines_typeLines, MethodStub.signature_eq]
    simp [openingLines, assertionLines, functionLines, unlines, Text.ofString]

theorem MethodStub.open_mem_signature (m : MethodStub) : .char '(' ∈ m.signature := by
  simp [signature, Profile.text, Text.ofString]

theorem render_structure (o : Options) (scope : Scope) (s : Structure) :
    render o scope (.structure s) = unlines (File.of o scope s).lines :=
  File.text_eq _

theorem render_interface (o : Options) (scope : Scope) {s : Structure} (h : s.isInterface = true) :
    let item (t : Text) : Text := "\t" ++ t
    render o scope (.structure s) = unlines ((File.of o scope s).openingLines ++
      (("type " ++ exported s.shortName ++ " interface \x7b") ::
        ((embedded scope s).map (fun q => exported q.shortName) ++
          (declared scope s).map fun m => exported m.name ++ (Profile.of o scope m).written).map item ++
        [Text.ofString "\x7d"]) ++ [[]]) := by
  have hkind : s.kind = .iface := by simpa [Structure.isInterface] using h
  rw [render_structure, File.lines]
  simp only [File.of, File.typeLines, hkind, List.map_map]
  rfl

/-! ## Reading a text -/

def after? (start line : Text) : Option Text :=
  if start.isPrefixOf line then some (line.drop start.length) else none

def opensType (line : Text) : Bool := (Text.ofString "type ").isPrefixOf line

/-- What stands between the braces of the type that a text declares, line by line. -/
def typeItems (t : Text) : List Text :=
  ((((t.split '\n').dropWhile fun l => !opensType l).drop 1).takeWhile fun l => l ≠ Text.ofString "\x7d").filterMap
    (after? "\t")

def embeddedTypes (t : Text) : List Text := (typeItems t).filter fun item => .char '(' ∉ item

def assertedType? (line : Text) : Option Text :=
  (after? "var _ " line).bind fun rest => (rest.cut? ' ').map Prod.fst

def assertedTypes (t : Text) : List Text := (t.split '\n').filterMap assertedType?

def functionSignature? (line : Text) : Option Text :=
  (after? "func (" line).bind fun rest =>
    (rest.cut? ')').bind fun (_, rest) =>
      (after? " " rest).bind (Text.dropEnd? " \x7b")

def declaredSignatures (t : Text) : List Text :=
  -- signatures in an interface type have parentheses, and embedded types have none
  ((typeItems t).filter fun item => .char '(' ∈ item) ++ (t.split '\n').filterMap functionSignature?

def File.methodNames (f : File) : List Text := f.methods.map MethodStub.name

def declaredNames (t : Text) : List Text := (declaredSignatures t).map fun s => s.takeWhile (· ≠ .char '(')

theorem after?_append (start rest : Text) : after? start (start ++ rest) = some rest := by
  unfold after?
  rw [if_pos (List.isPrefixOf_iff_prefix.2 (List.prefix_append ..)), List.drop_left]

/-- A file in which nothing breaks a line, and no parenthesis stands where it would end a name. -/
structure File.IsPlain (f : File) : Prop where
  package : .char '\n' ∉ f.package
  name : f.name.FreeOf ['\n', ')']
  origin : .char '\n' ∉ f.origin
  embeds : ∀ t ∈ f.embeds, t.FreeOf ['\n', '(']
  asserts : ∀ t ∈ f.asserts, t.FreeOf ['\n', ' ']
  receivers : ∀ m ∈ f.methods, m.receiver.FreeOf ['\n', ')']
  methods : ∀ m ∈ f.methods, m.name.FreeOf ['\n', '(']
  profiles : ∀ m ∈ f.methods, .char '\n' ∉ m.profile.text

namespace File

variable {f : File}

section
variable (h : f.IsPlain)
include h

theorem IsPlain.written {m : MethodStub} (hm : m ∈ f.methods) : .char '\n' ∉ m.profile.written :=
  Profile.text_eq m.profile ▸ h.profiles m hm

theorem newline_not_mem_typeLines (opening : Text) (hopening : .char '\n' ∉ opening) {signatures : List Text}
    (hsignatures : ∀ t ∈ signatures, .char '\n' ∉ t) : ∀ l ∈ f.typeLines opening signatures, .char '\n' ∉ l := by
  have hname := h.name '\n' (by simp)
  have hembeds := fun t ht => h.embeds t ht '\n' (by simp)
  intro l hl
  simp only [typeLines, List.mem_cons, List.mem_append, List.mem_map, List.not_mem_nil, or_false] at hl
  rcases hl with (rfl | ⟨t, ht | ht, rfl⟩) | rfl
  · simp [Text.ofString, hname, hopening]
  · simp [Text.ofString, hembeds t ht]
  · simp [Text.ofString, hsignatures t ht]
  · decide

theorem newline_not_mem_lines : ∀ l ∈ f.lines, .char '\n' ∉ l := by
  have hname := h.name '\n' (by simp)
  have hopening : ∀ l ∈ f.openingLines, .char '\n' ∉ l := by
    simp [openingLines, Text.ofString, h.package, hname, h.origin]
  have hmethods : ∀ m ∈ f.methods, .char '\n' ∉ m.name ++ m.profile.written := by
    intro m hm
    simp [h.methods m hm '\n' (by simp), h.written hm]
  have hasserts : ∀ t ∈ f.asserts, ∀ l ∈ f.assertionLines t, .char '\n' ∉ l := by
    intro t ht
    simp [assertionLines, Text.ofString, h.asserts t ht '\n' (by simp), hname]
  have hfunctions : ∀ m ∈ f.methods, ∀ l ∈ f.functionLines m, .char '\n' ∉ l := by
    intro m hm
    have hm' := hmethods m hm
    simp only [List.mem_append, not_or] at hm'
    simp [functionLines, Text.ofString, h.receivers m hm '\n' (by simp), hname, hm']
  intro l hl
  rcases List.mem_append.1 hl with hl | hl
  · rcases List.mem_append.1 hl with hl | hl
    · exact hopening l hl
    · cases hkind : f.kind with
      | iface =>
        rw [hkind] at hl
        exact newline_not_mem_typeLines h _ (by decide) (List.forall_mem_map.2 hmethods) l hl
      | klass =>
        rw [hkind] at hl
        simp only [List.mem_append, List.mem_flatMap] at hl
        rcases hl with (hl | ⟨t, ht, hl⟩) | ⟨m, hm, hl⟩
        · exact newline_not_mem_typeLines h _ (by decide) (by simp) l hl
        · exact hasserts t ht l hl
        · exact hfunctions m hm l hl
  · rw [List.mem_singleton.1 hl]
    exact List.not_mem_nil

theorem split_text : f.text.split '\n' = f.lines ++ [[]] := by
  rw [text_eq, split_unlines (newline_not_mem_lines h)]

end

end File

/-! ## What a plain file says -/

theorem typeItems_of_lines {f : File} {t opening : Text} {signatures rest : List Text}
    (h : t.split '\n' = f.openingLines ++ (f.typeLines opening signatures ++ rest)) :
    typeItems t = f.embeds ++ signatures := by
  have hopening : ∀ l ∈ f.openingLines, (!opensType l) = true := by
    simp [File.openingLines, opensType, Text.ofString, List.isPrefixOf]
  have htype : opensType ("type " ++ f.name ++ opening) = true := by
    simp [opensType, Text.ofString, List.isPrefixOf]
  have hinside : ∀ l ∈ (f.embeds ++ signatures).map (fun t => ("\t" : Text) ++ t),
      decide (l ≠ Text.ofString "\x7d") = true := by
    intro l hl
    obtain ⟨t, _, rfl⟩ := List.mem_map.1 hl
    simp [Text.ofString]
  have hitems : ((f.embeds ++ signatures).map fun t => ("\t" : Text) ++ t).filterMap (after? "\t") =
      f.embeds ++ signatures := by
    simp [List.filterMap_map, after?_append]
  unfold typeItems
  rw [h, List.dropWhile_append_of_pos hopening, File.typeLines, List.cons_append, List.cons_append,
    List.dropWhile_cons_of_neg (p := fun l => !opensType l) (by rw [htype]; decide), List.drop_one, List.tail_cons,
    List.append_assoc, List.takeWhile_append_of_pos hinside, List.singleton_append, List.takeWhile_cons_of_neg (by simp),
    List.append_nil, hitems]

theorem eq_none_of_mem_openingLines {f : File} {l : Text} (hl : l ∈ f.openingLines) :
    functionSignature? l = none ∧ assertedType? l = none := by
  simp only [File.openingLines, List.mem_cons, List.not_mem_nil, or_false] at hl
  rcases hl with rfl | rfl | rfl | rfl | rfl
  · exact ⟨rfl, rfl⟩
  · exact ⟨rfl, rfl⟩
  · exact ⟨rfl, rfl⟩
  · exact ⟨rfl, rfl⟩
  · exact ⟨rfl, rfl⟩

theorem eq_none_of_mem_typeLines {f : File} {opening : Text} {signatures : List Text} {l : Text}
    (hl : l ∈ f.typeLines opening signatures) : functionSignature? l = none ∧ assertedType? l = none := by
  simp only [File.typeLines, List.mem_append, List.mem_cons, List.mem_map, List.not_mem_nil, or_false] at hl
  rcases hl with (rfl | ⟨t, _, rfl⟩) | rfl
  · exact ⟨rfl, rfl⟩
  · exact ⟨rfl, rfl⟩
  · exact ⟨rfl, rfl⟩

theorem functionSignature?_function {f : File} {m : MethodStub} (hreceiver : .char ')' ∉ m.receiver)
    (hname : .char ')' ∉ f.name) (signature : Text) :
    functionSignature? ("func (" ++ m.receiver ++ " *" ++ f.name ++ ") " ++ signature ++ " \x7b") = some signature := by
  let head : Text := m.receiver ++ " *" ++ f.name
  let tail : Text := signature ++ " \x7b"
  have hsplit : ("func (" ++ m.receiver ++ " *" ++ f.name ++ ") " ++ signature ++ " \x7b" : Text) =
      Text.ofString "func (" ++ (head ++ .char ')' :: (Text.ofString " " ++ tail)) := by
    simp [head, tail, Text.ofString]
  have hhead : .char ')' ∉ head := by simp [head, Text.ofString, hreceiver, hname]
  unfold functionSignature?
  rw [hsplit, after?_append, Option.bind_some, Text.cut?_append hhead, Option.bind_some]
  simp only [after?_append, Option.bind_some]
  exact Text.dropEnd?_append ..

theorem assertedType?_assertion {t : Text} (h : .char ' ' ∉ t) (rest : Text) :
    assertedType? ("var _ " ++ t ++ " " ++ rest) = some t := by
  have hsplit : ("var _ " ++ t ++ " " ++ rest : Text) = Text.ofString "var _ " ++ (t ++ .char ' ' :: rest) := by
    simp [Text.ofString]
  unfold assertedType?
  rw [hsplit, after?_append, Option.bind_some, Text.cut?_append h]
  rfl

namespace File.IsPlain

variable {f : File}

theorem typeItems_text (h : f.IsPlain) :
    typeItems f.text =
      f.embeds ++ match f.kind with
        | .iface => f.methods.map MethodStub.signature
        | .klass => [] := by
  have hsplit := split_text h
  unfold lines at hsplit
  cases hkind : f.kind with
  | iface =>
    simp only [hkind, List.append_assoc] at hsplit
    rw [MethodStub.signature_eq]
    exact typeItems_of_lines hsplit
  | klass =>
    simp only [hkind, List.append_assoc] at hsplit
    exact typeItems_of_lines hsplit

theorem embeddedTypes_text (h : f.IsPlain) : embeddedTypes f.text = f.embeds := by
  have hembeds : f.embeds.filter (fun item => .char '(' ∉ item) = f.embeds :=
    List.filter_eq_self.2 fun t ht => by simpa using h.embeds t ht '(' (by simp)
  unfold embeddedTypes
  rw [h.typeItems_text, List.filter_append, hembeds]
  cases f.kind with
  | iface => simp [List.filter_map, Function.comp_def, MethodStub.open_mem_signature]
  | klass => simp

/-- A reader that skips how a file opens, its type and blank lines reads the rest of a class. -/
theorem filterMap_split (h : f.IsPlain) {read? : Text → Option Text} (hopening : ∀ l ∈ f.openingLines, read? l = none)
    (htype : ∀ opening signatures, ∀ l ∈ f.typeLines opening signatures, read? l = none) (hblank : read? [] = none) :
    (f.text.split '\n').filterMap read? =
      match f.kind with
      | .iface => []
      | .klass => (f.asserts.flatMap fun t => (f.assertionLines t).filterMap read?) ++
          f.methods.flatMap fun m => (f.functionLines m).filterMap read? := by
  have hopening : f.openingLines.filterMap read? = [] := List.filterMap_eq_nil_iff.2 hopening
  have htype : ∀ opening signatures, (f.typeLines opening signatures).filterMap read? = [] :=
    fun opening signatures => List.filterMap_eq_nil_iff.2 (htype opening signatures)
  have hend : ([[], []] : List Text).filterMap read? = [] := by simp [hblank]
  rw [split_text h, lines, List.append_assoc]
  cases f.kind with
  | iface => simp only [List.filterMap_append, hopening, htype, List.singleton_append, hend, List.append_nil]
  | klass =>
    simp only [List.filterMap_append, List.filterMap_flatMap, hopening, htype, List.singleton_append, hend,
      List.append_nil, List.nil_append]

theorem functionSignatures_text (h : f.IsPlain) :
    (f.text.split '\n').filterMap functionSignature? =
      match f.kind with
      | .iface => []
      | .klass => f.methods.map MethodStub.signature := by
  have hfunction : ∀ m ∈ f.methods, (f.functionLines m).filterMap functionSignature? = [m.signature] := by
    intro m hm
    have hsignature := functionSignature?_function (h.receivers m hm ')' (by simp)) (h.name ')' (by simp))
      (m.name ++ m.profile.written)
    rw [← List.append_assoc _ m.name] at hsignature
    rw [MethodStub.signature_eq, functionLines, List.filterMap_cons_none rfl, List.filterMap_cons_some hsignature]
    rfl
  have hassertions : (f.asserts.flatMap fun t => (f.assertionLines t).filterMap functionSignature?) = [] :=
    List.flatMap_eq_nil_iff.2 fun t _ => rfl
  rw [h.filterMap_split (fun l hl => (eq_none_of_mem_openingLines hl).1)
    (fun _ _ l hl => (eq_none_of_mem_typeLines hl).1) rfl, hassertions, List.flatMap_congr hfunction,
    List.map_eq_flatMap]
  rfl

theorem declaredSignatures_text (h : f.IsPlain) : declaredSignatures f.text = f.methods.map MethodStub.signature := by
  have hembeds : f.embeds.filter (fun item => .char '(' ∈ item) = [] :=
    List.filter_eq_nil_iff.2 fun t ht => by simpa using h.embeds t ht '(' (by simp)
  have hsignatures : (f.methods.map MethodStub.signature).filter (fun item => .char '(' ∈ item) =
      f.methods.map MethodStub.signature := by
    refine List.filter_eq_self.2 (List.forall_mem_map.2 fun m _ => ?_)
    exact decide_eq_true m.open_mem_signature
  unfold declaredSignatures
  rw [h.typeItems_text, List.filter_append, hembeds, List.nil_append, h.functionSignatures_text]
  cases f.kind with
  | iface => rw [List.append_nil, hsignatures]
  | klass => rfl

theorem declaredNames_text (h : f.IsPlain) : declaredNames f.text = f.methodNames := by
  unfold declaredNames
  rw [h.declaredSignatures_text, List.map_map]
  refine List.map_congr_left fun m hm => ?_
  have hname : ∀ g ∈ m.name, decide (g ≠ .char '(') = true := by
    intro g hg
    refine decide_eq_true ?_
    rintro rfl
    exact h.methods m hm '(' (by simp) hg
  show (m.name ++ m.profile.text).takeWhile (· ≠ .char '(') = m.name
  rw [List.takeWhile_append_of_pos hname]
  simp [Profile.text, Text.ofString]

theorem assertedTypes_text (h : f.IsPlain) (hkind : f.kind = .klass) : assertedTypes f.text = f.asserts := by
  have hassertion : ∀ t ∈ f.asserts, (f.assertionLines t).filterMap assertedType? = [t] := by
    intro t ht
    let rest : Text := "= (*" ++ f.name ++ ")(nil)"
    have hline : ("var _ " ++ t ++ " = (*" ++ f.name ++ ")(nil)" : Text) = "var _ " ++ t ++ " " ++ rest := by
      simp [rest, Text.ofString]
    have hread := assertedType?_assertion (h.asserts t ht ' ' (by simp)) rest
    rw [assertionLines, hline, List.filterMap_cons_none rfl, List.filterMap_cons_some hread]
    rfl
  have hfunctions : (f.methods.flatMap fun m => (f.functionLines m).filterMap assertedType?) = [] :=
    List.flatMap_eq_nil_iff.2 fun m _ => rfl
  unfold assertedTypes
  rw [h.filterMap_split (fun l hl => (eq_none_of_mem_openingLines hl).2)
    (fun _ _ l hl => (eq_none_of_mem_typeLines hl).2) rfl, hkind, hfunctions, List.flatMap_congr hassertion]
  simp

end File.IsPlain

end Stencil.Go
