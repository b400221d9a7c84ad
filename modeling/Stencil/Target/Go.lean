import Stencil.Catalogue
import Stencil.TypeMapping
import Stencil.Unicode.Letter

/-!
# Go stubs

All structures of a run share one package and one directory. A class becomes a struct type with methods that are not
implemented, and an interface an interface type. A supertype of the same kind that is written in the same run is
embedded; a reference to a structure outside the run becomes `any`.
-/

namespace Stencil.Go

/-! ## Names -/

def keywords : List Text :=
  ["break", "case", "chan", "const", "continue", "default", "defer", "else", "fallthrough", "for", "func", "go",
    "goto", "if", "import", "interface", "map", "package", "range", "return", "select", "struct", "switch", "type",
    "var"]

def isKeyword (t : Text) : Bool := t ∈ keywords

def exported (t : Text) : Text := t.capitalize

def identifier (t : Text) : Text := if isKeyword t then t ++ "_" else t

/-- An underscore makes a taken name longer than itself, so that fewer of the names taken are as long as it. -/
theorem longer_lt {taken : List Text} {t : Text} (h : t ∈ taken) :
    (taken.filter fun u => (t ++ Text.ofString "_").length ≤ u.length).length <
      (taken.filter fun u => t.length ≤ u.length).length := by
  have heq : (taken.filter fun u => (t ++ Text.ofString "_").length ≤ u.length) =
      (taken.filter fun u => t.length ≤ u.length).filter fun u => t.length < u.length := by
    rw [List.filter_filter]
    apply List.filter_congr
    intro u _
    have hlength : (t ++ Text.ofString "_").length = t.length + 1 := by simp [Text.ofString]
    rw [hlength, ← Bool.decide_and, decide_eq_decide]
    omega
  rw [heq]
  apply List.length_filter_lt_length_iff_exists.2
  exact ⟨t, by simp [h], by simp⟩

/-- The name, with underscores added to its end as long as it is taken. -/
@[semireducible]
def fresh (taken : List Text) (t : Text) : Text :=
  if t ∈ taken then fresh taken (t ++ "_") else t
termination_by (taken.filter fun u => t.length ≤ u.length).length
decreasing_by exact longer_lt (by assumption)

def freshNames (taken : List Text) : List Text → List Text
  | [] => []
  | t :: ts =>
    let name := fresh taken (identifier t)
    name :: freshNames (taken ++ [name]) ts

def paramNames (m : Method) : List Text := freshNames [] (m.params.map Param.name)

def receiverStem (typeName : Text) : Text :=
  match typeName with
  | .char c :: _ => if Unicode.isLetter c then [.char (Unicode.toLower c)] else "recv"
  | _ => "recv"

def receiverName (typeName : Text) (params : List Text) : Text := fresh params (receiverStem typeName)

def defaultPackage : Text := "model"

def packageWord (segment : Text) : Text :=
  segment.filterMap fun
    | .char c => if Unicode.isLetter c || Unicode.isDigit c then some (.char (Unicode.toLower c)) else none
    | .stray _ => none

def isPackageWord (t : Text) : Bool :=
  (match t with
    | .char c :: _ => Unicode.isLetter c
    | _ => false)
    && !isKeyword t

/-! ## Types and signatures -/

structure Options where
  rules : List TypeRule
  /-- The name of the package; if it is empty, the package of the structures decides. -/
  package : Text

def typeName (o : Options) (scope : Scope) (t : TypeRef) : Text :=
  match TypeRule.resolve o.rules t with
  | .text text => text
  | .type (.builtin _) => "any"
  | .type (.named q) => if scope.isWritten q then exported q.shortName else "any"

structure ParamStub where
  name : Text
  isArray : Bool
  type : Text
deriving DecidableEq

def ParamStub.of (o : Options) (scope : Scope) (name : Text) (p : Param) : ParamStub :=
  -- a parameter whose type is written as nothing takes any value
  ⟨name, p.isArray, Text.orElse (typeName o scope p.type) "any"⟩

def ParamStub.text (p : ParamStub) : Text := p.name ++ " " ++ Text.when p.isArray "[]" ++ p.type

structure Profile where
  params : List ParamStub
  result : Option Text
deriving DecidableEq

def Profile.of (o : Options) (scope : Scope) (m : Method) : Profile where
  params := List.zipWith (ParamStub.of o scope) (paramNames m) m.params
  result :=
    let result := typeName o scope m.returns
    if result = [] then none else some result

def Profile.text (p : Profile) : Text :=
  let result : Text :=
    match p.result with
    | some t => " " ++ t
    | none => []
  "(" ++ Text.join ", " (p.params.map ParamStub.text) ++ ")" ++ result

def signature (o : Options) (scope : Scope) (m : Method) : Text := exported m.name ++ (Profile.of o scope m).text

/-- All structures of a run have the same package, so it is named after their common namespace, or is the default one. -/
def packageName (o : Options) (scope : Scope) (s : Structure) : Text :=
  if o.package ≠ [] then o.package
  else
    match s.package? with
    | none => defaultPackage
    | some q =>
      let others := (scope.selected.map Catalogue.entries).getD []
      let word := packageWord q.shortName
      if others.all (fun other => other.name.parent.same q) && isPackageWord word then word else defaultPackage

/-! ## Supertypes -/

def embedded (scope : Scope) (s : Structure) : List QName :=
  -- a class can embed its base only
  let candidates := if s.isInterface then s.supertypes else s.base.toList
  Keyed.distinct QName.dotted [] (candidates.filter fun q => (scope.selected? q).any fun sup => sup.kind = s.kind)

def asserted (scope : Scope) (s : Structure) : List QName :=
  -- only with inherited methods does a class have what its interfaces ask for
  if s.isInterface || scope.inherited.isNone then []
  else s.interfaces.filter fun q => (scope.selected? q).any Structure.isInterface

def unvisited (c : Catalogue) (visited : List Text) : List Structure :=
  c.entries.filter fun s => Catalogue.key s ∉ visited

theorem unvisited_of_get?_none {c : Catalogue} {q : QName} (visited : List Text) (h : c.get? q = none) :
    unvisited c (q.dotted :: visited) = unvisited c visited := by
  unfold unvisited
  apply List.filter_congr
  intro s hs
  have hne : Catalogue.key s ≠ q.dotted := by
    simpa using List.find?_eq_none.1 h s hs
  simp [hne]

theorem unvisited_length_lt {c : Catalogue} {q : QName} {s : Structure} {visited : List Text}
    (hq : q.dotted ∉ visited) (h : c.get? q = some s) :
    (unvisited c (q.dotted :: visited)).length < (unvisited c visited).length := by
  have hkey : Catalogue.key s = q.dotted := by
    simpa using List.find?_some h
  have hmem : s ∈ c.entries := List.mem_of_find?_eq_some h
  have heq : unvisited c (q.dotted :: visited) =
      (unvisited c visited).filter fun s => Catalogue.key s ≠ q.dotted := by
    unfold unvisited
    rw [List.filter_filter]
    apply List.filter_congr
    intro s _
    simp
  rw [heq]
  apply List.length_filter_lt_length_iff_exists.2
  exact ⟨s, by simp [unvisited, hmem, hkey, hq], by simp [hkey]⟩

/-- The structures that names lead to in a catalogue, each once, a structure before its supertypes and these before the
names that follow it. Names that were visited are passed over. -/
def reachable (c : Catalogue) (visited : List Text) : List QName → List Structure
  | [] => []
  | q :: qs =>
    if _hq : q.dotted ∈ visited then reachable c visited qs
    else
      match _h : c.get? q with
      | none => reachable c (q.dotted :: visited) qs
      | some s => s :: reachable c (q.dotted :: visited) (s.supertypes ++ qs)
termination_by qs => ((unvisited c visited).length, qs.length)
decreasing_by
  · exact Prod.Lex.right _ (Nat.lt_succ_self _)
  · rw [unvisited_of_get?_none visited _h]
    exact Prod.Lex.right _ (Nat.lt_succ_self _)
  · exact Prod.Lex.left _ _ (unvisited_length_lt _hq _h)

/-- The methods of a structure and of all structures its supertypes lead to. Direct supertypes in `skip` are left out,
because embedding them brings their methods. -/
def methodSet (inherited : Option Catalogue) (skip : List Text) (s : Structure) : List Method :=
  match inherited with
  | none => s.methods
  | some c =>
    let supers := s.supertypes.filter fun q => q.dotted ∉ skip
    s.methods ++ (reachable c [s.name.dotted] supers).flatMap Structure.methods

/-- The methods declared for a structure, one for every exported name. A class has none with the name of a type that it
embeds. -/
def declared (scope : Scope) (s : Structure) : List Method :=
  let embeds := embedded scope s
  let fields := if s.isInterface then [] else embeds.map fun q => exported q.shortName
  Keyed.distinct (fun m => exported m.name) fields (methodSet scope.inherited (embeds.map QName.dotted) s)

/-! ## Files -/

structure MethodStub where
  receiver : Text
  name : Text
  profile : Profile
deriving DecidableEq

def MethodStub.signature (m : MethodStub) : Text := m.name ++ m.profile.text

structure File where
  package : Text
  name : Text
  origin : Text
  kind : Kind
  embeds : List Text
  asserts : List Text
  methods : List MethodStub
deriving DecidableEq

def File.of (o : Options) (scope : Scope) (s : Structure) : File where
  package := packageName o scope s
  name := exported s.shortName
  origin := s.name.dotted
  kind := s.kind
  embeds := (embedded scope s).map fun q => exported q.shortName
  asserts := (asserted scope s).map fun q => exported q.shortName
  methods := (declared scope s).map fun m =>
    ⟨receiverName (exported s.shortName) (paramNames m), exported m.name, .of o scope m⟩

def File.text (f : File) : Text :=
  let comment : Text := "// " ++ f.name ++ " is generated from " ++ f.origin ++ ".\n"
  let item (t : Text) : Text := "\n\t" ++ t
  let assertion (t : Text) : Text := "\nvar _ " ++ t ++ " = (*" ++ f.name ++ ")(nil)\n"
  let function (m : MethodStub) : Text :=
    "\nfunc (" ++ m.receiver ++ " *" ++ f.name ++ ") " ++ m.signature ++ " \x7b\n\tpanic(\"not implemented\")\n\x7d\n"
  let declaration : Text :=
    match f.kind with
    | .iface =>
      "type " ++ f.name ++ " interface \x7b" ++ f.embeds.flatMap item
        ++ (f.methods.map MethodStub.signature).flatMap item ++ "\n\x7d\n"
    | .klass =>
      "type " ++ f.name ++ " struct \x7b" ++ f.embeds.flatMap item ++ "\n\x7d\n"
        ++ f.asserts.flatMap assertion ++ f.methods.flatMap function
  "// Code generated by prototype. DO NOT EDIT.\n\npackage " ++ f.package ++ "\n\n" ++ comment ++ declaration ++ "\n"

def render (o : Options) (scope : Scope) : Node → Text
  | .name q => exported q.shortName
  | .type t => typeName o scope t
  | .structure s => (File.of o scope s).text
  | .method m => signature o scope m
  | .param p => (ParamStub.of o scope (identifier p.name) p).text
  | .text t => t

def fileName (s : Structure) : Text := (exported s.shortName).lower ++ ".go"

end Stencil.Go
