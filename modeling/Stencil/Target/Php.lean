import Stencil.Catalogue
import Stencil.TypeMapping

/-!
# PHP stubs

Every structure becomes a file of its own: its namespace, one `use` line for every structure it refers to, and the
declaration. A reference is written by the name it was imported under.
-/

namespace Stencil.Php

/-! ## Imports -/

structure Import where
  name : QName
  localName : Text
deriving DecidableEq

def Import.alias? (i : Import) : Option Text :=
  -- under its own short name a structure is imported without an alias
  if i.localName = i.name.shortName then none else some i.localName

/-- The structures to import into the file of `s`, in the order of their first use: all that `s` and the methods refer
to, but not `s` itself. What its own methods refer to is among the references of `s` already. -/
def imported (s : Structure) (methods : List Method) : List QName :=
  let others := methods.filter fun m => s.method? m.name ≠ some m
  Keyed.distinct QName.dotted [s.name.dotted] (s.references ++ others.flatMap Method.references)

/-- The imports with their names in the file. A short name that two imports share, or an import and the structure
itself, gives way to all segments put together. -/
def imports (s : Structure) (methods : List Method) : List Import :=
  let names := imported s methods
  let shortNames := s.shortName :: names.map QName.shortName
  names.map fun q =>
    ⟨q, if shortNames.count q.shortName > 1 then Text.join [] q.segments else q.shortName⟩

def localName (is : List Import) (q : QName) : Text :=
  match Keyed.get? (fun i => i.name.dotted) q.dotted is with
  | some i => i.localName
  | none => q.shortName

def namespaced (q : QName) : Text := q.joined "\\"

/-! ## Declarations

A declaration is written with `nameOf` for the structures it refers to. -/

def typeName (rules : List TypeRule) (nameOf : QName → Text) (t : TypeRef) : Text :=
  match TypeRule.resolve rules t with
  | .text text => text
  | .type (.builtin tag) => tag
  | .type (.named q) => nameOf q

def param (rules : List TypeRule) (nameOf : QName → Text) (p : Param) : Text :=
  match p.type with
  | .builtin _ => "$" ++ p.name
  | .named _ =>
    let hint : Text := if p.isArray then "array" else typeName rules nameOf p.type
    hint ++ " $" ++ p.name

def indent : Text := "    "

def paramLine (rules : List TypeRule) (nameOf : QName → Text) (p : Param) : Text :=
  indent ++ " * @param " ++ typeName rules nameOf p.type ++ Text.when p.isArray "[]" ++ " $" ++ p.name ++ "\n"

def method (rules : List TypeRule) (nameOf : QName → Text) (inClass : Bool) (m : Method) : Text :=
  -- in a class a method has an empty body
  let body : Text := if inClass then "\n" ++ indent ++ "\x7b\n" ++ indent ++ "\x7d\n" else ";\n"
  "\n" ++ indent ++ "/**\n" ++ indent ++ " * Method " ++ m.name ++ "\n" ++ indent ++ " *\n"
    ++ m.params.flatMap (paramLine rules nameOf)
    ++ indent ++ " * @return " ++ typeName rules nameOf m.returns ++ "\n" ++ indent ++ " */\n"
    ++ indent ++ "public function " ++ m.name ++ "(" ++ Text.join ", " (m.params.map (param rules nameOf)) ++ ")"
    ++ body

def heading (nameOf : QName → Text) (s : Structure) : Text :=
  -- an interface names no supertypes
  match s.kind with
  | .iface => "interface " ++ s.shortName
  | .klass =>
    let base : Text :=
      match s.base with
      | some q => " extends " ++ nameOf q
      | none => []
    let interfaces :=
      Text.when (s.interfaces ≠ []) (" implements " ++ Text.join ", " (s.interfaces.map nameOf))
    "class " ++ s.shortName ++ base ++ interfaces

def declaration (rules : List TypeRule) (nameOf : QName → Text) (s : Structure) (methods : List Method) : Text :=
  heading nameOf s ++ "\n\x7b\n" ++ methods.flatMap (method rules nameOf !s.isInterface) ++ "\x7d\n"

/-! ## Files -/

def preamble (s : Structure) : Text :=
  let namespaceLine : Text :=
    match s.package? with
    | some q => "namespace " ++ namespaced q ++ ";\n\n"
    | none => []
  "<?php\n\n" ++ namespaceLine

def useLine (i : Import) : Text :=
  let asPart : Text :=
    match i.alias? with
    | some name => " as " ++ name
    | none => []
  "use " ++ namespaced i.name ++ asPart ++ ";\n"

def useLines (is : List Import) : Text := is.flatMap useLine ++ Text.when (is ≠ []) "\n"

def file (rules : List TypeRule) (inherited : Option Catalogue) (s : Structure) : Text :=
  let methods := s.methodsIn inherited
  let is := imports s methods
  preamble s ++ useLines is ++ declaration rules (localName is) s methods

def render (rules : List TypeRule) (scope : Scope) : Node → Text
  | .name q => namespaced q
  | .type t => typeName rules QName.shortName t
  | .structure s => file rules scope.inherited s
  | .method m => method rules QName.shortName (scope.enclosing.any fun s => !s.isInterface) m
  | .param p => param rules QName.shortName p
  | .text t => t

end Stencil.Php
