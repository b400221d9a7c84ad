import Stencil.Catalogue
import Stencil.Scalar.Tree

/-!
# Structures as documents

The plain data of a structure, one document each. What is empty is left out.
-/

namespace Stencil.Yaml

structure ParamRecord where
  name : Text
  type : Text
  array : Bool
deriving DecidableEq

structure MethodRecord where
  name : Text
  returns : Text
  arguments : List ParamRecord
deriving DecidableEq

structure StructureRecord where
  fqn : Text
  kind : Text
  name : Text
  package : Text
  base : Text
  implements : List Text
  uses : List Text
  methods : List MethodRecord
deriving DecidableEq

def ParamRecord.of (p : Param) : ParamRecord := ⟨p.name, p.type.text, p.isArray⟩

def MethodRecord.of (m : Method) : MethodRecord := ⟨m.name, m.returns.text, m.params.map .of⟩

def StructureRecord.of (inherited : Option Catalogue) (s : Structure) : StructureRecord where
  fqn := s.name.dotted
  kind := s.kind.word
  name := s.shortName
  package := (s.package?.map QName.dotted).getD []
  base := (s.base.map QName.dotted).getD []
  implements := s.interfaces.map QName.dotted
  uses := s.references.map QName.dotted
  methods := (s.methodsIn inherited).map .of

open Scalar (Tree)

def entry (key value : Text) : List (Text × Tree) := [(key, .text value)]

def flag (key : Text) (b : Bool) : List (Text × Tree) := if b then [(key, .yes)] else []

def optional {α : Type} (key : Text) (tree : List α → Tree) (value : List α) : List (Text × Tree) :=
  if value.isEmpty then [] else [(key, tree value)]

def ParamRecord.entries (r : ParamRecord) : List (Text × Tree) :=
  entry "name" r.name ++ entry "type" r.type ++ flag "array" r.array

def MethodRecord.entries (r : MethodRecord) : List (Text × Tree) :=
  entry "name" r.name ++ entry "returns" r.returns
    ++ optional "arguments" (fun l => .list (l.map fun p => Tree.record p.entries)) r.arguments

def StructureRecord.entries (r : StructureRecord) : List (Text × Tree) :=
  entry "fqn" r.fqn ++ entry "kind" r.kind ++ entry "name" r.name
    ++ optional "package" Tree.text r.package
    ++ optional "extends" Tree.text r.base
    ++ optional "implements" (fun l => .list (l.map Tree.text)) r.implements
    ++ optional "uses" (fun l => .list (l.map Tree.text)) r.uses
    ++ optional "methods" (fun l => .list (l.map fun m => Tree.record m.entries)) r.methods

def render (scope : Scope) : Node → Text
  | .name q => q.dotted
  | .type t => t.text
  | .structure s => "---\n" ++ Tree.document (StructureRecord.of scope.inherited s).entries
  | .method m => Tree.document (MethodRecord.of m).entries
  | .param p => Tree.document (ParamRecord.of p).entries
  | .text t => t

end Stencil.Yaml
