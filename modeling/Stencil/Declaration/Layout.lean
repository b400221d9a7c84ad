import Stencil.Declaration.Packages
import Stencil.Declaration.TypeExpr

/-!
# Files in standard layout

A file is brought into standard layout if everything in it is well formed: names are names, signatures are signatures,
and every character may stand in a source file. Packages that the signatures need are imported.
-/

namespace Stencil.Declaration

def isSourceChar (g : Glyph) : Bool := g.satisfies fun c => c != '\x00' && c != '\ufeff'

def packageName? (t : Text) : Option Text :=
  match tokens? t with
  | some [.name name] => some name
  | some [.name name, .sign .semicolon] => some name
  | _ => none

def commentText : Text → Text
  | .char '\x60' :: .char '\x60' :: .char '\x60' :: t => "\x60\x60\x60" ++ commentText t
  | .char '\x60' :: .char '\x60' :: t => .char '“' :: commentText t
  | .char '\'' :: .char '\'' :: t => .char '”' :: commentText t
  | .char '\r' :: t => commentText t
  | g :: t => g :: commentText t
  | [] => []

def comment? (t : Text) : Option Text :=
  if t.all fun g => isSourceChar g && g != .char '\n' then some (commentText t) else none

def importClause (paths : List Text) : Text :=
  let quoted (path : Text) : Text := "\"" ++ path ++ "\""
  let line (path : Text) : Text := "\t" ++ quoted path ++ "\n"
  match paths with
  | [] => []
  | [path] => "import " ++ quoted path ++ "\n\n"
  | paths => "import (\n" ++ paths.flatMap line ++ ")\n\n"

/-- The file in standard layout, none if something in it is not well formed. -/
def format? (f : Go.File) : Option Text := do
  let package ← packageName? f.package
  let origin ← comment? f.origin
  if !(f.name :: f.embeds ++ f.asserts).all isName then none
  let signatures ← f.methods.mapM fun m => Signature.ofText? m.signature
  let paths := neededPaths (signatures.flatMap fun s => s.type.members)
  let item (t : Text) : Text := "\t" ++ t ++ "\n"
  let assertion (t : Text) : Text := "\nvar _ " ++ t ++ " = (*" ++ f.name ++ ")(nil)\n"
  let function (m : Go.MethodStub) (s : Signature) : Text :=
    "\nfunc (" ++ m.receiver ++ " *" ++ f.name ++ ") " ++ s.text 0 ++ " \x7b\n\tpanic(\"not implemented\")\n\x7d\n"
  let declaration : Text :=
    match f.kind with
    | .iface =>
      "type " ++ f.name ++ " interface \x7b\n" ++ f.embeds.flatMap item
        ++ (signatures.map (·.text 1)).flatMap item ++ "\x7d\n"
    | .klass =>
      "type " ++ f.name ++ " struct \x7b\n" ++ f.embeds.flatMap item ++ "\x7d\n"
        ++ f.asserts.flatMap assertion ++ (List.zipWith function f.methods signatures).flatten
  some ("// Code generated by prototype. DO NOT EDIT.\n\npackage " ++ package ++ "\n\n" ++ importClause paths
    ++ "// " ++ f.name ++ " is generated from " ++ origin ++ ".\n" ++ declaration)

end Stencil.Declaration
