import Stencil.Target.Php
import Stencil.Text.Lemmas

/-!
# PHP files as lines

The text of a file, line by line: how it opens, its `use` lines, and its declaration with the comments of its methods.
-/

namespace Stencil.Php

open Text (unlines unlines_append unlines_flatMap unlines_map)

def preambleLines (s : Structure) : List Text :=
  [Text.ofString "<?php", []] ++
    match s.package? with
    | some q => ["namespace " ++ namespaced q ++ ";", []]
    | none => []

theorem preamble_eq (s : Structure) : preamble s = unlines (preambleLines s) := by
  unfold preamble preambleLines
  cases s.package? <;> simp [unlines, Text.ofString]

def useText (i : Import) : Text :=
  match i.alias? with
  | some name => "use " ++ namespaced i.name ++ " as " ++ name ++ ";"
  | none => "use " ++ namespaced i.name ++ ";"

def useTexts (is : List Import) : List Text := is.map useText ++ if is = [] then [] else [[]]

theorem useLines_eq (is : List Import) : useLines is = unlines (useTexts is) := by
  have hline : ∀ i, useLine i = useText i ++ "\n" := by
    intro i
    unfold useLine useText
    cases i.alias? <;> simp [Text.ofString]
  unfold useLines useTexts
  rw [unlines_append, unlines_map hline]
  by_cases h : is = []
  · simp [h, unlines, Text.when]
  · simp [h, unlines, Text.when, Text.ofString]

section
variable (rules : List TypeRule) (nameOf : QName → Text)

def paramText (p : Param) : Text :=
  "     * @param " ++ typeName rules nameOf p.type ++ (if p.isArray then "[]" else "") ++ " $" ++ p.name

def commentLines (m : Method) : List Text :=
  let opening : List Text := ["", "    /**", "     * Method " ++ m.name, "     *"]
  let closing : List Text := ["     * @return " ++ typeName rules nameOf m.returns, "     */"]
  opening ++ m.params.map (paramText rules nameOf) ++ closing

def functionText (m : Method) : Text :=
  "    public function " ++ m.name ++ "(" ++ Text.join ", " (m.params.map (param rules nameOf)) ++ ")"

def functionLines (inClass : Bool) (m : Method) : List Text :=
  -- in an interface a function has no body
  if inClass then [functionText rules nameOf m, "    \x7b", "    \x7d"] else [functionText rules nameOf m ++ ";"]

def methodLines (inClass : Bool) (m : Method) : List Text :=
  commentLines rules nameOf m ++ functionLines rules nameOf inClass m

theorem method_eq (inClass : Bool) (m : Method) :
    method rules nameOf inClass m = unlines (methodLines rules nameOf inClass m) := by
  have hparam : ∀ p, paramLine rules nameOf p = paramText rules nameOf p ++ "\n" := by
    intro p
    unfold paramLine paramText Text.when
    cases p.isArray <;> simp [indent, Text.ofString]
  unfold method methodLines commentLines functionLines
  simp only [unlines_append, unlines_map hparam]
  cases inClass <;> simp [unlines, functionText, Text.ofString, indent]

def declarationLines (s : Structure) (methods : List Method) : List Text :=
  [heading nameOf s, Text.ofString "\x7b"] ++ methods.flatMap (methodLines rules nameOf !s.isInterface) ++
    [Text.ofString "\x7d"]

theorem declaration_eq (s : Structure) (methods : List Method) :
    declaration rules nameOf s methods = unlines (declarationLines rules nameOf s methods) := by
  have hmethods : methods.flatMap (method rules nameOf !s.isInterface) =
      unlines (methods.flatMap (methodLines rules nameOf !s.isInterface)) := by
    rw [unlines_flatMap]
    exact congrArg (methods.flatMap ·) (funext fun m => method_eq rules nameOf _ m)
  unfold declaration declarationLines
  rw [hmethods, unlines_append, unlines_append]
  simp [unlines, Text.ofString]

end

end Stencil.Php
