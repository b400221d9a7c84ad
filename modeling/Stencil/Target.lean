import Stencil.FilePath
import Stencil.Target.Go
import Stencil.Target.Php
import Stencil.Target.Yaml

/-!
# Targets

A target is a language to write structures in, with what is needed to write it.
-/

namespace Stencil

inductive Target where
  | php (rules : List TypeRule)
  | go (options : Go.Options)
  | yaml

namespace Target

def label : Target → Text
  | .php _ => "php"
  | .go _ => "go"
  | .yaml => "yaml"

def extension (t : Target) : Text := "." ++ t.label

def render : Target → Scope → Node → Text
  | .php rules, scope, n => Php.render rules scope n
  | .go o, scope, n => Go.render o scope n
  | .yaml, scope, n => Yaml.render scope n

def nestedPath (s : Structure) (extension : Text) : Text := FilePath.join s.name.segments ++ extension

def ownPath? : Target → Structure → Option Text
  | .go _, s => some (Go.fileName s)
  | _, _ => none

def path (t : Target) (s : Structure) : Text := (t.ownPath? s).getD (nestedPath s t.extension)

end Target

end Stencil
