import Stencil.Catalogue
import Stencil.Glob
import Stencil.Text.Quoted

/-!
# Selections

A selection is a list of patterns for names. It takes the structures of a catalogue whose dotted name or short name one
of the patterns accepts; without patterns it takes all of them.
-/

namespace Stencil

structure PatternError where
  pattern : Text
deriving DecidableEq

def PatternError.message (e : PatternError) : Text := "pattern " ++ e.pattern.quote ++ ": syntax error in pattern"

structure Selection where
  patterns : List Glob
deriving DecidableEq

namespace Selection

def normalize (p : Text) : Text := p.trim.replaceBy QName.isSlash '.'

def pattern? (p : Text) : Except PatternError Glob :=
  -- a pattern is tried on the empty name, and refused if that reports it
  let glob := Glob.ofText p
  match glob.matches? [] with
  | .ok _ => .ok glob
  | .error _ => .error ⟨p⟩

def ofTexts (ps : List Text) : Except PatternError Selection :=
  -- blank patterns are left out, and the first one that is not well formed is refused
  (((ps.map normalize).filter (· ≠ [])).mapM pattern?).map Selection.mk

def accepts (sel : Selection) (s : Structure) : Bool :=
  sel.patterns.any fun p => p.accepts s.name.dotted || p.accepts s.shortName

def select (sel : Selection) (c : Catalogue) : List Structure :=
  if sel.patterns.isEmpty then c.entries else c.entries.filter sel.accepts

theorem select_eq_filter (sel : Selection) (c : Catalogue) :
    sel.select c = c.entries.filter fun s => sel.patterns.isEmpty || sel.accepts s := by
  unfold select
  cases sel.patterns.isEmpty with
  | true =>
    rw [if_pos rfl]
    exact (List.filter_eq_self.2 fun _ _ => rfl).symm
  | false => simp

end Selection

end Stencil
