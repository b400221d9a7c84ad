import Stencil.Text.Basic

/-!
# Glob patterns

In a pattern `*` stands for any run without `/`, `?` for one glyph other than `/`, and `[...]` for one glyph of a class,
or with `[^...]` for one outside it. A class lists characters and ranges; it has at least one item, and none of its items
begins or ends with `-` or `]`.

A pattern is looked at when a text is matched with it, part by part. A class that is not well formed is reported then,
also where the parts before it have failed to match.
-/

namespace Stencil

/-- What matches one glyph. A class that is not well formed is kept as `broken`. -/
inductive Glob.Atom where
  | literal (g : Glyph)
  | any
  | oneOf (negated : Bool) (ranges : List (Char × Char))
  | broken
deriving DecidableEq

/-- A pattern: the atoms before the first star, and those after each star. Neighbouring stars count as one, so only the
last of the parts after stars may be empty. -/
structure Glob where
  start : List Glob.Atom
  afterStars : List (List Glob.Atom)
deriving DecidableEq

structure Glob.Malformed where
deriving DecidableEq

namespace Glob

/-! ## Reading patterns -/

def classChar? : Text → Option (Char × Text)
  | .char c :: g :: t => if c = '-' ∨ c = ']' then none else some (c, g :: t)
  | _ => none

theorem classChar?_length {t rest : Text} {c : Char} (h : classChar? t = some (c, rest)) :
    rest.length < t.length := by
  unfold classChar? at h
  split at h
  · split at h
    · cases h
    · cases h
      simp
  · cases h

def classItem? (t : Text) : Option ((Char × Char) × Text) :=
  match classChar? t with
  | none => none
  | some (first, .char '-' :: rest) => (classChar? rest).map fun (last, rest) => ((first, last), rest)
  | some (first, rest) => some ((first, first), rest)

theorem classItem?_length {t rest : Text} {r : Char × Char} (h : classItem? t = some (r, rest)) :
    rest.length < t.length := by
  unfold classItem? at h
  split at h
  · cases h
  · next first rest' h' =>
    obtain ⟨⟨last, rest''⟩, h'', heq⟩ := Option.map_eq_some_iff.1 h
    have h₁ := classChar?_length h'
    have h₂ := classChar?_length h''
    simp only [Prod.mk.injEq] at heq
    obtain ⟨_, rfl⟩ := heq
    simp at h₁
    omega
  · next first rest' _ h' =>
    have h₁ := classChar?_length h'
    simp only [Option.some.injEq, Prod.mk.injEq] at h
    obtain ⟨_, rfl⟩ := h
    exact h₁

def classItems? (t : Text) : Option (List (Char × Char) × Text) :=
  match _h : classItem? t with
  | none => none
  | some (r, .char ']' :: rest) => some ([r], rest)
  | some (r, rest) => (classItems? rest).map fun (rs, rest) => (r :: rs, rest)
termination_by t.length
decreasing_by exact classItem?_length _h

theorem classItems?_length {t rest : Text} {rs : List (Char × Char)} (h : classItems? t = some (rs, rest)) :
    rest.length < t.length := by
  fun_induction classItems? t generalizing rs with
  | case1 t hitem => cases h
  | case2 t r rest' hitem =>
    cases h
    have hlt := classItem?_length hitem
    rw [List.length_cons] at hlt
    omega
  | case3 t r rest' hrest hitem ih =>
    obtain ⟨⟨rs', rest''⟩, hitems, heq⟩ := Option.map_eq_some_iff.1 h
    cases heq
    exact Nat.lt_trans (ih hitems) (classItem?_length hitem)

def class? : Text → Option (Atom × Text)
  | .char '^' :: t => (classItems? t).map fun (rs, rest) => (.oneOf true rs, rest)
  | t => (classItems? t).map fun (rs, rest) => (.oneOf false rs, rest)

theorem class?_length {t rest : Text} {a : Atom} (h : class? t = some (a, rest)) : rest.length < t.length := by
  unfold class? at h
  split at h
  · obtain ⟨⟨rs, rest'⟩, hitems, heq⟩ := Option.map_eq_some_iff.1 h
    cases heq
    have hlt := classItems?_length hitems
    rw [List.length_cons]
    omega
  · obtain ⟨⟨rs, rest'⟩, hitems, heq⟩ := Option.map_eq_some_iff.1 h
    cases heq
    exact classItems?_length hitems

inductive Token where
  | star
  | atom (a : Atom)
deriving DecidableEq

def tokens : Text → List Token
  -- what follows a class that is not well formed does not matter
  | [] => []
  | g :: t =>
    if g = .char '*' then .star :: tokens t
    else if g = .char '?' then .atom .any :: tokens t
    else if g = .char '[' then
      match _h : class? t with
      | none => [.atom .broken]
      | some (a, rest) => .atom a :: tokens rest
    else .atom (.literal g) :: tokens t
termination_by t => t.length
decreasing_by
  · simp
  · simp
  · exact Nat.lt_succ_of_lt (class?_length _h)
  · simp

def ofTokens : List Token → Glob
  | [] => ⟨[], []⟩
  | .atom a :: ts => let g := ofTokens ts; ⟨a :: g.start, g.afterStars⟩
  | .star :: ts =>
    match ofTokens ts with
    | ⟨[], parts@(_ :: _)⟩ => ⟨[], parts⟩
    | ⟨start, parts⟩ => ⟨[], start :: parts⟩

def ofText (t : Text) : Glob := ofTokens (tokens t)

/-! ## Matching -/

/-- What is left of a text after an atom has matched at its start. A stray byte of a pattern matches a byte, which may be
the first one of a character. -/
def Atom.rest? : Atom → Text → Option Text
  | _, [] => none
  | .literal (.stray b), g :: t => if g.toBytes.head? = some b then some (g.toBytes.tail.map .stray ++ t) else none
  | .literal l, g :: t => if g = l then some t else none
  | .any, g :: t => if g = .char '/' then none else some t
  | .oneOf negated ranges, g :: t =>
    let listed := ranges.any fun (first, last) => first.toNat ≤ g.codePoint && g.codePoint ≤ last.toNat
    if listed != negated then some t else none
  | .broken, _ => none

/-- What is left of a text after atoms have matched at its start. After a mismatch there is no text any more, and the
atoms that follow are looked at all the same. -/
def remainder : List Atom → Option Text → Except Malformed (Option Text)
  | [], t => .ok t
  | .broken :: _, _ => .error ⟨⟩
  | a :: as, t => remainder as (t.bind a.rest?)

def firstFit (as : List Atom) (isLast : Bool) : List Text → Except Malformed (Option Text)
  -- the last atoms of a pattern have to match the whole text
  | [] => .ok none
  | t :: ts => do
    match ← remainder as (some t) with
    | some rest => if rest.isEmpty || !isLast then pure (some rest) else firstFit as isLast ts
    | none => firstFit as isLast ts

def check : List (List Atom) → Except Malformed Unit
  | [] => .ok ()
  | part :: parts => do
    let _ ← remainder part (some [])
    check parts

/-- Matches the parts that follow stars. Each part is taken at the first byte where it fits, and the last one where it
ends the text. -/
def starsMatch : List (List Atom) → Text → Except Malformed Bool
  | [], t => .ok t.isEmpty
  | [[]], t => .ok (!t.contains (.char '/'))
  | part :: parts, t => do
    let free := (Text.toBytes (t.takeWhile (· != .char '/'))).length
    match ← firstFit part parts.isEmpty (t.byteTails.take (free + 1)) with
    | some rest => starsMatch parts rest
    | none => do
      check parts
      pure false

def matches? (p : Glob) (t : Text) : Except Malformed Bool := do
  match ← remainder p.start (some t) with
  | some rest => if p.afterStars.isEmpty then pure rest.isEmpty else starsMatch p.afterStars rest
  | none => do
    check p.afterStars
    pure false

def accepts (p : Glob) (t : Text) : Bool :=
  -- a pattern that is not well formed accepts nothing
  match p.matches? t with
  | .ok matched => matched
  | .error _ => false

end Glob

end Stencil
