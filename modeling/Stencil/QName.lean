import Stencil.Text.Lemmas

/-!
# Qualified names

A qualified name is a list of segments: the packages from the outside in, and the short name last. It is written with
dots. Where it is read, a slash or a backslash separates as a dot does, and white space around the whole is dropped.
Names come from reading only, so that the dotted form decides the segments.
-/

namespace Stencil

namespace QName

def isSlash (g : Glyph) : Bool := g == .char '/' || g == .char '\\'

def normalize (t : Text) : Text := Text.trim (t.replaceBy isSlash '.')

def read (t : Text) : List Text := (normalize t).split '.'

theorem isSlash_of_mem_normalize {t : Text} {g : Glyph} (hg : g ∈ normalize t) : isSlash g = false := by
  obtain ⟨g', _, rfl⟩ := List.mem_map.1 (Text.mem_of_mem_trim hg)
  by_cases h : isSlash g' = true
  · rw [if_pos h]; rfl
  · rw [if_neg h]; simpa using h

theorem normalize_normalize (t : Text) : normalize (normalize t) = normalize t := by
  have hkept : (normalize t).replaceBy isSlash '.' = normalize t :=
    Text.replaceBy_eq_self fun _ hg => isSlash_of_mem_normalize hg
  unfold normalize at hkept ⊢
  rw [hkept, Text.trim_trim]

theorem read_join_read (t : Text) : read (Text.join "." (read t)) = read t := by
  unfold read
  rw [show (Text.ofString ".") = [.char '.'] from rfl, Text.join_split, normalize_normalize]

end QName

structure QName where
  segments : List Text
  /-- A name that was given is what its dotted form is read as. -/
  canonical : segments = [] ∨ QName.read (Text.join "." segments) = segments
deriving DecidableEq

namespace QName

/-- The name that was never given. It has no segment at all, where the name read from an empty text has an empty one. -/
def unset : QName := ⟨[], .inl rfl⟩

instance : Inhabited QName := ⟨unset⟩

def ofText (t : Text) : QName := ⟨read t, .inr (read_join_read t)⟩

def dotted (q : QName) : Text := Text.join "." q.segments

-- without a separator, the dotted name
def joined (q : QName) (sep : Text) : Text := if sep = [] then q.dotted else Text.join sep q.segments

def isEmpty (q : QName) : Bool := q.dotted.isEmpty

def size (q : QName) : Nat := q.segments.length

def shortName (q : QName) : Text := q.segments.getLastD []

/-- The segment at an offset; any offset outside the name gives the last one. -/
def segment (q : QName) : Int → Text
  | .ofNat i => q.segments.getD i q.shortName
  | .negSucc _ => q.shortName

def parent (q : QName) : QName :=
  match q.segments with
  | [] => q
  | [_] => ofText []
  | segments => ofText (Text.join "." segments.dropLast)

def same (p q : QName) : Bool := p.dotted == q.dotted

@[simp] theorem same_iff {p q : QName} : p.same q = true ↔ p.dotted = q.dotted := beq_iff_eq

theorem dotted_ofText (t : Text) : (ofText t).dotted = normalize t := Text.join_split '.' (normalize t)

theorem mem_of_mem_normalize {t : Text} {g : Glyph} (h : g ∈ normalize t) : g ∈ t ∨ g = .char '.' := by
  obtain ⟨g', hg', rfl⟩ := List.mem_map.1 (Text.mem_of_mem_trim h)
  split
  · exact .inr rfl
  · exact .inl hg'

theorem mem_dotted_of_mem_segment {q : QName} {t : Text} (ht : t ∈ q.segments) {g : Glyph} (hg : g ∈ t) :
    g ∈ q.dotted :=
  Text.mem_join_of_mem _ ht hg

theorem mem_dotted_of_mem_shortName {q : QName} {g : Glyph} (h : g ∈ q.shortName) : g ∈ q.dotted := by
  unfold shortName at h
  rw [List.getLastD_eq_getLast?] at h
  cases hlast : q.segments.getLast? with
  | none => simp [hlast] at h
  | some t =>
    rw [hlast] at h
    exact mem_dotted_of_mem_segment (List.mem_of_getLast? hlast) h

theorem of_mem_segment {q : QName} {t : Text} (ht : t ∈ q.segments) {g : Glyph} (hg : g ∈ t) :
    g ≠ .char '.' ∧ isSlash g = false := by
  rcases q.canonical with hnone | hread
  · rw [hnone] at ht
    cases ht
  · rw [← hread] at ht
    obtain ⟨hmem, hdot⟩ := Text.of_mem_splitBy ht hg
    exact ⟨by simpa using hdot, isSlash_of_mem_normalize hmem⟩

theorem segments_of_dotted_nil {q : QName} (h : q.dotted = []) : q.segments = [] ∨ q.segments = [[]] := by
  rcases q.canonical with hnone | hread
  · exact .inl hnone
  · exact .inr (hread.symm.trans (congrArg read h))

theorem ofText_ne_unset (t : Text) : ofText t ≠ unset := by
  intro h
  exact Text.splitBy_ne_nil _ _ (congrArg segments h)

theorem ne_unset_of_dotted {q : QName} (h : q.dotted ≠ []) : q ≠ unset := by
  rintro rfl
  exact h rfl

theorem read_dotted {q : QName} (h : q ≠ unset) : read q.dotted = q.segments := by
  refine q.canonical.resolve_left fun hnone => h ?_
  cases q with
  | mk segments canonical =>
    subst hnone
    rfl

/-- A name that was given is read back from its dotted form. -/
theorem ofText_dotted {q : QName} (h : q ≠ unset) : ofText q.dotted = q := by
  have hread := read_dotted h
  cases q with
  | mk segments canonical =>
    unfold ofText
    rw [mk.injEq]
    exact hread

theorem dotted_eq_iff {p q : QName} (hp : p ≠ unset) (hq : q ≠ unset) : p.dotted = q.dotted ↔ p = q := by
  refine ⟨fun h => ?_, congrArg dotted⟩
  rw [← ofText_dotted hp, h, ofText_dotted hq]

theorem normalize_dotted (q : QName) : normalize q.dotted = q.dotted := by
  by_cases h : q = unset
  · subst h
    rfl
  · have hjoin : Text.join [.char '.'] (read q.dotted) = normalize q.dotted := Text.join_split ..
    rw [← hjoin, read_dotted h]
    rfl

/-- Only the name that was never given and the empty name are written the same and have different segments. -/
theorem segments_congr {p q : QName} (h : p.dotted = q.dotted) (hne : p.dotted ≠ []) : p.segments = q.segments := by
  rw [← read_dotted (ne_unset_of_dotted hne), h, read_dotted (ne_unset_of_dotted (h ▸ hne))]

/-- The short name and the packages of a name depend on its dotted form only. -/
theorem last_congr {p q : QName} (h : p.dotted = q.dotted) :
    p.shortName = q.shortName ∧ p.segments.dropLast = q.segments.dropLast := by
  have hempty : ∀ {r : QName}, r.dotted = [] → r.shortName = [] ∧ r.segments.dropLast = [] := by
    intro r hr
    unfold shortName
    rcases segments_of_dotted_nil hr with hseg | hseg
    · rw [hseg]
      exact ⟨rfl, rfl⟩
    · rw [hseg]
      exact ⟨rfl, rfl⟩
  by_cases hp : p.dotted = []
  · rw [(hempty hp).1, (hempty hp).2, (hempty (h.symm.trans hp)).1, (hempty (h.symm.trans hp)).2]
    exact ⟨rfl, rfl⟩
  · unfold shortName
    rw [segments_congr h hp]
    exact ⟨rfl, rfl⟩

theorem shortName_eq {p q : QName} (h : p.dotted = q.dotted) : p.shortName = q.shortName := (last_congr h).1

theorem parent_dotted (q : QName) : q.parent.dotted = (ofText (Text.join "." q.segments.dropLast)).dotted := by
  unfold parent
  split
  · rename_i hnone
    unfold dotted
    rw [hnone]
    rfl
  · rename_i hone
    rw [hone]
    rfl
  · rfl

theorem parent_congr {p q : QName} (h : p.dotted = q.dotted) : p.parent.dotted = q.parent.dotted := by
  rw [parent_dotted, parent_dotted, (last_congr h).2]

end QName

end Stencil
