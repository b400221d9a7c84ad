import Mathlib.Data.List.TakeWhile
import Stencil.Proofs.Bytes
import Stencil.Target.Php

/-!
# Names and their packages

A name is read back from every way of writing it, with any of the separators between its segments. Its package is read
from what stands before the short name, and white space at the end of that is lost on the way. A name is its package and
its short name exactly if there is none.
-/

namespace Stencil

namespace Text

theorem trim_replaceBy {p : Glyph → Bool} {c : Char} (t : Text)
    (hspace : ∀ g : Glyph, Glyph.isSpace (if p g then .char c else g) = g.isSpace) :
    (t.replaceBy p c).trim = t.trim.replaceBy p c := by
  have hcomp : (Glyph.isSpace ∘ fun g => if p g then .char c else g) = Glyph.isSpace := funext hspace
  unfold trim dropEndWhile replaceBy
  rw [List.dropWhile_map, hcomp, ← List.map_reverse, List.dropWhile_map, hcomp, List.map_reverse]

theorem trim_ne_nil {t : Text} (h : t.isBlank = false) : t.trim ≠ [] := by
  intro htrim
  have hblank : ∀ g ∈ t.dropWhile Glyph.isSpace, g.isSpace = true := by
    rw [trim, dropEndWhile, List.reverse_eq_nil_iff, List.dropWhile_eq_nil_iff] at htrim
    simpa using htrim
  -- what is left is blank, yet does not begin with white space
  cases hrest : t.dropWhile Glyph.isSpace with
  | nil =>
    rw [List.dropWhile_eq_nil_iff] at hrest
    rw [isBlank, List.all_eq_true.2 hrest] at h
    cases h
  | cons g rest =>
    have hspace := hblank g (by simp [hrest])
    have hhead : g.isSpace = false := head?_dropWhile (by rw [hrest]; rfl)
    rw [hhead] at hspace
    cases hspace

end Text

namespace QName

/-! ## Written names -/

/-- Separators are no white space, so that it does not matter whether a text is trimmed before or after they become
dots. -/
theorem normalize_eq_replaceBy (t : Text) : normalize t = t.trim.replaceBy isSlash '.' := by
  apply Text.trim_replaceBy
  intro g
  by_cases hslash : isSlash g = true
  · rw [if_pos hslash]
    simp only [isSlash, Bool.or_eq_true, beq_iff_eq] at hslash
    rcases hslash with rfl | rfl <;> decide
  · rw [if_neg hslash]

theorem dotted_ofText_ne_nil {t : Text} (h : t.trim ≠ []) : (ofText t).dotted ≠ [] := by
  rw [dotted_ofText, normalize_eq_replaceBy]
  simpa [Text.replaceBy] using h

theorem ofText_congr {t u : Text} (h : normalize t = normalize u) : ofText t = ofText u := by
  simp only [ofText, read, h]

def separators : List Char := ['.', '/', '\\']

section
variable (q : QName)

theorem trim_dotted : q.dotted.trim = q.dotted := by
  rw [← normalize_dotted q]
  exact Text.trim_trim _

theorem joined_char (sep : Char) : q.joined [.char sep] = Text.join [.char sep] q.segments := by simp [joined]

/-- Where no segment has a glyph that is replaced, only what stands between segments is. -/
theorem replaceBy_joined {p : Glyph → Bool} (hp : ∀ s ∈ q.segments, ∀ g ∈ s, p g = false) (sep c : Char) :
    (q.joined [.char sep]).replaceBy p c = Text.join (Text.replaceBy p c [.char sep]) q.segments := by
  have hsegments : q.segments.map (Text.replaceBy p c) = q.segments := by
    rw [List.map_congr_left fun s hs => Text.replaceBy_eq_self (hp s hs), List.map_id']
  rw [joined_char, Text.replaceBy_join, hsegments]

theorem replaceBy_isSlash_joined {sep : Char} (hsep : sep ∈ separators) :
    (q.joined [.char sep]).replaceBy isSlash '.' = q.dotted := by
  rw [replaceBy_joined q fun s hs g hg => (of_mem_segment hs hg).2]
  simp only [separators, List.mem_cons, List.not_mem_nil, or_false] at hsep
  rcases hsep with rfl | rfl | rfl <;> rfl

theorem joined_eq_replaceBy (sep : Char) : q.joined [.char sep] = q.dotted.replaceBy (· == .char '.') sep := by
  have hdots := replaceBy_joined q (p := (· == .char '.')) (fun s hs g hg => by simp [(of_mem_segment hs hg).1]) '.' sep
  rw [joined_char] at hdots ⊢
  exact hdots.symm

theorem normalize_joined {sep : Char} (hsep : sep ∈ separators) : normalize (q.joined [.char sep]) = q.dotted := by
  rw [normalize, replaceBy_isSlash_joined q hsep, trim_dotted]

end

theorem ofText_joined {q : QName} (h : q ≠ unset) {sep : Char} (hsep : sep ∈ separators) :
    ofText (q.joined [.char sep]) = q := by
  have hread : ofText (q.joined [.char sep]) = ofText q.dotted := by
    apply ofText_congr
    rw [normalize_joined q hsep, normalize_dotted]
  rw [hread, ofText_dotted h]

theorem separator_not_mem_segment {q : QName} {s : Text} (hs : s ∈ q.segments) {sep : Char} (hsep : sep ∈ separators) :
    .char sep ∉ s := by
  intro hmem
  obtain ⟨hdot, hslash⟩ := of_mem_segment hs hmem
  simp only [separators, List.mem_cons, List.not_mem_nil, or_false] at hsep
  rcases hsep with rfl | rfl | rfl
  · exact hdot rfl
  · cases hslash
  · cases hslash

theorem segments_inj {p q : QName} : p.segments = q.segments ↔ p = q := by
  refine ⟨fun h => ?_, congrArg segments⟩
  cases p
  cases q
  simpa using h

/-- A name that was read from bytes is written as bytes that are read as they were written. -/
theorem isDecoded_joined (bytes : List UInt8) (sep : Char) :
    Text.IsDecoded ((ofText (Text.ofBytes bytes)).joined [.char sep]) := by
  rw [joined_eq_replaceBy, dotted_ofText]
  exact ((Text.isDecoded_ofBytes bytes).replaceBy _ _).trim.replaceBy _ _

end QName

/-- A name is read back from what it is written as, with every separator, and from the bytes of that. It is the dotted
form of its segments, which have no separators, and names are the same if their segments are. -/
theorem names_read_back (t u : Text) :
    let q := QName.ofText t
    (∀ sep ∈ QName.separators, QName.ofText (q.joined [.char sep]) = q) ∧
      (∀ rules scope, QName.ofText (Php.render rules scope (.name q)) = q) ∧
      (∀ bytes, t = Text.ofBytes bytes → ∀ sep ∈ QName.separators,
        QName.ofText (Text.ofBytes (q.joined [.char sep]).toBytes) = q) ∧
      (q.dotted = (t.replaceBy QName.isSlash '.').trim ∧ q.dotted = Text.join [.char '.'] q.segments) ∧
      (∀ s ∈ q.segments, ∀ sep ∈ QName.separators, .char sep ∉ s) ∧
      (q.same (QName.ofText u) = true ↔ q.segments = (QName.ofText u).segments) := by
  intro q
  have hq : q ≠ .unset := QName.ofText_ne_unset t
  refine ⟨fun sep hsep => QName.ofText_joined hq hsep, ?_, ?_, ⟨QName.dotted_ofText t, rfl⟩, ?_, ?_⟩
  · intro rules scope
    exact QName.ofText_joined hq (show '\\' ∈ QName.separators by decide)
  · rintro bytes rfl sep hsep
    rw [Text.ofBytes_toBytes (QName.isDecoded_joined bytes sep)]
    exact QName.ofText_joined hq hsep
  · intro s hs sep hsep
    exact QName.separator_not_mem_segment hs hsep
  · rw [QName.same_iff, QName.dotted_eq_iff hq (QName.ofText_ne_unset u), QName.segments_inj]

/-! ## Packages -/

theorem Text.getLast?_join_concat {c : Char} {parts : List Text} {last : Text} {g : Glyph}
    (h : (Text.join [.char c] (parts ++ [last])).getLast? = some g) : last.getLast? = some g ∨ g = .char c := by
  by_cases hparts : parts = []
  · simp [hparts, Text.join, List.intercalate] at h
    exact .inl h
  · rw [Text.join_concat _ _ hparts, List.getLast?_append, List.getLast?_append] at h
    cases hlast : last.getLast? with
    | none =>
      simp [hlast] at h
      exact .inr h.symm
    | some g' =>
      simp [hlast] at h
      exact .inl (congrArg some h)

namespace QName

def packageText (q : QName) : Text := Text.join "." q.segments.dropLast

/-- No white space stands before the dot in front of the short name. -/
def KeepsPackage (q : QName) : Prop := ∀ g ∈ (q.segments.dropLast.getLastD []).getLast?, g.isSpace = false

instance (q : QName) : Decidable q.KeepsPackage :=
  inferInstanceAs (Decidable (∀ g ∈ (q.segments.dropLast.getLastD []).getLast?, g.isSpace = false))

section
variable {q : QName} (h : 2 ≤ q.size)
include h

theorem dropLast_ne_nil : q.segments.dropLast ≠ [] := by
  apply List.ne_nil_of_length_pos
  rw [List.length_dropLast]
  unfold size at h
  omega

theorem dropLast_append_shortName : q.segments.dropLast ++ [q.shortName] = q.segments := by
  have hne : q.segments ≠ [] := fun hnil => dropLast_ne_nil h (by simp [hnil])
  rw [shortName, List.getLastD_eq_getLast?, List.getLast?_eq_some_getLast hne]
  exact List.dropLast_concat_getLast hne

theorem shortName_mem : q.shortName ∈ q.segments := by
  rw [← dropLast_append_shortName h]
  simp

theorem ne_unset_of_size : q ≠ unset := by
  rintro rfl
  simp [size, unset] at h

theorem dotted_eq_append : q.dotted = q.packageText ++ .char '.' :: q.shortName := by
  rw [dotted, ← dropLast_append_shortName h, Text.join_concat _ _ (dropLast_ne_nil h), packageText, List.append_assoc]
  rfl

theorem parent_eq : q.parent = ofText q.packageText := by
  unfold size at h
  unfold parent
  split
  · simp_all
  · simp_all
  · rfl

theorem isSlash_of_mem_packageText {g : Glyph} (hg : g ∈ q.packageText) : isSlash g = false := by
  have hmem : g ∈ q.dotted := by simp [dotted_eq_append h, hg]
  rw [← normalize_dotted] at hmem
  exact isSlash_of_mem_normalize hmem

theorem dotted_parent : q.parent.dotted = q.packageText.trim := by
  rw [parent_eq h, dotted_ofText, normalize,
    Text.replaceBy_eq_self fun g hg => isSlash_of_mem_packageText h hg]

/-- A name begins with no white space, so that its package can only lose some at the end. -/
theorem trim_packageText_iff : q.packageText.trim = q.packageText ↔ q.KeepsPackage := by
  obtain ⟨parts, last, hparts⟩ := (List.eq_nil_or_concat q.segments.dropLast).resolve_left (dropLast_ne_nil h)
  rw [List.concat_eq_append] at hparts
  constructor
  · intro htrim g hg
    apply Text.getLast?_trim (t := q.packageText)
    obtain ⟨before, hbefore⟩ := Text.suffix_join "." last parts
    rw [hparts] at hg
    rw [htrim, packageText, hparts, ← hbefore, List.getLast?_append]
    simp_all
  · intro hkeeps
    apply Text.trim_eq_self
    · intro g hg
      apply Text.head?_trim (t := q.dotted)
      rw [trim_dotted, dotted_eq_append h, List.head?_append, hg]
      rfl
    · intro g hg
      rw [packageText, hparts] at hg
      rcases Text.getLast?_join_concat hg with hg | rfl
      · apply hkeeps
        simpa [hparts] using hg
      · rfl

theorem parent_segments_iff : q.parent.segments = q.segments.dropLast ↔ q.KeepsPackage := by
  rw [← trim_packageText_iff h, ← dotted_parent h]
  constructor
  · intro hsegments
    rw [dotted, hsegments, packageText]
  · intro hdotted
    rw [parent_eq h, dotted_ofText] at hdotted
    simp only [parent_eq h, ofText, read, hdotted]
    apply Text.split_join (dropLast_ne_nil h)
    intro s hs hdot
    exact (of_mem_segment (List.dropLast_subset _ hs) hdot).1 rfl

theorem dotted_eq_parent_iff : q.dotted = q.parent.dotted ++ .char '.' :: q.shortName ↔ q.KeepsPackage := by
  rw [← trim_packageText_iff h, ← dotted_parent h, dotted_eq_append h, List.append_left_inj, eq_comm]

end

end QName

namespace Php

def namespaceOf (s : Structure) : Text :=
  -- a file that names no namespace is in the empty one
  match s.package? with
  | some q => namespaced q
  | none => []

theorem namespaced_eq_nil_iff {q : QName} : namespaced q = [] ↔ q.dotted = [] := by
  have hread := QName.replaceBy_isSlash_joined q (show '\\' ∈ QName.separators by decide)
  change (namespaced q).replaceBy QName.isSlash '.' = q.dotted at hread
  rw [← hread, Text.replaceBy, List.map_eq_nil_iff]

theorem namespaceOf_eq (s : Structure) : namespaceOf s = namespaced s.name.parent := by
  unfold namespaceOf Structure.package?
  split
  · simp_all
  · have hempty : s.name.parent.dotted = [] := by simp_all [QName.isEmpty]
    rw [namespaced_eq_nil_iff.2 hempty]

theorem preamble_eq_namespaceOf (s : Structure) :
    preamble s = "<?php\n\n" ++ Text.when (namespaceOf s ≠ []) ("namespace " ++ namespaceOf s ++ ";\n\n") := by
  unfold preamble namespaceOf Structure.package?
  by_cases hempty : s.name.parent.isEmpty = true
  · rw [if_pos hempty]
    rfl
  · have hne : namespaced s.name.parent ≠ [] := by
      rw [Ne, namespaced_eq_nil_iff]
      simpa [QName.isEmpty] using hempty
    simp [hempty, Text.when, hne]

theorem exists_heading (nameOf : QName → Text) (s : Structure) :
    ∃ supertypes, heading nameOf s = s.kind.word ++ " " ++ s.shortName ++ supertypes := by
  unfold heading
  cases s.kind with
  | iface => exact ⟨[], by simp [Kind.word, Text.ofString]⟩
  | klass =>
    have hword : Text.ofString "class " = Kind.klass.word ++ Text.ofString " " := by decide
    rw [hword]
    simp only [List.append_assoc]
    exact ⟨_, rfl⟩

theorem exists_file (rules : List TypeRule) (inherited : Option Catalogue) (s : Structure) :
    ∃ rest, file rules inherited s =
      "<?php\n\n" ++ Text.when (namespaceOf s ≠ []) ("namespace " ++ namespaceOf s ++ ";\n\n") ++
        useLines (imports s (s.methodsIn inherited)) ++ s.kind.word ++ " " ++ s.shortName ++ rest := by
  obtain ⟨supertypes, hheading⟩ := exists_heading (localName (imports s (s.methodsIn inherited))) s
  simp only [file, declaration, hheading, preamble_eq_namespaceOf, List.append_assoc]
  exact ⟨_, rfl⟩

/-- The namespace and the short name are read together as the name, if nothing was lost. -/
theorem ofText_namespaced_iff {q : QName} (h : 2 ≤ q.size) :
    QName.ofText (namespaced q.parent ++ .char '\\' :: q.shortName) = q ↔ q.KeepsPackage := by
  have hread : (namespaced q.parent ++ .char '\\' :: q.shortName).replaceBy QName.isSlash '.' =
      q.parent.dotted ++ .char '.' :: q.shortName := by
    have hlast : q.shortName.replaceBy QName.isSlash '.' = q.shortName :=
      Text.replaceBy_eq_self fun g hg => (QName.of_mem_segment (QName.shortName_mem h) hg).2
    rw [Text.replaceBy_append, ← List.singleton_append, Text.replaceBy_append, hlast]
    exact congrArg (· ++ _) (QName.replaceBy_isSlash_joined q.parent (show '\\' ∈ QName.separators by decide))
  have htrim : (q.parent.dotted ++ .char '.' :: q.shortName).trim = q.parent.dotted ++ .char '.' :: q.shortName := by
    apply Text.trim_eq_self
    · intro g hg
      cases hhead : q.parent.dotted.head? with
      | none =>
        simp [hhead] at hg
        rw [← hg]
        rfl
      | some g' =>
        simp [hhead] at hg
        apply Text.head?_trim (t := q.parent.dotted)
        rw [QName.trim_dotted, hhead, hg]
    · intro g hg
      apply Text.getLast?_trim (t := q.dotted)
      rw [QName.trim_dotted, QName.dotted_eq_append h]
      simpa using hg
  rw [← QName.dotted_eq_iff (QName.ofText_ne_unset _) (QName.ne_unset_of_size h), QName.dotted_ofText, QName.normalize,
    hread, htrim, ← QName.dotted_eq_parent_iff h, eq_comm]

end Php

/-- Where a name has a package, the package has the segments before the last one, and is written with the short name as
the name, exactly if no white space ends what stands before the short name. This holds of the file of a structure too,
with the namespace and the short name that are written there. -/
theorem package_and_short_name_iff (t : Text) (h : 2 ≤ (QName.ofText t).size) :
    let q := QName.ofText t
    (q.parent.segments = q.segments.dropLast ↔ q.KeepsPackage) ∧
      (q.dotted = q.parent.dotted ++ .char '.' :: q.segment (-1) ↔ q.KeepsPackage) ∧
      ∀ s : Structure, s.name = q →
        (∀ rules scope, ∃ rest, Php.render rules scope (.structure s) =
          "<?php\n\n" ++ Text.when (Php.namespaceOf s ≠ []) ("namespace " ++ Php.namespaceOf s ++ ";\n\n") ++
            Php.useLines (Php.imports s (s.methodsIn scope.inherited)) ++ s.kind.word ++ " " ++ s.shortName ++ rest) ∧
        (QName.ofText (Php.namespaceOf s ++ .char '\\' :: s.shortName) = q ↔ q.KeepsPackage) := by
  intro q
  refine ⟨QName.parent_segments_iff h, QName.dotted_eq_parent_iff h, ?_⟩
  intro s hs
  refine ⟨fun rules scope => Php.exists_file rules scope.inherited s, ?_⟩
  rw [Php.namespaceOf_eq, Structure.shortName, hs]
  exact Php.ofText_namespaced_iff h

/-- White space at the ends of segments does no harm elsewhere. -/
theorem blank_segments_kept :
    let q := QName.ofText (Text.ofString "a /\tb\\ c ")
    2 ≤ q.size ∧ q.segments = (["a ", "\tb", " c"] : List Text) ∧ q.parent.segments = (["a ", "\tb"] : List Text) ∧
      q.dotted = q.parent.dotted ++ .char '.' :: q.segment (-1) := by
  intro q
  have hsize : 2 ≤ q.size := by decide
  have hkeeps : q.KeepsPackage := by decide
  obtain ⟨hsegments, hdotted, -⟩ := package_and_short_name_iff (Text.ofString "a /\tb\\ c ") hsize
  exact ⟨hsize, by decide, hsegments.2 hkeeps, hdotted.2 hkeeps⟩

/-- A blank before the dot is lost: the package of `a .b` is `a`. -/
theorem package_loses_blank :
    ¬ ∀ t : Text, 2 ≤ (QName.ofText t).size →
        (QName.ofText t).parent.segments = (QName.ofText t).segments.dropLast ∧
          (QName.ofText t).dotted = (QName.ofText t).parent.dotted ++ .char '.' :: (QName.ofText t).segment (-1) := by
  intro h
  exact absurd (h "a .b" (by decide)).1 (by decide)

end Stencil
