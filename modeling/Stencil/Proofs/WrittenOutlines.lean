import Stencil.Proofs.Complaints
import Stencil.Proofs.WrittenLines

/-!
# Outlines that are written

Structures written one below the other, each with its header and its methods, are read back as they are and without a
complaint, if the type of every parameter has a name. If one has not, its method is reported.
-/

namespace Stencil.Outline

def writeStructure (s : Structure) : List Text := writeHeader s :: s.methods.map writeMethod

def write (l : List Structure) : Text := Text.join "\n" (l.flatMap writeStructure)

/-! ## One structure -/

theorem stripped_eq_self {line : Text} (h : line.getLast? ≠ some (.char '\r')) : stripped line = line := by
  apply Text.dropEndWhile_eq_self
  intro g hg
  simpa using fun heq : g = .char '\r' => h (heq ▸ hg)

theorem stripped_writeHeader {s : Structure} (h : s.IsWritable) : stripped (writeHeader s) = writeHeader s := by
  obtain ⟨q, hq, front, hfront⟩ := suffix_writeHeader h
  apply stripped_eq_self
  intro hlast
  have hend : (QName.normalize q.dotted).getLast? = some (.char '\r') := by
    rw [← hfront, List.getLast?_append_of_ne_nil _ hq.ne_nil] at hlast
    rwa [QName.normalize_dotted]
  exact absurd (Text.getLast?_trim hend) (by decide)

theorem stripped_writeMethod (m : Method) : stripped (writeMethod m) = writeMethod m := by
  have hlast : (writeMethod m).getLast? = some (.char ')') := List.getLast?_concat
  apply stripped_eq_self
  simp [hlast]

theorem kind_writeHeader (s : Structure) : LineKind.of (writeHeader s) = .header := by
  unfold writeHeader
  cases s.kind with
  | klass => rfl
  | iface => rfl

theorem kind_writeMethod (m : Method) : LineKind.of (writeMethod m) = .method := by
  have hblank : (writeMethod m).isBlank = false := by
    unfold Text.isBlank
    rw [List.all_eq_false]
    exact ⟨.char ')', List.mem_append_right _ (List.mem_singleton.2 rfl), by decide⟩
  unfold LineKind.of
  rw [hblank]
  rfl

def passage (s : Structure) (h : s.IsWritable) : Passage where
  header := writeHeader s
  body := s.methods.map writeMethod
  declared := { s with methods := [] }
  unbroken := by
    rw [List.forall_mem_cons]
    refine ⟨newline_not_mem_writeHeader h, ?_⟩
    intro line hline
    obtain ⟨m, hm, rfl⟩ := List.mem_map.1 hline
    exact newline_not_mem_writeMethod (h.methods m hm)
  isHeader := by rw [stripped_writeHeader h, kind_writeHeader]
  accepted := by rw [stripped_writeHeader h, structure?_writeHeader h]
  below := by
    intro line hline
    obtain ⟨m, _, rfl⟩ := List.mem_map.1 hline
    rw [stripped_writeMethod, kind_writeMethod]
    decide

theorem bodyOf_eq_self {ls : List Text} (h : ∀ line ∈ ls, LineKind.of line = .method) : bodyOf ls = ls := by
  induction ls with
  | nil => rfl
  | cons line ls ih =>
    rw [bodyOf_cons_method (h line (by simp)), ih fun l hl => h l (List.mem_cons_of_mem _ hl)]

theorem body_passage {s : Structure} (h : s.IsWritable) :
    (passage s h).block.body = s.methods.map writeMethod := by
  have hstripped : (s.methods.map writeMethod).map stripped = s.methods.map writeMethod := by
    rw [List.map_map]
    exact List.map_congr_left fun m _ => stripped_writeMethod m
  have hbody : (passage s h).block.body = bodyOf ((s.methods.map writeMethod).map stripped) := rfl
  rw [hbody, hstripped]
  apply bodyOf_eq_self
  intro line hline
  obtain ⟨m, _, rfl⟩ := List.mem_map.1 hline
  exact kind_writeMethod m

/-- Every type that a parameter of the structure has is named. -/
def TypesNamed (s : Structure) : Prop := ∀ m ∈ s.methods, ∀ p ∈ m.params, p.type.text ≠ []

theorem built_passage {s : Structure} (h : s.IsWritable) (hnames : TypesNamed s) : (passage s h).built = s := by
  have hmethods : (passage s h).block.methods = s.methods := by
    unfold Block.methods
    rw [body_passage h, List.filterMap_map, List.filterMap_congr (g := some), List.filterMap_some]
    intro m hm
    simp [method?_writeMethod (h.methods m hm) (hnames m hm), Except.toOption]
  have hbuilt : (passage s h).built =
      (passage s h).block.methods.foldl Structure.addMethod { s with methods := [] } := rfl
  rw [hbuilt, hmethods, foldl_addMethod, Keyed.foldl_put_eq_self Method.name h.methods_distinct]

theorem typesNamed_iff {s : Structure} (h : s.IsWritable) :
    TypesNamed s ↔ ∀ line ∈ (passage s h).block.body, (method? line).isOk = true := by
  rw [body_passage h]
  constructor
  · intro hnames line hline
    obtain ⟨m, hm, rfl⟩ := List.mem_map.1 hline
    rw [method?_writeMethod (h.methods m hm) (hnames m hm)]
    rfl
  · intro hok m hm
    exact names_of_isOk_method? (h.methods m hm) (hok _ (List.mem_map_of_mem hm))

/-! ## All of them -/

section
variable {l : List Structure} (h : ∀ s ∈ l, s.IsWritable)
include h

theorem write_eq_source : write l = source (l.pmap passage h) := by
  have hlines : (l.pmap passage h).flatMap Passage.lines = l.flatMap writeStructure := by
    rw [List.flatMap_def, List.flatMap_def, List.map_pmap, ← List.pmap_eq_map h]
    rfl
  unfold write source
  rw [hlines]
  rfl

theorem diagnostics_write : (read (write l)).diagnostics = [] ↔ ∀ s ∈ l, TypesNamed s := by
  rw [write_eq_source h, diagnostics_source]
  constructor
  · intro hok s hs
    rw [typesNamed_iff (h s hs)]
    exact hok _ (List.mem_pmap.2 ⟨s, hs, rfl⟩)
  · intro hnames p hp
    obtain ⟨s, hs, rfl⟩ := List.mem_pmap.1 hp
    exact (typesNamed_iff (h s hs)).1 (hnames s hs)

theorem entries_write (hdistinct : l.Pairwise fun s t => s.name.dotted ≠ t.name.dotted)
    (hnames : ∀ s ∈ l, TypesNamed s) : (read (write l)).catalogue.entries = l := by
  have hbuilt : l.pmap (fun s hs => (passage s hs).built) h = l.pmap (fun s _ => s) h :=
    List.pmap_congr_left l fun s hs _ _ => built_passage _ (hnames s hs)
  rw [write_eq_source h, entries_source, List.map_pmap]
  · rw [hbuilt, List.pmap_eq_map, List.map_id']
  · rw [List.pairwise_pmap]
    exact hdistinct.imp fun hne _ _ => hne

end

/-- Structures with different names that are written as an outline are read back, all of them and in their order and
without a complaint, exactly if no parameter has a type without a name. -/
theorem written_read_back_iff {l : List Structure} (hdistinct : l.Pairwise fun s t => s.name.dotted ≠ t.name.dotted)
    (h : ∀ s ∈ l, s.IsWritable) :
    (read (write l)).diagnostics = [] ∧ (read (write l)).catalogue.entries = l ↔
      ∀ s ∈ l, ∀ m ∈ s.methods, ∀ p ∈ m.params, p.type.text ≠ [] := by
  constructor
  · rintro ⟨hdiagnostics, _⟩
    exact (diagnostics_write h).1 hdiagnostics
  · intro hnames
    exact ⟨(diagnostics_write h).2 hnames, entries_write h hdistinct hnames⟩

def crowded : List Structure :=
  [{ name := .ofText "class", kind := .klass, base := some (.ofText "extends"),
     interfaces := [.ofText "implements", .ofText "app.interface"],
     methods :=
      [⟨"void", .ofText "int", [⟨.ofText "string", "x", true⟩, ⟨.ofText "geo.Point(2", "[]", false⟩]⟩,
       ⟨"run", .ofText "Job", []⟩] },
   { name := .ofText "#tag", kind := .iface, base := none, interfaces := [.ofText "extends"], methods := [] }]

theorem crowded_read_back :
    (crowded.Pairwise fun s t => s.name.dotted ≠ t.name.dotted) ∧ (∀ s ∈ crowded, s.IsWritable) ∧
      (read (write crowded)).diagnostics = [] ∧ (read (write crowded)).catalogue.entries = crowded := by
  have hdistinct : crowded.Pairwise fun s t => s.name.dotted ≠ t.name.dotted := by decide
  have hwritable : ∀ s ∈ crowded, s.IsWritable := by decide
  exact ⟨hdistinct, hwritable, (written_read_back_iff hdistinct hwritable).2 (by decide)⟩

def nameless : Structure :=
  { name := .ofText "A", kind := .klass, base := none, interfaces := [],
    methods := [⟨"run", .void, [⟨.ofText [], "x", false⟩]⟩] }

theorem written_not_read_back :
    ¬ ∀ l : List Structure, (l.Pairwise fun s t => s.name.dotted ≠ t.name.dotted) → (∀ s ∈ l, s.IsWritable) →
      (read (write l)).diagnostics = [] ∧ (read (write l)).catalogue.entries = l := by
  intro hall
  have hback := hall [nameless] (by decide) (by decide)
  exact absurd hback.1 (by decide)

end Stencil.Outline
