import Archimate.Proofs.Digraph.Locality
import Archimate.Proofs.Relationship.Cycles
import Mathlib.Data.List.Basic

namespace Archimate

/-- The members of two lists in one, each list in its own order. -/
inductive Interleaving {α : Type} : List α → List α → List α → Prop where
  | nil : Interleaving [] [] []
  | left {as bs cs : List α} (a : α) (h : Interleaving as bs cs) :
    Interleaving (a :: as) bs (a :: cs)
  | right {as bs cs : List α} (b : α) (h : Interleaving as bs cs) :
    Interleaving as (b :: bs) (b :: cs)

namespace Interleaving

variable {α : Type} {as bs cs : List α}

theorem symm (h : Interleaving as bs cs) : Interleaving bs as cs := by
  induction h with
  | nil => exact nil
  | left a _ ih => exact right a ih
  | right b _ ih => exact left b ih

theorem mem_iff {item : α} (h : Interleaving as bs cs) : item ∈ cs ↔ item ∈ as ∨ item ∈ bs := by
  induction h with
  | nil => simp
  | left a _ ih => simp only [List.mem_cons, ih, or_assoc]
  | right b _ ih => simp only [List.mem_cons, ih, or_left_comm]

theorem filter (p : α → Bool) (h : Interleaving as bs cs) :
    Interleaving (as.filter p) (bs.filter p) (cs.filter p) := by
  induction h with
  | nil => exact nil
  | left a _ ih =>
    by_cases hp : p a = true
    · simpa [hp] using ih.left a
    · simpa [hp] using ih
  | right b _ ih =>
    by_cases hp : p b = true
    · simpa [hp] using ih.right b
    · simpa [hp] using ih

theorem map {β : Type} (f : α → β) (h : Interleaving as bs cs) :
    Interleaving (as.map f) (bs.map f) (cs.map f) := by
  induction h with
  | nil => exact nil
  | left a _ ih => exact ih.left (f a)
  | right b _ ih => exact ih.right (f b)

/-- What is true of the one list and of nothing in the other sorts them out again. -/
theorem filter_eq_left {p : α → Bool} (h : Interleaving as bs cs) (has : ∀ a ∈ as, p a = true)
    (hbs : ∀ b ∈ bs, p b = false) : cs.filter p = as := by
  induction h with
  | nil => rfl
  | left a _ ih =>
    rw [List.forall_mem_cons] at has
    rw [List.filter_cons_of_pos has.1, ih has.2 hbs]
  | right b _ ih =>
    rw [List.forall_mem_cons] at hbs
    rw [List.filter_cons_of_neg (by simp [hbs.1]), ih has hbs.2]

end Interleaving

namespace Relationships

variable {rs ss ts : List Relationship}

def structuralEnds (rs : List Relationship) : List Text :=
  (structuralEdges rs).flatMap fun edge => [edge.1, edge.2]

/-- No structural relationship of the one list has an end in common with one of the other. -/
def Apart (rs ss : List Relationship) : Prop := (structuralEnds rs).Disjoint (structuralEnds ss)

theorem mem_structuralEnds {node : Text} : node ∈ structuralEnds rs ↔
    ∃ edge ∈ structuralEdges rs, node = edge.1 ∨ node = edge.2 := by
  simp [structuralEnds]

theorem Apart.symm (h : Apart rs ss) : Apart ss rs := List.disjoint_symm h

theorem edges_of_interleaving (h : Interleaving rs ss ts) :
    Interleaving (structuralEdges rs) (structuralEdges ss) (structuralEdges ts) :=
  (h.filter _).map _

theorem part_of_interleaving (h : Interleaving rs ss ts) (hapart : Apart rs ss) :
    Digraph.Part (fun node => decide (node ∈ structuralEnds rs)) (structuralGraph ts)
      (structuralGraph rs) := by
  have hedges := edges_of_interleaving h
  have hown : ∀ edge ∈ structuralEdges rs,
      edge.1 ∈ structuralEnds rs ∧ edge.2 ∈ structuralEnds rs :=
    fun edge he => ⟨mem_structuralEnds.mpr ⟨edge, he, Or.inl rfl⟩,
      mem_structuralEnds.mpr ⟨edge, he, Or.inr rfl⟩⟩
  have hother : ∀ edge ∈ structuralEdges ss,
      edge.1 ∉ structuralEnds rs ∧ edge.2 ∉ structuralEnds rs :=
    fun edge he => ⟨fun hm => hapart hm (mem_structuralEnds.mpr ⟨edge, he, Or.inl rfl⟩),
      fun hm => hapart hm (mem_structuralEnds.mpr ⟨edge, he, Or.inr rfl⟩)⟩
  have hsorted : (structuralEdges ts).filter (fun edge => decide (edge.1 ∈ structuralEnds rs)) =
      structuralEdges rs :=
    hedges.filter_eq_left (fun edge he => by simp [(hown edge he).1])
      (fun edge he => by simp [(hother edge he).1])
  have hborder : ∀ edge ∈ structuralEdges ts,
      decide (edge.2 ∈ structuralEnds rs) = decide (edge.1 ∈ structuralEnds rs) := by
    intro edge he
    rcases hedges.mem_iff.mp he with he | he
    · simp [hown edge he]
    · simp [hother edge he]
  unfold structuralGraph
  rw [← hsorted]
  exact Digraph.part_ofEdges hborder

def cyclesFrom (sources : List Text) (v : Verdict) : List Finding :=
  (v.errorsOf .circularDependency).filter fun f => f.element.any fun node => node ∈ sources

/-- A structural source of the whole list is an end of the first list only as one of its sources. -/
theorem mem_sources_iff_mem_ends (h : Interleaving rs ss ts) (hapart : Apart rs ss) {node : Text}
    (hnode : node ∈ structuralSources ts) :
    node ∈ structuralSources rs ↔ node ∈ structuralEnds rs := by
  rw [← map_fst_structuralEdges] at hnode ⊢
  constructor
  · intro hm
    obtain ⟨edge, he, rfl⟩ := List.mem_map.mp hm
    exact mem_structuralEnds.mpr ⟨edge, he, Or.inl rfl⟩
  · intro hend
    obtain ⟨edge, he, rfl⟩ := List.mem_map.mp hnode
    rcases (edges_of_interleaving h).mem_iff.mp he with he | he
    · exact List.mem_map_of_mem he
    · exact absurd (mem_structuralEnds.mpr ⟨edge, he, Or.inl rfl⟩) (hapart hend)

theorem cyclesFrom_of_interleaving (h : Interleaving rs ss ts) (hapart : Apart rs ss) :
    cyclesFrom (structuralSources rs) (validate ts) =
      (validate rs).errorsOf .circularDependency := by
  have hroots := Digraph.filter_cycleRoots (part_of_interleaving h hapart)
  have hsources : (structuralGraph ts).cycleRoots.filter (fun node => node ∈ structuralSources rs) =
      (structuralGraph ts).cycleRoots.filter fun node => decide (node ∈ structuralEnds rs) := by
    apply List.filter_congr
    intro node hnode
    have hmem := List.mem_eraseDups.mp ((cycleRoots_sublist_sources ts).subset hnode)
    exact decide_eq_decide.mpr (mem_sources_iff_mem_ends h hapart hmem)
  unfold cyclesFrom
  rw [errorsOf_circularDependency, errorsOf_circularDependency]
  unfold cycleFindings
  rw [List.filter_map, ← hroots, ← hsources]
  rfl

/-- The cycles of lists that have no structural end in common are reported as if each list stood
alone, in whatever way the lists are interleaved. -/
theorem cycle_reports_apart (rs ss ts : List Relationship) (h : Interleaving rs ss ts)
    (hapart : Apart rs ss) :
    cyclesFrom (structuralSources rs) (validate ts) =
      (validate rs).errorsOf .circularDependency ∧
    cyclesFrom (structuralSources ss) (validate ts) =
      (validate ss).errorsOf .circularDependency :=
  ⟨cyclesFrom_of_interleaving h hapart, cyclesFrom_of_interleaving h.symm hapart.symm⟩

def firstLoop : List Relationship :=
  [{ uid := "r1", type := .composition, source := "a", target := "b" },
   { uid := "r2", type := .composition, source := "b", target := "a" }]

/-- A loop, a way to it, and a flow to the other loop. -/
def secondLoop : List Relationship :=
  [{ uid := "s1", type := .aggregation, source := "x", target := "y" },
   { uid := "s2", type := .flow, source := "y", target := "a" },
   { uid := "s3", type := .realization, source := "y", target := "y" }]

def bothLoops : List Relationship :=
  [secondLoop[0], firstLoop[0], secondLoop[1], secondLoop[2], firstLoop[1]]

theorem cycle_reports_apart_loops :
    Interleaving firstLoop secondLoop bothLoops ∧ Apart firstLoop secondLoop ∧
    cyclesFrom (structuralSources firstLoop) (validate bothLoops) =
      (validate firstLoop).errorsOf .circularDependency ∧
    cyclesFrom (structuralSources secondLoop) (validate bothLoops) =
      (validate secondLoop).errorsOf .circularDependency := by
  have hmerged : Interleaving firstLoop secondLoop bothLoops :=
    .right _ (.left _ (.right _ (.right _ (.left _ .nil))))
  have hapart : Apart firstLoop secondLoop := by
    unfold Apart List.Disjoint
    decide
  exact ⟨hmerged, hapart, cycle_reports_apart _ _ _ hmerged hapart⟩

end Relationships

end Archimate
