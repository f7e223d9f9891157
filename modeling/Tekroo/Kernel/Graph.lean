import Mathlib.Data.Finset.Card
import Mathlib.Logic.Relation
import Tekroo.Lib.Checked
import Tekroo.Lib.Kahn

/-! # Dependency graphs -/

namespace Tekroo.Kernel

open Checked Lib.Kahn

/-- The texts of `GraphValidation.Reason`. -/
inductive GraphFault where
  | invalidNode | duplicateNode | missingNode | cycle

structure GraphEdge (α : Type) where
  parent : α
  child : α
deriving DecidableEq

variable {α : Type} [DecidableEq α]

/-- The maps that the loop over the edges fills. -/
structure Wiring (α : Type) where
  children : α → List α := fun _ => []
  indegree : α → Int := fun _ => 0
  seenEdges : List (GraphEdge α) := []

def Wiring.add (wiring : Wiring α) (edge : GraphEdge α) : Wiring α where
  children := Function.update wiring.children edge.parent
    (wiring.children edge.parent ++ [edge.child])
  indegree := Function.update wiring.indegree edge.child (wiring.indegree edge.child + 1)
  seenEdges := edge :: wiring.seenEdges

def Wiring.link (nodes : List α) (wiring : Wiring α) (edge : GraphEdge α) :
    Except GraphFault (Wiring α) := do
  refuse (!nodes.contains edge.parent) .missingNode
  refuse (!nodes.contains edge.child) .missingNode
  return if wiring.seenEdges.contains edge then wiring else wiring.add edge

def Wiring.start (nodes : List α) (wiring : Wiring α) : State α where
  indegree := wiring.indegree
  queue := nodes.filter fun node => wiring.indegree node = 0
  visited := 0

/-- The source's nodes are texts; `default` is the empty one.  A pass over the queue takes each
node once, so it has as many turns as there are nodes. -/
def validateDAG [Inhabited α] (nodes : List α) (edges : List (GraphEdge α)) :
    Except GraphFault Unit := do
  distinct (fun node => node != default) .invalidNode .duplicateNode [] nodes
  let wiring ← edges.foldlM (Wiring.link nodes) {}
  refuse ((drain wiring.children nodes.length (wiring.start nodes)).visited != nodes.length) .cycle

structure Wiring.Wired (nodes : List α) (wiring : Wiring α) : Prop where
  edges : ∀ parent child, child ∈ wiring.children parent ↔ ⟨parent, child⟩ ∈ wiring.seenEdges
  once : ∀ parent, (wiring.children parent).Nodup
  known : ∀ parent child, child ∈ wiring.children parent → child ∈ nodes
  counted : ∀ node, wiring.indegree node = openParents nodes wiring.children [] node

variable {nodes : List α} {wiring next : Wiring α} {edge : GraphEdge α} {edges : List (GraphEdge α)}

theorem Wiring.wired_empty : ({} : Wiring α).Wired nodes where
  edges := by simp
  once := by simp
  known := by simp
  counted := by simp [openParents]

theorem openParents_update {children : α → List α} (distinct : nodes.Nodup)
    (known : edge.parent ∈ nodes) (fresh : edge.child ∉ children edge.parent) (node : α) :
    openParents nodes
        (Function.update children edge.parent (children edge.parent ++ [edge.child])) [] node =
      openParents nodes children [] node + if node = edge.child then 1 else 0 := by
  have split := List.perm_cons_erase known
  have absent : edge.parent ∉ nodes.erase edge.parent := distinct.not_mem_erase
  have others : (nodes.erase edge.parent).countP (fun parent => node ∈ Function.update children
        edge.parent (children edge.parent ++ [edge.child]) parent ∧ parent ∉ []) =
      (nodes.erase edge.parent).countP (fun parent => node ∈ children parent ∧ parent ∉ []) := by
    refine List.countP_congr fun parent within => ?_
    have different : parent ≠ edge.parent := fun same => absent (same ▸ within)
    simp [Function.update_of_ne different]
  unfold openParents
  rw [split.countP_eq, split.countP_eq, List.countP_cons, List.countP_cons, others]
  by_cases same : node = edge.child
  · simp [same, fresh]
  · simp [same]

@[simp] theorem Wiring.mem_children_add {parent child : α} :
    child ∈ (wiring.add edge).children parent ↔
      (⟨parent, child⟩ : GraphEdge α) = edge ∨ child ∈ wiring.children parent := by
  obtain ⟨first, second⟩ := edge
  by_cases same : parent = first
  · subst same
    simp [add, or_comm]
  · simp [add, same]

theorem Wiring.Wired.add (wired : wiring.Wired nodes) (distinct : nodes.Nodup)
    (parent : edge.parent ∈ nodes) (child : edge.child ∈ nodes)
    (unseen : edge ∉ wiring.seenEdges) : (wiring.add edge).Wired nodes := by
  have fresh : edge.child ∉ wiring.children edge.parent := by
    rwa [wired.edges]
  refine ⟨fun first second => ?_, fun first => ?_, fun first second member => ?_, fun node => ?_⟩
  · rw [mem_children_add, wired.edges]
    exact List.mem_cons.symm
  · by_cases same : first = edge.parent
    · subst same
      have longer : (wiring.children edge.parent ++ [edge.child]).Nodup :=
        (wired.once _).append (by simp) (by simpa using fresh)
      simpa [Wiring.add] using longer
    · simpa [Wiring.add, Function.update_of_ne same] using wired.once first
  · rcases mem_children_add.mp member with rfl | earlier
    · exact child
    · exact wired.known first second earlier
  · have counted := openParents_update distinct parent fresh node
    by_cases same : node = edge.child
    · subst same
      simp [Wiring.add, counted, wired.counted]
    · simp [Wiring.add, counted, same, wired.counted]

def Wiring.linked (wiring : Wiring α) (edge : GraphEdge α) : Wiring α :=
  if wiring.seenEdges.contains edge then wiring else wiring.add edge

theorem Wiring.foldlM_ok : edges.foldlM (Wiring.link nodes) wiring = .ok next ↔
    (∀ edge ∈ edges, edge.parent ∈ nodes ∧ edge.child ∈ nodes) ∧
      edges.foldl Wiring.linked wiring = next := by
  induction edges generalizing wiring with
  | nil => simp
  | cons edge rest induction => simp [bind_ok, link, linked, induction, and_assoc]

theorem Wiring.Wired.foldl (distinct : nodes.Nodup) (wired : wiring.Wired nodes)
    (known : ∀ edge ∈ edges, edge.parent ∈ nodes ∧ edge.child ∈ nodes) :
    (edges.foldl Wiring.linked wiring).Wired nodes ∧
      ∀ edge, edge ∈ (edges.foldl Wiring.linked wiring).seenEdges ↔
        edge ∈ edges ∨ edge ∈ wiring.seenEdges := by
  induction edges generalizing wiring with
  | nil => exact ⟨wired, by simp⟩
  | cons edge rest induction =>
    obtain ⟨⟨parent, child⟩, known⟩ := List.forall_mem_cons.mp known
    have step : (wiring.linked edge).Wired nodes ∧ ∀ other,
        other ∈ (wiring.linked edge).seenEdges ↔ other = edge ∨ other ∈ wiring.seenEdges := by
      by_cases repeated : edge ∈ wiring.seenEdges
      · simpa +contextual [linked, repeated] using wired
      · simpa [linked, repeated, Wiring.add] using wired.add distinct parent child repeated
    obtain ⟨wired, all⟩ := induction step.1 known
    refine ⟨wired, fun other => ?_⟩
    rw [List.foldl_cons, all, step.2, List.mem_cons]
    tauto

/-- A graph is accepted exactly when it lists its nodes once, none of them empty, joins only
listed nodes and has a rank that grows along its edges. -/
theorem validateDAG_ok [Inhabited α] :
    validateDAG nodes edges = .ok () ↔
      (default ∉ nodes ∧ nodes.Nodup) ∧
        (∀ edge ∈ edges, edge.parent ∈ nodes ∧ edge.child ∈ nodes) ∧
          ∃ rank : α → Nat, ∀ edge ∈ edges, rank edge.parent < rank edge.child := by
  simp only [validateDAG, chain_ok, tests_iff, distinct_ok, Wiring.foldlM_ok, List.forall_mem_ne',
    List.not_mem_nil, not_false_eq_true, implies_true, and_true, and_assoc, exists_and_left,
    exists_eq_left']
  refine and_congr_right fun _ => and_congr_right fun distinct => and_congr_right fun known => ?_
  obtain ⟨wired, seen⟩ := Wiring.wired_empty.foldl distinct known
  set wiring := edges.foldl Wiring.linked {}
  have graph : Graph nodes wiring.children := ⟨distinct, wired.once, wired.known⟩
  have progress : Progress nodes wiring.children (wiring.start nodes) [] :=
    .start graph (fun node _ => wired.counted node) rfl rfl
  rw [visited_eq_length_iff graph progress]
  refine exists_congr fun rank => ⟨fun ranks edge member => ?_, ?_⟩
  · exact ranks _ (known edge member).1 _ ((wired.edges _ _).mpr ((seen edge).mpr (.inl member)))
  · intro ranks parent _ child edge
    exact ranks ⟨parent, child⟩ (by simpa using (seen _).mp ((wired.edges _ _).mp edge))

/-- A rank along the edges counts the nodes from which a node can be reached. -/
theorem exists_rank_iff (known : ∀ edge ∈ edges, edge.parent ∈ nodes ∧ edge.child ∈ nodes) :
    (∃ rank : α → Nat, ∀ edge ∈ edges, rank edge.parent < rank edge.child) ↔
      ∀ node, ¬Relation.TransGen (fun parent child => ⟨parent, child⟩ ∈ edges) node node := by
  classical
  constructor
  · rintro ⟨rank, ranks⟩ node cycle
    have climbs := cycle.lift rank fun parent child edge => ranks ⟨parent, child⟩ edge
    rw [Relation.transGen_eq_self] at climbs
    exact lt_irrefl _ climbs
  · intro acyclic
    let before (node : α) := nodes.toFinset.filter fun other =>
      Relation.TransGen (fun parent child => ⟨parent, child⟩ ∈ edges) other node
    refine ⟨fun node => (before node).card, fun edge member => Finset.card_lt_card ?_⟩
    refine Finset.ssubset_iff_of_subset (fun other reaches => ?_) |>.mpr ⟨edge.parent, ?_, ?_⟩
    · simp only [before, Finset.mem_filter] at reaches ⊢
      exact ⟨reaches.1, reaches.2.tail member⟩
    · simpa [before] using ⟨(known edge member).1, Relation.TransGen.single member⟩
    · simpa [before] using fun _ => acyclic edge.parent

theorem validateDAG_acyclic (nodes : List String) (edges : List (GraphEdge String)) :
    validateDAG nodes edges = .ok () ↔
      (∀ node ∈ nodes, node ≠ "") ∧ nodes.Nodup ∧
        (∀ edge ∈ edges, edge.parent ∈ nodes ∧ edge.child ∈ nodes) ∧
          ∀ node, ¬Relation.TransGen (fun parent child => ⟨parent, child⟩ ∈ edges) node node := by
  rw [validateDAG_ok, ← List.forall_mem_ne', and_assoc]
  refine and_congr_right fun _ => and_congr_right fun _ => and_congr_right fun known => ?_
  exact exists_rank_iff known

end Tekroo.Kernel
