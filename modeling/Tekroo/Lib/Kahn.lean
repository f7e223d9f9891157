import Mathlib.Data.List.Nodup
import Mathlib.Data.List.Count
import Mathlib.Data.List.Perm.Basic
import Mathlib.Logic.Function.Basic
import Mathlib.Order.WellFounded
import Mathlib.Tactic.Common

/-! # Taking nodes in the order of their open parents

Every node is taken exactly when the graph has a rank that grows along its edges, that is, when it
has no cycle.
-/

namespace Tekroo.Lib.Kahn

variable {α : Type} [DecidableEq α]

structure State (α : Type) where
  indegree : α → Int
  queue : List α
  visited : Nat

def release (state : State α) (child : α) : State α :=
  let count := state.indegree child - 1
  { state with
    indegree := Function.update state.indegree child count
    queue := if count = 0 then state.queue ++ [child] else state.queue }

/-- Take the nodes of the queue from its front, until it is empty. -/
def drain (children : α → List α) : Nat → State α → State α
  | 0, state => state
  | fuel + 1, state =>
    match state.queue with
    | [] => state
    | node :: rest =>
      drain children fuel ((children node).foldl release
        { state with queue := rest, visited := state.visited + 1 })

theorem foldl_release (state : State α) {released : List α} (distinct : released.Nodup) :
    released.foldl release state =
      { indegree := fun node =>
          if node ∈ released then state.indegree node - 1 else state.indegree node
        queue := state.queue ++ released.filter (fun node => state.indegree node = 1)
        visited := state.visited } := by
  induction released generalizing state with
  | nil => simp
  | cons child rest induction =>
    obtain ⟨fresh, distinct⟩ := List.nodup_cons.mp distinct
    have others : rest.filter (fun node => (release state child).indegree node = 1) =
        rest.filter (fun node => state.indegree node = 1) := by
      refine List.filter_congr fun node member => ?_
      have different : node ≠ child := fun same => fresh (same ▸ member)
      simp [release, Function.update_of_ne different]
    rw [List.foldl_cons, induction _ distinct, others]
    congr 1
    · funext node
      by_cases same : node = child
      · subst same
        simp [release, fresh]
      · simp [release, same]
    · by_cases last : state.indegree child = 1
      · simp [release, last]
      · have open' : state.indegree child - 1 ≠ 0 := by omega
        simp [release, last, open']

/-- The children of a node are nodes, and a node is listed once. -/
structure Graph (nodes : List α) (children : α → List α) : Prop where
  distinct : nodes.Nodup
  once : ∀ node, (children node).Nodup
  known : ∀ node, ∀ child ∈ children node, child ∈ nodes

def openParents (nodes : List α) (children : α → List α) (done : List α) (node : α) : Nat :=
  nodes.countP fun parent => node ∈ children parent ∧ parent ∉ done

theorem openParents_eq_zero {nodes : List α} {children : α → List α} {done : List α} {node : α} :
    openParents nodes children done node = 0 ↔
      ∀ parent ∈ nodes, node ∈ children parent → parent ∈ done := by
  simp [openParents, List.countP_eq_zero]

theorem openParents_take {nodes : List α} {children : α → List α} {done : List α} {taken : α}
    (distinct : nodes.Nodup) (member : taken ∈ nodes) (fresh : taken ∉ done) (node : α) :
    openParents nodes children done node =
      openParents nodes children (done ++ [taken]) node +
        if node ∈ children taken then 1 else 0 := by
  have split := List.perm_cons_erase member
  have absent : taken ∉ nodes.erase taken := distinct.not_mem_erase
  have others : (nodes.erase taken).countP
        (fun parent => node ∈ children parent ∧ parent ∉ done) =
      (nodes.erase taken).countP
        (fun parent => node ∈ children parent ∧ parent ∉ done ++ [taken]) := by
    refine List.countP_congr fun parent within => ?_
    have different : parent ≠ taken := fun same => absent (same ▸ within)
    simp [different]
  unfold openParents
  rw [split.countP_eq, split.countP_eq, List.countP_cons, List.countP_cons, others]
  simp [fresh]

/-- The nodes taken so far, in order, and those of the queue are the ones without open parents. -/
structure Progress (nodes : List α) (children : α → List α) (state : State α) (done : List α) :
    Prop where
  visited : state.visited = done.length
  distinct : (done ++ state.queue).Nodup
  within : ∀ node ∈ done ++ state.queue, node ∈ nodes
  counted : ∀ node ∈ nodes, state.indegree node = openParents nodes children done node
  released : ∀ node ∈ nodes, node ∈ done ++ state.queue ↔ state.indegree node = 0
  ranked : ∀ node ∈ done, ∀ parent ∈ nodes, node ∈ children parent →
    done.idxOf parent < done.idxOf node

variable {nodes : List α} {children : α → List α} {state : State α} {done rest : List α}
  {node : α}

theorem Progress.start (graph : Graph nodes children)
    (counted : ∀ node ∈ nodes, state.indegree node = openParents nodes children [] node)
    (queue : state.queue = nodes.filter fun node => state.indegree node = 0)
    (visited : state.visited = 0) : Progress nodes children state [] where
  visited
  distinct := by simpa [queue] using graph.distinct.filter _
  within := by simp +contextual [queue]
  counted
  released := by simp +contextual [queue]
  ranked := by simp

/-- Nothing that is taken or waits has a parent that is not yet taken. -/
theorem Progress.closed (progress : Progress nodes children state done)
    (member : node ∈ done ++ state.queue) {parent : α} (known : parent ∈ nodes)
    (edge : node ∈ children parent) : parent ∈ done := by
  have within := progress.within node member
  have zero := (progress.released node within).mp member
  rw [progress.counted node within] at zero
  exact openParents_eq_zero.mp (by exact_mod_cast zero) parent known edge

theorem Progress.take (graph : Graph nodes children)
    (progress : Progress nodes children state done) (front : state.queue = node :: rest) :
    Progress nodes children ((children node).foldl release
      { state with queue := rest, visited := state.visited + 1 }) (done ++ [node]) := by
  rw [foldl_release _ (graph.once node)]
  have distinct : (done ++ node :: rest).Nodup := front ▸ progress.distinct
  have fresh : node ∉ done := by
    intro earlier
    exact (List.disjoint_of_nodup_append distinct) earlier (by simp)
  have waiting : node ∈ done ++ state.queue := by simp [front]
  have known : node ∈ nodes := progress.within node waiting
  have settled : ∀ other ∈ done ++ state.queue, other ∉ children node :=
    fun other member edge => fresh (progress.closed member known edge)
  have parted : ∀ other, other ∈ done ++ [node] ++ rest ↔ other ∈ done ++ state.queue := by
    simp [front]
  -- A child leaves its last open parent behind exactly when its count was one.
  have queued : ∀ other ∈ nodes,
      other ∈ done ++ [node] ++ (rest ++ (children node).filter fun child =>
        state.indegree child = 1) ↔
      (if other ∈ children node then state.indegree other - 1 else state.indegree other) = 0 := by
    intro other within
    rw [← List.append_assoc, List.mem_append, parted, progress.released other within,
      List.mem_filter, decide_eq_true_eq]
    by_cases edge : other ∈ children node
    · have open' : state.indegree other ≠ 0 := fun zero =>
        settled other ((progress.released other within).mpr zero) edge
      simp only [edge, if_true, true_and]
      omega
    · simp [edge]
  refine ⟨by simp [progress.visited], ?_, ?_, ?_, queued, ?_⟩
  · rw [← List.append_assoc]
    refine List.Nodup.append (by simpa using distinct) ((graph.once node).filter _) ?_
    intro other earlier later
    obtain ⟨edge, _⟩ := List.mem_filter.mp later
    exact settled other ((parted other).mp earlier) edge
  · intro other member
    rw [← List.append_assoc, List.mem_append, parted] at member
    rcases member with earlier | later
    · exact progress.within other earlier
    · exact graph.known node other (List.mem_filter.mp later).1
  · intro other within
    simp only [progress.counted other within, openParents_take graph.distinct known fresh other]
    split
    · omega
    · simp
  · intro other member parent within edge
    have early := progress.closed ((parted other).mp (List.mem_append_left rest member)) within edge
    rw [List.idxOf_append_of_mem early]
    rcases List.mem_append.mp member with earlier | last
    · rw [List.idxOf_append_of_mem earlier]
      exact progress.ranked other earlier parent within edge
    · obtain rfl := List.mem_singleton.mp last
      rw [List.idxOf_append_of_notMem fresh]
      exact Nat.lt_add_right _ (List.idxOf_lt_length_of_mem early)

theorem Progress.drain (graph : Graph nodes children) {fuel : Nat}
    (progress : Progress nodes children state done) (enough : nodes.length ≤ done.length + fuel) :
    ∃ final, Progress nodes children (drain children fuel state) final ∧
      (Kahn.drain children fuel state).queue = [] := by
  induction fuel generalizing state done with
  | zero =>
    refine ⟨done, progress, ?_⟩
    have bounded : (done ++ state.queue).length ≤ nodes.length :=
      (List.subperm_of_subset progress.distinct progress.within).length_le
    rw [List.length_append] at bounded
    exact List.eq_nil_of_length_eq_zero (by simp only [Kahn.drain]; omega)
  | succ fuel induction =>
    unfold Kahn.drain
    split
    · next empty => exact ⟨done, progress, empty⟩
    · next node rest front =>
      refine induction (progress.take graph front) ?_
      rw [List.length_append, List.length_singleton]
      omega

def Ranks (nodes : List α) (children : α → List α) (rank : α → Nat) : Prop :=
  ∀ parent ∈ nodes, ∀ child ∈ children parent, rank parent < rank child

/-- The place in the order in which the nodes were taken is a rank. -/
theorem Progress.ranks (progress : Progress nodes children state done)
    (all : ∀ node ∈ nodes, node ∈ done) (graph : Graph nodes children) :
    Ranks nodes children (done.idxOf ·) := fun parent member child edge =>
  progress.ranked child (all child (graph.known parent child edge)) parent member edge

/-- With a rank, the node of least rank among those never taken would have no open parent. -/
theorem Progress.complete {rank : α → Nat} (progress : Progress nodes children state done)
    (empty : state.queue = []) (ranks : Ranks nodes children rank) :
    ∀ node ∈ nodes, node ∈ done := by
  intro node member
  induction least : rank node using Nat.strong_induction_on generalizing node with
  | _ bound induction =>
    have closed : openParents nodes children done node = 0 := by
      refine openParents_eq_zero.mpr fun parent known edge => ?_
      exact induction _ (least ▸ ranks parent known node edge) parent known rfl
    have zero : state.indegree node = 0 := by
      rw [progress.counted node member, closed]
      rfl
    have taken := (progress.released node member).mpr zero
    rwa [empty, List.append_nil] at taken

theorem visited_eq_length_iff (graph : Graph nodes children)
    (progress : Progress nodes children state []) :
    (drain children nodes.length state).visited = nodes.length ↔
      ∃ rank, Ranks nodes children rank := by
  have enough : nodes.length ≤ ([] : List α).length + nodes.length := by simp
  obtain ⟨final, ended, empty⟩ := progress.drain graph enough
  have sub : final ⊆ nodes := fun node member => ended.within node (by simp [member])
  have part : final.Subperm nodes :=
    List.subperm_of_subset (List.nodup_append.mp ended.distinct).1 sub
  rw [ended.visited]
  constructor
  · intro all
    refine ⟨_, ended.ranks (fun node member => ?_) graph⟩
    exact (part.perm_of_length_le (by omega)).mem_iff.mpr member
  · rintro ⟨rank, ranks⟩
    have covers := ended.complete empty ranks
    exact Nat.le_antisymm part.length_le (List.subperm_of_subset graph.distinct covers).length_le

end Tekroo.Lib.Kahn
