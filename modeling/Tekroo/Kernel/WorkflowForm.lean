import Tekroo.Kernel.Workflow

/-! # The form of a workflow instance -/

namespace Tekroo.Kernel

open Checked WorkflowNode WorkflowStageDefinition

variable {hash : WorkflowDefinition → Digest} {definition : WorkflowDefinition}
  {stage : WorkflowStageDefinition} {nodes others : List WorkflowNode} {node other : WorkflowNode}
  {id : UUIDv7} {current next : WorkflowInstance} {transition : WorkflowTransition}

def Distinct (nodes : List WorkflowNode) : Prop := (nodes.map nodeID).Nodup

theorem Distinct.nodeByID (distinct : Distinct nodes) :
    workflowNodeByID nodes id = some node ↔ node ∈ nodes ∧ node.nodeID = id :=
  Lib.find?_key_iff distinct

theorem Distinct.eq (distinct : Distinct nodes) (first : node ∈ nodes) (second : other ∈ nodes)
    (same : node.nodeID = other.nodeID) : node = other :=
  List.inj_on_of_nodup_map distinct first second same

def WorkflowStageDefinition.accepts (stage : WorkflowStageDefinition)
    (state : WorkflowNodeState) : Bool :=
  state == .completed || stage.optional && state == .skipped || stage.repairs && state == .failed

variable {state : WorkflowNodeState} {test : WorkflowNodeState → Bool}

theorem WorkflowStageDefinition.accepts_iff :
    stage.accepts state = true ↔ state = .completed ∨ stage.optional = true ∧ state = .skipped ∨
      stage.repairs = true ∧ state = .failed := by
  simp [accepts, or_assoc]

theorem WorkflowStageDefinition.required_of_repairs (repairs : stage.repairs = true) :
    stage.optional = false := by
  simp only [WorkflowStageDefinition.repairs, tests_iff] at repairs
  exact repairs.1

def reached (nodes : List WorkflowNode) (test : WorkflowNodeState → Bool) (id : UUIDv7) : Bool :=
  (workflowNodeByID nodes id).any fun node => test node.state

theorem reached_eq (test : WorkflowNodeState → Bool) :
    reached nodes test = fun id =>
      (workflowNodeByID nodes id).any fun node => test node.state := rfl

theorem predecessorsSatisfied_eq
    (found : workflowStageByID definition node.stageID = some stage) :
    predecessorsSatisfied definition nodes node =
      (node.predecessorNodeIDs.all (reached nodes stage.accepts) &&
        (!stage.repairs || node.predecessorNodeIDs.any (reached nodes (· == .failed)))) := by
  simp only [predecessorsSatisfied, found, predecessorsCompleted]
  cases optional : stage.optional with
  | true =>
    have repairs : stage.repairs = false := by simp [repairs, optional]
    have accepts : stage.accepts = fun state => state == .completed || state == .skipped := by
      funext state
      simp [accepts, optional, repairs]
    simp [repairs, accepts, reached_eq]
  | false =>
    have repairs : stage.repairs = !(stage.purpose != .repair && stage.purpose != .replan) := by
      simp [repairs, optional, bne]
    cases plain : stage.purpose != .repair && stage.purpose != .replan with
    | true =>
      rw [plain] at repairs
      have accepts : stage.accepts = (· == .completed) := by
        funext state
        simp [accepts, optional, repairs]
      simp [repairs, accepts, reached_eq]
    | false =>
      rw [plain] at repairs
      have accepts : stage.accepts = fun state => state == .completed || state == .failed := by
        funext state
        simp [accepts, optional, repairs]
      -- Without predecessors no candidate has failed, so the check for it decides nothing.
      cases node.predecessorNodeIDs with
      | nil => simp [repairs]
      | cons => simp [repairs, accepts, reached_eq]

theorem Distinct.reached (distinct : Distinct nodes) :
    reached nodes test id = true ↔ ∃ node ∈ nodes, node.nodeID = id ∧ test node.state = true := by
  simp only [Kernel.reached, Option.any_eq_true, distinct.nodeByID, and_assoc]

theorem Distinct.satisfied (distinct : Distinct nodes)
    (found : workflowStageByID definition node.stageID = some stage) :
    predecessorsSatisfied definition nodes node = true ↔
      (∀ id ∈ node.predecessorNodeIDs, ∃ predecessor ∈ nodes,
        predecessor.nodeID = id ∧ stage.accepts predecessor.state = true) ∧
      (stage.repairs = true → ∃ predecessor ∈ nodes,
        predecessor.nodeID ∈ node.predecessorNodeIDs ∧ predecessor.state = .failed) := by
  rw [predecessorsSatisfied_eq found]
  simp only [tests_iff, List.any_eq_true, distinct.reached]
  refine and_congr_right fun _ => ?_
  rw [← Bool.not_eq_true, ← imp_iff_not_or]
  refine imp_congr_right fun _ => ⟨?_, ?_⟩
  · rintro ⟨id, listed, predecessor, member, rfl, failed⟩
    exact ⟨predecessor, member, listed, failed⟩
  · rintro ⟨predecessor, member, listed, failed⟩
    exact ⟨_, listed, predecessor, member, rfl, failed⟩

def WorkflowNodeState.settled (state : WorkflowNodeState) : Bool :=
  state == .completed || state == .skipped || state == .failed

/-- Nothing that waits can tell the two nodes apart. -/
def WorkflowNode.Alike (before after : WorkflowNode) : Prop :=
  after.nodeID = before.nodeID ∧
    (after.state = before.state ∨ before.state.settled = false ∧ after.state.settled = false)

theorem WorkflowNode.Alike.refl (node : WorkflowNode) : node.Alike node := ⟨rfl, .inl rfl⟩

theorem WorkflowNode.Alike.any (waits : ∀ state, test state = true → state.settled = true)
    (alike : node.Alike other) : test other.state = test node.state := by
  rcases alike.2 with same | ⟨first, second⟩
  · rw [same]
  · have early : test node.state = false := by
      by_contra passes
      exact absurd (waits _ (by simpa using passes)) (by simp [first])
    have late : test other.state = false := by
      by_contra passes
      exact absurd (waits _ (by simpa using passes)) (by simp [second])
    rw [early, late]

theorem reached_alike (alike : List.Forall₂ Alike nodes others)
    (waits : ∀ state, test state = true → state.settled = true) (id : UUIDv7) :
    reached others test id = reached nodes test id := by
  induction alike with
  | nil => rfl
  | @cons node other nodes others same _ induction =>
    by_cases here : node.nodeID = id
    · have also : other.nodeID = id := same.1.trans here
      simp [reached, workflowNodeByID, here, also, same.any waits]
    · have also : ¬other.nodeID = id := fun equal => here (same.1.symm.trans equal)
      simpa [reached, workflowNodeByID, here, also] using induction

theorem WorkflowStageDefinition.settled_of_accepts (accepted : stage.accepts state = true) :
    state.settled = true := by
  rcases accepts_iff.mp accepted with rfl | ⟨_, rfl⟩ | ⟨_, rfl⟩ <;> rfl

theorem predecessorsSatisfied_alike (alike : List.Forall₂ Alike nodes others)
    (node : WorkflowNode) :
    predecessorsSatisfied definition others node = predecessorsSatisfied definition nodes node := by
  cases found : workflowStageByID definition node.stageID with
  | none =>
    have completed : ∀ state : WorkflowNodeState, (state == .completed) = true →
        state.settled = true := by simp +contextual [WorkflowNodeState.settled]
    have same := funext (reached_alike alike completed)
    simp only [reached_eq] at same
    simp only [predecessorsSatisfied, found, predecessorsCompleted, same]
  | some stage =>
    have failed : ∀ state : WorkflowNodeState, (state == .failed) = true →
        state.settled = true := by simp +contextual [WorkflowNodeState.settled]
    rw [predecessorsSatisfied_eq found, predecessorsSatisfied_eq found,
      funext (reached_alike alike fun _ => settled_of_accepts), funext (reached_alike alike failed)]

def WorkflowNode.readied (definition : WorkflowDefinition) (nodes : List WorkflowNode)
    (node : WorkflowNode) : WorkflowNode :=
  if node.state == .pending && predecessorsSatisfied definition nodes node then
    { node with state := .ready }
  else node

theorem WorkflowNode.readied_of_ne (other : node.state ≠ .pending) :
    node.readied definition nodes = node := by
  simp [readied, other]

theorem WorkflowNode.readied_alike (node : WorkflowNode) :
    node.Alike (node.readied definition nodes) := by
  unfold readied
  split
  · have pending : node.state = .pending := by simp_all
    exact ⟨rfl, .inr (by simp [pending, WorkflowNodeState.settled])⟩
  · exact .refl node

/-- Turning nodes ready one after the other or all at once is the same. -/
theorem makeReady_append (earlier rest : List WorkflowNode) :
    makeReady definition (earlier.map (readied definition (earlier ++ rest))) rest =
      (earlier ++ rest).map (readied definition (earlier ++ rest)) := by
  induction rest generalizing earlier with
  | nil => simp [makeReady]
  | cons node rest induction =>
    have alike : List.Forall₂ Alike (earlier ++ node :: rest)
        (earlier.map (readied definition (earlier ++ node :: rest)) ++ node :: rest) := by
      refine List.rel_append ?_ (List.forall₂_same.mpr fun node _ => .refl node)
      rw [List.forall₂_map_right_iff]
      exact List.forall₂_same.mpr fun node _ => node.readied_alike
    have later := induction (earlier ++ [node])
    rw [List.append_assoc, List.singleton_append, List.map_append, List.map_singleton] at later
    rwa [makeReady, predecessorsSatisfied_alike alike]

theorem makeReady_eq (nodes : List WorkflowNode) :
    makeReady definition [] nodes = nodes.map (readied definition nodes) :=
  makeReady_append [] nodes

theorem Distinct.alterNode (distinct : Distinct nodes) (change : WorkflowNode → WorkflowNode) :
    alterNode id change nodes =
      nodes.map fun node => if node.nodeID = id then change node else node := by
  induction nodes with
  | nil => rfl
  | cons node rest induction =>
    obtain ⟨fresh, distinct⟩ := List.nodup_cons.mp distinct
    by_cases here : node.nodeID = id
    · have others : ∀ other ∈ rest, other.nodeID ≠ id := fun other member same =>
        fresh (List.mem_map.mpr ⟨other, member, same.trans here.symm⟩)
      have kept : (rest.map fun node => if node.nodeID = id then change node else node) = rest :=
        (List.map_congr_left fun other member => if_neg (others other member)).trans
          (List.map_id rest)
      simp [Kernel.alterNode, here, kept]
    · simp [Kernel.alterNode, here, induction distinct]

structure WorkflowNode.Formed (definition : WorkflowDefinition) (node : WorkflowNode) : Prop where
  shaped : node.shaped definition = true
  fields : (node.actorFQN.all ActorFQN.valid && node.invocationID.all UUIDv7.valid &&
    node.progressDigest.all Digest.valid && node.checkpointID.all UUIDv7.valid &&
    node.continuationNodeID.all UUIDv7.valid) = true
  blocked : node.state = .blocked ↔ node.blockedFrom.isSome = true
  earlier : ∀ state, node.blockedFrom = some state → state.valid = true ∧ state ≠ .blocked
  held : node.state = .admitted ∨ node.state = .running ∨ node.state = .completed ∨
    node.state = .failed ∨ node.blockedFrom = some .admitted ∨ node.blockedFrom = some .running →
      node.assigned = true
  free : node.state = .pending ∨ node.state = .ready ∨ node.state = .skipped ∨
    node.blockedFrom = some .ready → node.unassigned = true
  skipped : node.state = .skipped → workflowSkippableStage definition node.stageID = true ∧
    node.progressDigest = none ∧ node.checkpointID = none ∧ node.continuationNodeID = none ∧
      node.outputEvidenceIDs = [] ∧ node.failureClassification = .none
  failed : node.state = .failed → node.progressDigest.isSome = true ∧
    node.failureClassification ≠ .none ∧ node.failureClassification ≠ .cancelled
  cancelled : node.state = .cancelled → node.failureClassification = .cancelled

theorem WorkflowNode.consistent_iff : node.consistent definition = true ↔
    ((((node.actorFQN.all ActorFQN.valid = true ∧ node.invocationID.all UUIDv7.valid = true) ∧
      node.progressDigest.all Digest.valid = true) ∧ node.checkpointID.all UUIDv7.valid = true) ∧
      node.continuationNodeID.all UUIDv7.valid = true) ∧
    ((∀ state, node.blockedFrom = some state → state.valid = true ∧ state ≠ .blocked) ∧
      (node.state = .blocked → node.blockedFrom.isSome = true) ∧
      (node.state ≠ .blocked → node.blockedFrom = none)) ∧
    ((node.blockedFrom.any fun earlier => earlier == .admitted || earlier == .running) = true →
      node.assigned = true) ∧
    (node.blockedFrom.any (· == .ready) = true → node.unassigned = true) ∧
    (((node.state = .admitted ∨ node.state = .running) ∨ node.state = .completed) ∨
      node.state = .failed → node.assigned = true) ∧
    ((node.state = .pending ∨ node.state = .ready) ∨ node.state = .skipped →
      node.unassigned = true) ∧
    (node.state = .skipped → ((((workflowSkippableStage definition node.stageID = true ∧
      node.progressDigest = none) ∧ node.checkpointID = none) ∧ node.continuationNodeID = none) ∧
      node.outputEvidenceIDs = []) ∧ node.failureClassification = .none) ∧
    (node.state = .failed → (node.progressDigest.isSome = true ∧
      node.failureClassification ≠ .none) ∧ node.failureClassification ≠ .cancelled) ∧
    (node.state = .cancelled → node.failureClassification = .cancelled) := by
  simp only [consistent, tests_iff, Bool.and_eq_false_imp, Option.any_eq_false, beq_eq_false_iff_ne,
    Option.isNone_eq_false_iff, Option.isSome_eq_false_iff, Option.isNone_iff_eq_none,
    List.isEmpty_iff, and_assoc]

theorem WorkflowNode.formed_iff :
    node.shaped definition = true ∧ node.consistent definition = true ↔ node.Formed definition := by
  rw [consistent_iff]
  constructor
  · rintro ⟨shaped, fields, ⟨earlier, blocked, unblocked⟩, active, waiting, held, free, skipped,
      failed, cancelled⟩
    refine ⟨shaped, by simpa using fields, ⟨blocked, fun found => ?_⟩, earlier, ?_, ?_, ?_, ?_,
      cancelled⟩
    · by_contra other
      simp [unblocked other] at found
    · rintro (state | state | state | state | from_ | from_)
      · exact held (by simp [state])
      · exact held (by simp [state])
      · exact held (by simp [state])
      · exact held (by simp [state])
      · exact active (by simp [from_])
      · exact active (by simp [from_])
    · rintro (state | state | state | from_)
      · exact free (by simp [state])
      · exact free (by simp [state])
      · exact free (by simp [state])
      · exact waiting (by simp [from_])
    · intro state
      simpa [and_assoc] using skipped state
    · intro state
      simpa [and_assoc] using failed state
  · rintro ⟨shaped, fields, blocked, earlier, held, free, skipped, failed, cancelled⟩
    refine ⟨shaped, by simpa using fields, ⟨earlier, blocked.mp, fun other => ?_⟩, fun found => ?_,
      fun found => ?_, by tauto, by tauto, ?_, ?_, cancelled⟩
    · simpa using mt blocked.mpr other
    · obtain ⟨state, from_, same⟩ := Option.any_eq_true _ _ |>.mp found
      rcases Bool.or_eq_true _ _ |>.mp same with same | same
      · exact held (by simp [from_, eq_of_beq same])
      · exact held (by simp [from_, eq_of_beq same])
    · obtain ⟨state, from_, same⟩ := Option.any_eq_true _ _ |>.mp found
      exact free (by simp [from_, eq_of_beq same])
    · intro state
      simpa [and_assoc] using skipped state
    · intro state
      simpa [and_assoc] using failed state

theorem WorkflowNode.Formed.classified (formed : node.Formed definition) :
    node.failureClassification.valid = true := by
  have shaped := formed.shaped
  simp only [WorkflowNode.shaped, tests_iff] at shaped
  tauto

theorem WorkflowNode.Formed.staged (formed : node.Formed definition) :
    ∃ stage, workflowStageByID definition node.stageID = some stage := by
  have shaped := formed.shaped
  simp only [WorkflowNode.shaped, tests_iff] at shaped
  exact Option.isSome_iff_exists.mp shaped.2

/-- The graph of the nodes refines the graph of the stages. -/
structure Wired (definition : WorkflowDefinition) (nodes : List WorkflowNode) : Prop where
  distinct : Distinct nodes
  covered : ∀ stage ∈ definition.stages, ∃ node ∈ nodes, node.stageID = stage.stageID
  linked : ∀ node ∈ nodes, ∀ id ∈ node.predecessorNodeIDs, id ≠ node.nodeID ∧
    ∃ predecessor ∈ nodes, predecessor.nodeID = id ∧ (predecessor.stageID = node.stageID ∨
      ∃ stage, workflowStageByID definition node.stageID = some stage ∧
        predecessor.stageID ∈ stage.dependsOn)
  ranked : ∃ rank : UUIDv7 → Nat, ∀ node ∈ nodes, ∀ id ∈ node.predecessorNodeIDs,
    rank id < rank node.nodeID

def Timely (definition : WorkflowDefinition) (nodes : List WorkflowNode) : Prop :=
  ∀ node ∈ nodes, (node.state = .ready → predecessorsSatisfied definition nodes node = true) ∧
    (node.state = .pending → predecessorsSatisfied definition nodes node = false)

structure WorkflowInstance.Stands (current : WorkflowInstance) : Prop where
  completed : current.state = .completed ↔ ∀ node ∈ current.nodes, node.finished = true
  failed : current.state = .failed → ∃ node ∈ current.nodes, node.state = .failed
  cancelled : current.state = .cancelled →
    ∀ node ∈ current.nodes, node.state = .completed ∨ node.state = .cancelled
  blocked : current.state = .blocked → ∃ node ∈ current.nodes, node.state = .blocked

structure WorkflowInstance.Valid (hash : WorkflowDefinition → Digest)
    (definition : WorkflowDefinition) (current : WorkflowInstance) : Prop where
  headed : current.headed hash definition = true
  formed : ∀ node ∈ current.nodes, node.Formed definition
  wired : Wired definition current.nodes
  timely : Timely definition current.nodes
  stands : current.Stands

theorem countP_add_eq_length {first second : WorkflowNodeState} (apart : first ≠ second) :
    current.count first + current.count second = current.nodes.length ↔
      ∀ node ∈ current.nodes, node.state = first ∨ node.state = second := by
  have either : current.count first + current.count second =
      current.nodes.countP fun node => node.state == first || node.state == second := by
    unfold WorkflowInstance.count
    induction current.nodes with
    | nil => rfl
    | cons node rest induction =>
      simp only [List.countP_cons]
      by_cases here : node.state = first
      · simp [here, apart]
        omega
      · simp [here]
        omega
  rw [either, List.countP_eq_length]
  simp

theorem count_eq_zero : current.count state = 0 ↔ ∀ node ∈ current.nodes, node.state ≠ state := by
  simp [WorkflowInstance.count, List.countP_eq_zero]

theorem WorkflowInstance.stands_iff : current.standing = true ↔ current.Stands := by
  have finished : (∀ node ∈ current.nodes, node.finished = true) ↔
      ∀ node ∈ current.nodes, node.state = .completed ∨ node.state = .skipped := by
    simp [finished]
  simp only [standing, tests_iff, Bool.and_eq_false_imp, beq_eq_false_iff_ne]
  rw [countP_add_eq_length (by simp), countP_add_eq_length (by simp), ne_eq, ne_eq, count_eq_zero,
    count_eq_zero, ← finished]
  push Not
  constructor
  · rintro ⟨⟨all, done⟩, ⟨failed, cancelled⟩, blocked⟩
    exact ⟨⟨all, done⟩, failed, cancelled, blocked⟩
  · rintro ⟨completed, failed, cancelled, blocked⟩
    exact ⟨⟨completed.mp, completed.mpr⟩, ⟨failed, cancelled⟩, blocked⟩

theorem Distinct.linked (distinct : Distinct nodes) :
    node.linked definition nodes = true ↔
      ∀ id ∈ node.predecessorNodeIDs, id ≠ node.nodeID ∧
        ∃ predecessor ∈ nodes, predecessor.nodeID = id ∧ (predecessor.stageID = node.stageID ∨
          ∃ stage, workflowStageByID definition node.stageID = some stage ∧
            predecessor.stageID ∈ stage.dependsOn) := by
  simp [WorkflowNode.linked, Option.any_eq_true, distinct.nodeByID, and_assoc]

theorem WorkflowNode.timely_iff : node.timely definition nodes = true ↔
    (node.state = .ready → predecessorsSatisfied definition nodes node = true) ∧
      (node.state = .pending → predecessorsSatisfied definition nodes node = false) := by
  simp [timely, imp_iff_not_or]

theorem validateDAG_nodes (formed : ∀ node ∈ current.nodes, node.Formed definition)
    (distinct : Distinct current.nodes)
    (linked : ∀ node ∈ current.nodes, node.linked definition current.nodes = true) :
    validateDAG (current.nodes.map WorkflowNode.nodeID) current.edges = .ok () ↔
      ∃ rank : UUIDv7 → Nat, ∀ node ∈ current.nodes, ∀ id ∈ node.predecessorNodeIDs,
        rank id < rank node.nodeID := by
  have named : default ∉ current.nodes.map WorkflowNode.nodeID := by
    intro listed
    obtain ⟨node, member, blank⟩ := List.mem_map.mp listed
    have shaped := (formed node member).shaped
    simp only [WorkflowNode.shaped, tests_iff] at shaped
    have valid : node.nodeID.valid = true := by tauto
    rw [blank] at valid
    cases valid
  have edges : ∀ edge, edge ∈ current.edges ↔ ∃ node ∈ current.nodes,
      ∃ id ∈ node.predecessorNodeIDs, (⟨id, node.nodeID⟩ : GraphEdge UUIDv7) = edge := by
    simp [WorkflowInstance.edges]
  rw [validateDAG_ok]
  constructor
  · rintro ⟨_, _, rank, ranks⟩
    refine ⟨rank, fun node member id listed => ?_⟩
    exact ranks ⟨id, node.nodeID⟩ ((edges _).mpr ⟨node, member, id, listed, rfl⟩)
  · rintro ⟨rank, ranks⟩
    refine ⟨⟨named, distinct⟩, fun edge listed => ?_, rank, fun edge listed => ?_⟩
    · obtain ⟨node, member, id, within, rfl⟩ := (edges edge).mp listed
      obtain ⟨_, predecessor, known, same, _⟩ := distinct.linked.mp (linked node member) id within
      exact ⟨List.mem_map.mpr ⟨predecessor, known, same⟩, List.mem_map_of_mem member⟩
    · obtain ⟨node, member, id, within, rfl⟩ := (edges edge).mp listed
      exact ranks node member id within

theorem WorkflowInstance.validate_iff :
    current.validate hash definition = true ↔ current.Valid hash definition := by
  simp only [validate, tests_iff, List.any_eq_true, stands_iff, timely_iff]
  constructor
  · rintro ⟨⟨⟨⟨⟨⟨headed, shaped⟩, distinct⟩, covered⟩, checked⟩, acyclic⟩, stands⟩
    have formed : ∀ node ∈ current.nodes, node.Formed definition := fun node member =>
      formed_iff.mp ⟨shaped node member, (checked node member).1.2⟩
    have linked := fun node member => (checked node member).1.1
    refine ⟨headed, formed, ⟨distinct, covered, fun node member => ?_, ?_⟩,
      fun node member => (checked node member).2, stands⟩
    · exact Distinct.linked distinct |>.mp (linked node member)
    · exact (validateDAG_nodes formed distinct linked).mp (ok_of_isOk acyclic)
  · rintro ⟨headed, formed, ⟨distinct, covered, linked, ranked⟩, timely, stands⟩
    have joined : ∀ node ∈ current.nodes, node.linked definition current.nodes = true :=
      fun node member => distinct.linked.mpr (linked node member)
    have acyclic := (validateDAG_nodes formed distinct joined).mpr ranked
    refine ⟨⟨⟨⟨⟨⟨headed, fun node member => (formed node member).shaped⟩, distinct⟩, covered⟩,
      fun node member => ⟨⟨joined node member, ?_⟩, timely node member⟩⟩, ?_⟩, stands⟩
    · exact (formed_iff.mpr (formed node member)).2
    · rw [acyclic]
      rfl

end Tekroo.Kernel
