import Tekroo.Kernel.WorkflowForm

/-! # What a transition does to a workflow -/

namespace Tekroo.Kernel

open Checked WorkflowNode WorkflowStageDefinition WorkflowInstance

variable {hash : WorkflowDefinition → Digest} {definition : WorkflowDefinition}
  {stage : WorkflowStageDefinition} {nodes others : List WorkflowNode} {node other : WorkflowNode}
  {id : UUIDv7} {current next : WorkflowInstance} {transition : WorkflowTransition}

def stageNodeID (nodeIDs : Table String UUIDv7) (stageID : String) : UUIDv7 :=
  (nodeIDs.lookup stageID).getD default

def WorkflowStageDefinition.firstNode (nodeIDs : Table String UUIDv7)
    (stage : WorkflowStageDefinition) : WorkflowNode where
  nodeID := stageNodeID nodeIDs stage.stageID
  stageID := stage.stageID
  predecessorNodeIDs := stage.dependsOn.map (stageNodeID nodeIDs)
  state := if stage.dependsOn.isEmpty then .ready else .pending

def WorkflowDefinition.firstInstance (definition : WorkflowDefinition) (instanceID : UUIDv7)
    (root : AggregateRef) (budgetAccountID : UUIDv7) (nodeIDs : Table String UUIDv7) :
    WorkflowInstance where
  schemaVersion := workflowDefinitionSchemaVersion
  instanceID
  revision := 1
  definitionName := definition.name
  definitionVersion := definition.version
  definitionDigest := definition.contentDigest
  rootRequest := root
  budgetAccountID
  state := .active
  nodes := definition.stages.map (firstNode nodeIDs)

variable {nodeIDs : Table String UUIDv7} {budgetAccountID instanceID : UUIDv7} {root : AggregateRef}
  {placeholder : WorkflowNode}

theorem WorkflowStageDefinition.firstNode_state :
    (stage.firstNode nodeIDs).state = .ready ∨ (stage.firstNode nodeIDs).state = .pending := by
  simp only [firstNode]
  split
  · exact .inl rfl
  · exact .inr rfl

@[simp] theorem WorkflowStageDefinition.firstNode_blockedFrom :
    (stage.firstNode nodeIDs).blockedFrom = none := rfl

theorem WorkflowDefinition.firstInstance_state
    (listed : node ∈ (definition.firstInstance instanceID root budgetAccountID nodeIDs).nodes) :
    node.state = .ready ∨ node.state = .pending := by
  obtain ⟨stage, _, rfl⟩ := List.mem_map.mp listed
  exact firstNode_state

theorem newWorkflowInstance_ok :
    newWorkflowInstance hash definition instanceID root budgetAccountID nodeIDs = .ok current ↔
      (definition.validate hash = true ∧ instanceID.valid = true ∧ root.valid = true ∧
        budgetAccountID.valid = true ∧ nodeIDs.entries.length = definition.stages.length) ∧
      (∀ entry ∈ nodeIDs.entries, entry.2.valid = true) ∧
      (∀ stage ∈ definition.stages, (nodeIDs.lookup stage.stageID).isSome = true) ∧
      definition.firstInstance instanceID root budgetAccountID nodeIDs = current ∧
      current.Valid hash definition := by
  have made : ∀ (stage : WorkflowStageDefinition) (node : WorkflowNode),
      (do
        let nodeID ← demand (nodeIDs.lookup stage.stageID) WorkflowError.invalidWorkflowInstance
        let predecessors := stage.dependsOn.map fun predecessor =>
          (nodeIDs.lookup predecessor).getD default
        return {
          nodeID
          stageID := stage.stageID
          predecessorNodeIDs := predecessors
          state := if predecessors.isEmpty then .ready else .pending : WorkflowNode }) = .ok node ↔
      (nodeIDs.lookup stage.stageID).isSome = true ∧ stage.firstNode nodeIDs = node := by
    intro stage node
    cases found : nodeIDs.lookup stage.stageID with
    | none => simp
    | some nodeID =>
      simp [firstNode, stageNodeID, found]
      rfl
  simp only [newWorkflowInstance, chain_ok, mapM_ok made, tests_iff, validate_iff]
  constructor
  · rintro ⟨⟨⟨⟨⟨valid, instance_⟩, root⟩, budget⟩, many⟩, known, _, ⟨found, rfl⟩, ends, rfl⟩
    exact ⟨⟨valid, instance_, root, budget, many⟩, known, found, rfl, ends⟩
  · rintro ⟨⟨valid, instance_, root, budget, many⟩, known, found, rfl, ends⟩
    exact ⟨⟨⟨⟨⟨valid, instance_⟩, root⟩, budget⟩, many⟩, known, _, ⟨found, rfl⟩, ends, rfl⟩

def WorkflowTransition.writeAt (transition : WorkflowTransition) (node : WorkflowNode) :
    WorkflowNode :=
  if node.nodeID = transition.nodeID then transition.write node else node

def WorkflowTransition.written (transition : WorkflowTransition) (current : WorkflowInstance) :
    WorkflowInstance :=
  { current with nodes := current.nodes.map transition.writeAt }

def WorkflowInstance.cancelled (current : WorkflowInstance) : WorkflowInstance :=
  { current with nodes := current.nodes.map cancel, state := .cancelled }

theorem Distinct.applied (distinct : Distinct current.nodes) :
    applyWorkflowTransition definition current transition = .ok next ↔
      current.state.terminal = false ∧
        (transition.kind = .cancel ∧ current.cancelled = next ∨
          ∃ node ∈ current.nodes, node.nodeID = transition.nodeID ∧
            transition.permits definition current.nodes node = true ∧
              transition.settle definition (transition.written current) = next) := by
  simp only [applyWorkflowTransition, chain_ok]
  by_cases cancels : transition.kind = .cancel
  · have never : ∀ node, transition.permits definition current.nodes node = false := fun node => by
      simp [WorkflowTransition.permits, cancels]
    simp [cancels, never, cancelled]
  · simp only [cancels, if_false, false_and, false_or, chain_ok, tests_iff, distinct.nodeByID,
      distinct.alterNode, and_assoc]
    rfl

structure WorkflowTransition.Follows (transition : WorkflowTransition)
    (current : WorkflowInstance) : Prop where
  revision : transition.revision = current.revision + 1
  eventID : transition.eventID.valid = true
  recordedAt : transition.recordedAt.isZero = false

def WorkflowTransition.stamp (transition : WorkflowTransition) (moved : WorkflowInstance) :
    WorkflowInstance :=
  { moved with revision := transition.revision, lastEventID := some transition.eventID }

theorem advanceWorkflow_ok :
    advanceWorkflow definition current transition = .ok next ↔
      transition.Follows current ∧
        ∃ moved, applyWorkflowTransition definition current transition = .ok moved ∧
          transition.stamp moved = next := by
  simp only [advanceWorkflow, chain_ok, tests_iff]
  exact and_congr_left fun _ => ⟨fun both => ⟨both.1.1, both.1.2, both.2⟩,
    fun follows => ⟨⟨follows.revision, follows.eventID⟩, follows.recordedAt⟩⟩

theorem foldWorkflowInstance_ok {transitions : List WorkflowTransition} :
    foldWorkflowInstance hash definition current transitions = .ok next ↔
      current.Valid hash definition ∧
        transitions.foldlM (advanceWorkflow definition) current = .ok next ∧
          next.Valid hash definition := by
  simp only [foldWorkflowInstance, chain_ok, tests_iff, validate_iff]
  refine and_congr_right fun _ => ⟨?_, fun both => ⟨next, both.1, both.2, rfl⟩⟩
  rintro ⟨_, folded, valid, rfl⟩
  exact ⟨folded, valid⟩

theorem fold_single (valid : current.Valid hash definition)
    (follows : transition.Follows current) :
    foldWorkflowInstance hash definition current [transition] = .ok next ↔
      (∃ moved, applyWorkflowTransition definition current transition = .ok moved ∧
        transition.stamp moved = next) ∧ next.Valid hash definition := by
  have single : [transition].foldlM (advanceWorkflow definition) current =
      advanceWorkflow definition current transition := by
    exact bind_pure _
  rw [foldWorkflowInstance_ok, single, advanceWorkflow_ok]
  constructor
  · rintro ⟨_, ⟨_, moved⟩, ends⟩
    exact ⟨moved, ends⟩
  · rintro ⟨moved, ends⟩
    exact ⟨valid, ⟨follows, moved⟩, ends⟩

theorem foldWorkflowInstance_append {first second : List WorkflowTransition}
    {middle : WorkflowInstance}
    (early : foldWorkflowInstance hash definition current first = .ok middle)
    (late : foldWorkflowInstance hash definition middle second = .ok next) :
    foldWorkflowInstance hash definition current (first ++ second) = .ok next := by
  obtain ⟨valid, begun, _⟩ := foldWorkflowInstance_ok.mp early
  obtain ⟨_, ended, last⟩ := foldWorkflowInstance_ok.mp late
  refine foldWorkflowInstance_ok.mpr ⟨valid, ?_, last⟩
  rw [List.foldlM_append, bind_ok]
  exact ⟨middle, begun, ended⟩

def WorkflowNode.skeleton (node : WorkflowNode) : UUIDv7 × String × List UUIDv7 :=
  (node.nodeID, node.stageID, node.predecessorNodeIDs)

@[simp] theorem WorkflowTransition.write_skeleton :
    (transition.write node).skeleton = node.skeleton := by
  unfold WorkflowTransition.write
  split <;> rfl

@[simp] theorem WorkflowTransition.writeAt_skeleton :
    (transition.writeAt node).skeleton = node.skeleton := by
  unfold WorkflowTransition.writeAt
  split
  · exact write_skeleton
  · rfl

@[simp] theorem WorkflowNode.readied_skeleton :
    (node.readied definition nodes).skeleton = node.skeleton := by
  unfold readied
  split <;> rfl

@[simp] theorem WorkflowNode.cancel_skeleton : node.cancel.skeleton = node.skeleton := by
  unfold cancel
  split <;> rfl

section Skeleton

variable (same : other.skeleton = node.skeleton)

include same

theorem WorkflowNode.nodeID_of_skeleton : other.nodeID = node.nodeID := congrArg Prod.fst same

theorem WorkflowNode.stageID_of_skeleton : other.stageID = node.stageID :=
  congrArg (fun skeleton => skeleton.2.1) same

theorem WorkflowNode.predecessors_of_skeleton :
    other.predecessorNodeIDs = node.predecessorNodeIDs :=
  congrArg (fun skeleton => skeleton.2.2) same

end Skeleton

theorem WorkflowNode.shaped_of (shaped : node.shaped definition = true)
    (same : other.skeleton = node.skeleton)
    (inputs : other.inputEvidenceIDs = node.inputEvidenceIDs)
    (outputs : other.outputEvidenceIDs = node.outputEvidenceIDs) (state : other.state.valid = true)
    (classified : other.failureClassification.valid = true) :
    other.shaped definition = true := by
  simp only [WorkflowNode.shaped, tests_iff, nodeID_of_skeleton same, stageID_of_skeleton same,
    predecessors_of_skeleton same, inputs, outputs, state, classified] at shaped ⊢
  tauto

section Frame

variable {change : WorkflowNode → WorkflowNode}
  (keeps : ∀ node, (change node).skeleton = node.skeleton)

include keeps

theorem distinct_map : Distinct (nodes.map change) ↔ Distinct nodes := by
  have ids : nodeID ∘ change = nodeID := funext fun node => nodeID_of_skeleton (keeps node)
  rw [Distinct, Distinct, List.map_map, ids]

theorem Wired.map (wired : Wired definition nodes) : Wired definition (nodes.map change) where
  distinct := (distinct_map keeps).mpr wired.distinct
  covered := by
    intro stage listed
    obtain ⟨node, member, same⟩ := wired.covered stage listed
    exact ⟨change node, List.mem_map_of_mem member,
      (stageID_of_skeleton (keeps node)).trans same⟩
  linked := by
    intro other listed id within
    obtain ⟨node, member, rfl⟩ := List.mem_map.mp listed
    rw [predecessors_of_skeleton (keeps node)] at within
    obtain ⟨different, predecessor, known, same, stages⟩ := wired.linked node member id within
    rw [nodeID_of_skeleton (keeps node), stageID_of_skeleton (keeps node)]
    refine ⟨different, change predecessor, List.mem_map_of_mem known, ?_, ?_⟩
    · rw [nodeID_of_skeleton (keeps predecessor), same]
    · rwa [stageID_of_skeleton (keeps predecessor)]
  ranked := by
    obtain ⟨rank, ranks⟩ := wired.ranked
    refine ⟨rank, fun other listed id within => ?_⟩
    obtain ⟨node, member, rfl⟩ := List.mem_map.mp listed
    rw [predecessors_of_skeleton (keeps node)] at within
    rw [nodeID_of_skeleton (keeps node)]
    exact ranks node member id within

/-- The predecessors of a listed node are listed, so it is enough to look at the nodes. -/
theorem Wired.satisfied_map (wired : Wired definition nodes) (member : node ∈ nodes)
    (found : workflowStageByID definition node.stageID = some stage) :
    predecessorsSatisfied definition (nodes.map change) node = true ↔
      (∀ predecessor ∈ nodes, predecessor.nodeID ∈ node.predecessorNodeIDs →
        stage.accepts (change predecessor).state = true) ∧
      (stage.repairs = true → ∃ predecessor ∈ nodes,
        predecessor.nodeID ∈ node.predecessorNodeIDs ∧ (change predecessor).state = .failed) := by
  have ids : ∀ node, (change node).nodeID = node.nodeID := fun node =>
    nodeID_of_skeleton (keeps node)
  rw [((distinct_map keeps).mpr wired.distinct).satisfied found]
  simp only [List.mem_map, exists_exists_and_eq_and, ids]
  refine and_congr_left fun _ => ⟨fun all predecessor known listed => ?_, fun all id listed => ?_⟩
  · obtain ⟨other, also, same, accepted⟩ := all _ listed
    rwa [← wired.distinct.eq also known same]
  · obtain ⟨_, predecessor, known, rfl, _⟩ := wired.linked node member id listed
    exact ⟨predecessor, known, rfl, all predecessor known listed⟩

end Frame

theorem Wired.satisfied (wired : Wired definition nodes) (member : node ∈ nodes)
    (found : workflowStageByID definition node.stageID = some stage) :
    predecessorsSatisfied definition nodes node = true ↔
      (∀ predecessor ∈ nodes, predecessor.nodeID ∈ node.predecessorNodeIDs →
        stage.accepts predecessor.state = true) ∧
      (stage.repairs = true → ∃ predecessor ∈ nodes,
        predecessor.nodeID ∈ node.predecessorNodeIDs ∧ predecessor.state = .failed) := by
  have unchanged := @Wired.satisfied_map definition stage nodes node id (fun _ => rfl) wired
    member found
  rwa [List.map_id] at unchanged

def WorkflowTransition.refreshes (transition : WorkflowTransition) : Bool :=
  transition.kind == .complete || transition.kind == .skip ||
    transition.kind == .fail && transition.failureClassification != .terminalPolicy

theorem settle_nodes :
    (transition.settle definition current).nodes =
      if transition.refreshes then
        current.nodes.map (readied definition current.nodes)
      else current.nodes := by
  unfold WorkflowTransition.settle WorkflowTransition.refreshes
  split
  · simp [*, refreshWorkflowReadiness, makeReady_eq]
  · simp [*, refreshWorkflowReadiness, makeReady_eq]
  · split <;> simp [*, refreshWorkflowReadiness, makeReady_eq]
  all_goals simp [*]

def WorkflowTransition.change (definition : WorkflowDefinition) (nodes : List WorkflowNode)
    (transition : WorkflowTransition) (node : WorkflowNode) : WorkflowNode :=
  if transition.refreshes then
    (transition.writeAt node).readied definition (nodes.map transition.writeAt)
  else transition.writeAt node

theorem WorkflowTransition.change_of_quiet (quiet : transition.refreshes = false) :
    transition.change definition nodes = transition.writeAt := by
  funext node
  simp [change, quiet]

@[simp] theorem WorkflowTransition.change_skeleton :
    (transition.change definition nodes node).skeleton = node.skeleton := by
  unfold WorkflowTransition.change
  split <;> simp

def WorkflowTransition.outcome (definition : WorkflowDefinition)
    (transition : WorkflowTransition) (current : WorkflowInstance) : WorkflowInstanceState :=
  (transition.settle definition (transition.written current)).state

theorem settle_written_nodes :
    (transition.settle definition (transition.written current)).nodes =
      current.nodes.map (transition.change definition current.nodes) := by
  rw [@settle_nodes definition (transition.written current) transition]
  unfold WorkflowTransition.change
  split
  · exact List.map_map
  · rfl

/-- Everything that a transition can do to the nodes and the state of an instance. -/
inductive Moves (definition : WorkflowDefinition) (current : WorkflowInstance)
    (transition : WorkflowTransition) (next : WorkflowInstance) : Prop where
  | cancels (running : current.state.terminal = false) (kind : transition.kind = .cancel)
      (nodes : next.nodes = current.nodes.map cancel)
      (state : next.state = .cancelled)
  | applies (node : WorkflowNode) (running : current.state.terminal = false)
      (member : node ∈ current.nodes) (same : node.nodeID = transition.nodeID)
      (permitted : transition.permits definition current.nodes node = true)
      (nodes : next.nodes = current.nodes.map (transition.change definition current.nodes))
      (state : next.state = transition.outcome definition current)

theorem Moves.running (moves : Moves definition current transition next) :
    current.state.terminal = false := by
  cases moves with
  | cancels running | applies _ running => exact running

theorem Distinct.moves {moved : WorkflowInstance} (distinct : Distinct current.nodes)
    (applied : applyWorkflowTransition definition current transition = .ok moved)
    (nodes : next.nodes = moved.nodes) (state : next.state = moved.state) :
    Moves definition current transition next := by
  obtain ⟨running, ⟨cancels, rfl⟩ | ⟨node, member, same, permitted, rfl⟩⟩ :=
    distinct.applied.mp applied
  · exact .cancels running cancels nodes state
  · exact .applies node running member same permitted (nodes.trans settle_written_nodes) state

theorem Wired.advanced (wired : Wired definition current.nodes)
    (advanced : advanceWorkflow definition current transition = .ok next) :
    Moves definition current transition next := by
  obtain ⟨_, moved, applied, rfl⟩ := advanceWorkflow_ok.mp advanced
  exact wired.distinct.moves applied rfl rfl

theorem Wired.moves (wired : Wired definition current.nodes)
    (moves : Moves definition current transition next) : Wired definition next.nodes := by
  cases moves with
  | cancels _ _ nodes => exact nodes ▸ wired.map fun _ => cancel_skeleton
  | applies _ _ _ _ _ nodes => exact nodes ▸ wired.map fun _ => WorkflowTransition.change_skeleton

theorem WorkflowTransition.write_state :
    (transition.write node).state =
      match transition.kind with
      | .admitNode => .admitted
      | .start => .running
      | .complete => .completed
      | .skip => .skipped
      | .fail => .failed
      | .block => .blocked
      | .ready => node.blockedFrom.getD node.state
      | .checkpoint | .cancel | .other _ => node.state := by
  unfold write
  split <;> simp [*]

theorem WorkflowTransition.permits_state
    (permitted : transition.permits definition nodes node = true) :
    match transition.kind with
    | .admitNode | .skip => node.state = .ready
    | .start => node.state = .admitted
    | .complete | .fail => node.state = .running
    | .block => node.state = .ready ∨ node.state = .admitted ∨ node.state = .running
    | .ready => node.state = .blocked
    | .checkpoint => node.state = .admitted ∨ node.state = .running ∨ node.state = .blocked
    | .cancel | .other _ => False := by
  unfold permits at permitted
  split at permitted <;> simp_all [or_assoc]

theorem WorkflowNode.readied_state {state : WorkflowNodeState} (waits : state ≠ .pending)
    (ready : state ≠ .ready) : (node.readied definition nodes).state = state ↔
      node.state = state := by
  unfold readied
  split
  · have pending : node.state = .pending := by simp_all
    simp [pending, waits.symm, ready.symm]
  · rfl

theorem WorkflowTransition.change_state {state : WorkflowNodeState} (waits : state ≠ .pending)
    (ready : state ≠ .ready) : (transition.change definition nodes node).state = state ↔
      (transition.writeAt node).state = state := by
  unfold WorkflowTransition.change
  split
  · exact readied_state waits ready
  · rfl

@[simp] theorem WorkflowTransition.change_blockedFrom :
    (transition.change definition nodes node).blockedFrom =
      (transition.writeAt node).blockedFrom := by
  unfold WorkflowTransition.change readied
  split
  · split <;> rfl
  · rfl

theorem WorkflowTransition.outcome_or (blocks : transition.kind ≠ .block)
    (resumes : transition.kind ≠ .ready) :
    transition.outcome definition current = current.state ∨
      (transition.outcome definition current).terminal = true := by
  have refreshed : ∀ changed : WorkflowInstance, changed.state = current.state →
      (refreshWorkflowReadiness definition changed).state = current.state ∨
        (refreshWorkflowReadiness definition changed).state.terminal = true := by
    intro changed same
    unfold refreshWorkflowReadiness
    by_cases all : (makeReady definition [] changed.nodes).countP finished =
        (makeReady definition [] changed.nodes).length
    · simp [all, WorkflowInstanceState.terminal]
    · simp [all, same]
  unfold WorkflowTransition.outcome WorkflowTransition.settle
  split
  · exact refreshed _ rfl
  · exact refreshed _ rfl
  · split
    · exact .inr rfl
    · exact refreshed _ rfl
  · next kind => exact absurd kind blocks
  · next kind => exact absurd kind resumes
  all_goals exact .inl rfl

def WorkflowInstance.moved (current : WorkflowInstance) (transition : WorkflowTransition)
    (nodes : List WorkflowNode) (state : WorkflowInstanceState) : WorkflowInstance :=
  transition.stamp { current with nodes, state }

variable {state : WorkflowInstanceState} {specs : List WorkflowNodeSpec}
  {replacements : List UUIDv7} {eventID : UUIDv7}

theorem settle_eq : transition.settle definition current = { current with
    nodes := (transition.settle definition current).nodes
    state := (transition.settle definition current).state } := by
  unfold WorkflowTransition.settle
  split
  · rfl
  · rfl
  · split <;> rfl
  all_goals rfl

def WorkflowTransition.result (definition : WorkflowDefinition) (transition : WorkflowTransition)
    (current : WorkflowInstance) : WorkflowInstance :=
  current.moved transition (current.nodes.map (transition.change definition current.nodes))
    (transition.outcome definition current)

theorem Distinct.advance (distinct : Distinct current.nodes) (follows : transition.Follows current)
    (running : current.state.terminal = false) (member : node ∈ current.nodes)
    (same : node.nodeID = transition.nodeID)
    (permitted : transition.permits definition current.nodes node = true) :
    advanceWorkflow definition current transition = .ok (transition.result definition current) := by
  refine advanceWorkflow_ok.mpr ⟨follows, _, distinct.applied.mpr
    ⟨running, .inr ⟨node, member, same, permitted, rfl⟩⟩, ?_⟩
  rw [settle_eq, settle_written_nodes]
  rfl

theorem WorkflowInstance.headed_update {revision : Nat}
    (headed : current.headed hash definition = true) (length : nodes.length = current.nodes.length)
    (known : state.valid = true) (event : id.valid = true) (positive : revision ≠ 0) :
    WorkflowInstance.headed hash definition
      { current with nodes, state, revision, lastEventID := some id } = true := by
  simp only [WorkflowInstance.headed, tests_iff, length, known, event, Option.all_some] at headed ⊢
  tauto

theorem WorkflowInstance.headed_moved (headed : current.headed hash definition = true)
    (follows : transition.Follows current) (length : nodes.length = current.nodes.length)
    (known : state.valid = true) :
    (current.moved transition nodes state).headed hash definition = true :=
  @headed_update hash definition nodes transition.eventID current state transition.revision headed
    length known follows.eventID (by simp [follows.revision])

theorem WorkflowNode.Formed.readied (formed : node.Formed definition) :
    (node.readied definition nodes).Formed definition := by
  unfold WorkflowNode.readied
  split
  · have pending : node.state = .pending := by simp_all
    have unblocked : node.blockedFrom = none := by
      simpa using mt formed.blocked.mpr (by simp [pending])
    exact ⟨shaped_of formed.shaped rfl rfl rfl rfl formed.classified,
      formed.fields, by simp [unblocked], by simp [unblocked], by simp [unblocked],
      fun _ => formed.free (.inl pending), by simp, by simp, by simp⟩
  · exact formed

theorem readied_alike :
    List.Forall₂ Alike nodes (nodes.map (readied definition nodes)) := by
  rw [List.forall₂_map_right_iff]
  exact List.forall₂_same.mpr fun node _ => node.readied_alike

theorem Timely.readied (ready : ∀ node ∈ nodes, node.state = .ready →
    predecessorsSatisfied definition nodes node = true) :
    Timely definition (nodes.map (WorkflowNode.readied definition nodes)) := by
  intro other listed
  obtain ⟨node, member, rfl⟩ := List.mem_map.mp listed
  have same : predecessorsSatisfied definition
      (nodes.map (WorkflowNode.readied definition nodes)) (node.readied definition nodes) =
        predecessorsSatisfied definition nodes node := by
    rw [predecessorsSatisfied_alike readied_alike]
    unfold WorkflowNode.readied
    split <;> rfl
  rw [same]
  unfold WorkflowNode.readied
  split
  · next turned => simp_all
  · next kept =>
    refine ⟨ready node member, fun pending => ?_⟩
    simpa [pending] using kept

/-- What lets a node be ready is settled, so it is not what a transition is applied to. -/
theorem WorkflowInstance.Valid.ready_kept (valid : current.Valid hash definition)
    (member : node ∈ current.nodes) (same : node.nodeID = transition.nodeID)
    (unsettled : node.state.settled = false) (within : other ∈ current.nodes)
    (ready : other.state = .ready) :
    predecessorsSatisfied definition (current.nodes.map transition.writeAt) other = true := by
  obtain ⟨stage, found⟩ := (valid.formed other within).staged
  obtain ⟨all, failed⟩ :=
    (valid.wired.satisfied within found).mp ((valid.timely other within).1 ready)
  have kept : ∀ predecessor ∈ current.nodes, predecessor.nodeID ∈ other.predecessorNodeIDs →
      transition.writeAt predecessor = predecessor := by
    intro predecessor known listed
    refine if_neg fun here => ?_
    obtain rfl := valid.wired.distinct.eq known member (here.trans same.symm)
    have settled := settled_of_accepts (all predecessor known listed)
    simp [unsettled] at settled
  refine (valid.wired.satisfied_map (fun _ => WorkflowTransition.writeAt_skeleton) within
    found).mpr ⟨fun predecessor known listed => ?_, fun repairs => ?_⟩
  · rw [kept predecessor known listed]
    exact all predecessor known listed
  · obtain ⟨predecessor, known, listed, state⟩ := failed repairs
    exact ⟨predecessor, known, listed, by rwa [kept predecessor known listed]⟩

def WorkflowInstance.expanded (definition : WorkflowDefinition) (current : WorkflowInstance)
    (placeholder : WorkflowNode) (eventID : UUIDv7) (specs : List WorkflowNodeSpec) :
    WorkflowInstance :=
  let nodes := expandNodes placeholder.nodeID placeholder.stageID specs current.nodes
  { current with
    nodes := nodes.map (readied definition nodes)
    revision := current.revision + 1
    lastEventID := some eventID }

theorem mem_expandNodes (member : placeholder ∈ nodes) :
    node ∈ expandNodes placeholder.nodeID placeholder.stageID specs nodes ↔
      (∃ earlier ∈ nodes, earlier.nodeID ≠ placeholder.nodeID ∧
        earlier.rewire placeholder.nodeID (specs.map WorkflowNodeSpec.nodeID) = node) ∨
      ∃ spec ∈ specs, spec.node placeholder.stageID = node := by
  simp only [expandNodes, List.mem_flatMap]
  constructor
  · rintro ⟨earlier, within, found⟩
    split at found
    · obtain ⟨spec, listed, rfl⟩ := List.mem_map.mp found
      exact .inr ⟨spec, listed, rfl⟩
    · next different =>
      obtain rfl := List.mem_singleton.mp found
      exact .inl ⟨earlier, within, different, rfl⟩
  · rintro (⟨earlier, within, different, rfl⟩ | ⟨spec, listed, rfl⟩)
    · exact ⟨earlier, within, by simp [different]⟩
    · exact ⟨placeholder, member, by simpa using ⟨spec, listed, rfl⟩⟩

@[simp] theorem WorkflowNode.rewire_state : (node.rewire id replacements).state = node.state := by
  unfold rewire
  split <;> rfl

@[simp] theorem WorkflowNode.rewire_nodeID :
    (node.rewire id replacements).nodeID = node.nodeID := by
  unfold rewire
  split <;> rfl

theorem WorkflowNode.mem_rewire {wanted : UUIDv7} :
    wanted ∈ (node.rewire id replacements).predecessorNodeIDs ↔
      wanted ∈ node.predecessorNodeIDs ∧ wanted ≠ id ∨
        id ∈ node.predecessorNodeIDs ∧ wanted ∈ replacements := by
  unfold rewire
  split
  · simp only [List.mem_flatMap]
    constructor
    · rintro ⟨predecessor, listed, found⟩
      split at found
      · next same => exact .inr ⟨same ▸ listed, found⟩
      · next different =>
        obtain rfl := List.mem_singleton.mp found
        exact .inl ⟨listed, different⟩
    · rintro (⟨listed, different⟩ | ⟨listed, found⟩)
      · exact ⟨wanted, listed, by simp [different]⟩
      · exact ⟨id, listed, by simpa using found⟩
  · next absent =>
    rw [List.contains_iff_mem] at absent
    constructor
    · exact fun listed => .inl ⟨listed, fun same => absent (same ▸ listed)⟩
    · rintro (⟨listed, _⟩ | ⟨listed, _⟩)
      · exact listed
      · exact absurd listed absent

@[simp] theorem WorkflowNode.rewire_stageID :
    (node.rewire id replacements).stageID = node.stageID := by
  unfold rewire
  split <;> rfl

theorem expanded_state {state : WorkflowNodeState} (distinct : Distinct current.nodes)
    (member : placeholder ∈ current.nodes)
    (untouched : placeholder.state = .pending ∨ placeholder.state = .ready)
    (waits : state ≠ .pending) (ready : state ≠ .ready) :
    (∃ node ∈ (current.expanded definition placeholder eventID specs).nodes,
      node.state = state) ↔ ∃ node ∈ current.nodes, node.state = state := by
  simp only [expanded, List.mem_map, exists_exists_and_eq_and,
    readied_state waits ready, mem_expandNodes member]
  constructor
  · rintro ⟨_, ⟨earlier, within, _, rfl⟩ | ⟨spec, _, rfl⟩, found⟩
    · exact ⟨earlier, within, by simpa using found⟩
    · exact absurd found waits.symm
  · rintro ⟨node, within, found⟩
    refine ⟨_, .inl ⟨node, within, fun same => ?_, rfl⟩, by simpa using found⟩
    obtain rfl := distinct.eq within member same
    rcases untouched with before | before
    · exact waits (found.symm.trans before)
    · exact ready (found.symm.trans before)

def WorkflowNodeSpec.valid (spec : WorkflowNodeSpec) : Bool :=
  spec.nodeID.valid && workflowValidUUIDSet spec.predecessorNodeIDs &&
    workflowValidUUIDSet spec.inputEvidenceIDs

theorem expandWorkflowNode_ok {placeholderID : UUIDv7} :
    expandWorkflowNode hash definition current placeholderID eventID specs = .ok next ↔
      current.Valid hash definition ∧ placeholderID.valid = true ∧ eventID.valid = true ∧
        specs ≠ [] ∧ current.nodes.length - 1 + specs.length ≤ 4096 ∧
        (∀ spec ∈ specs, spec.valid = true) ∧ (specs.map WorkflowNodeSpec.nodeID).Nodup ∧
        ∃ placeholder ∈ current.nodes, placeholder.nodeID = placeholderID ∧
          (placeholder.state = .pending ∨ placeholder.state = .ready) ∧
            current.expanded definition placeholder eventID specs = next ∧
              next.Valid hash definition := by
  simp only [expandWorkflowNode, bind_ok, refuse_ok, demand_ok, exists_unit, pure_ok,
    Bool.or_eq_false_iff, Bool.not_eq_false', validate_iff,
    List.isEmpty_eq_false_iff, decide_eq_false_iff_not, Nat.not_lt, Bool.and_eq_false_imp,
    bne_iff_ne, bne_eq_false_iff_eq, decide_eq_true_eq, List.all_eq_true, makeReady_eq]
  constructor
  · rintro ⟨⟨⟨⟨⟨valid, known⟩, event⟩, some_⟩, few⟩, placeholder, found, untouched,
      ⟨specs, distinct⟩, ends, rfl⟩
    obtain ⟨member, rfl⟩ := valid.wired.distinct.nodeByID.mp found
    refine ⟨valid, known, event, some_, few, specs, distinct, placeholder, member, rfl, ?_, rfl,
      ends⟩
    by_contra touched
    obtain ⟨first, second⟩ := not_or.mp touched
    exact second (untouched first)
  · rintro ⟨valid, known, event, some_, few, specs, distinct, placeholder, member, rfl, untouched,
      rfl, ends⟩
    refine ⟨⟨⟨⟨⟨valid, known⟩, event⟩, some_⟩, few⟩, placeholder,
      valid.wired.distinct.nodeByID.mpr ⟨member, rfl⟩, fun other => ?_, ⟨specs, distinct⟩, ends,
      rfl⟩
    exact untouched.resolve_left other

section Evaluated

variable {proposal : WorkProposal} {facts : WorkflowAdmissionFacts} {eventID invocationID : UUIDv7}
  {recordedAt : Time} {evaluation : WorkflowAdmissionEvaluation}
  (evaluated : evaluateWorkflowAdmission hash definition current proposal facts eventID
    invocationID recordedAt = .ok evaluation)

include evaluated

theorem evaluateWorkflowAdmission_decided :
    current.Valid hash definition ∧ evaluation.nextInstance.Valid hash definition ∧
      (proposal.transition current eventID invocationID recordedAt).Follows current ∧
      (evaluation.result.outcome = .admitted ↔
        workflowAdmissionReason definition current proposal facts = .accepted) ∧
      ∃ decided, decideWorkflowAdmission definition current proposal
          (workflowAdmissionReason definition current proposal facts)
          (proposal.transition current eventID invocationID recordedAt) = .ok decided ∧
        (proposal.transition current eventID invocationID recordedAt).stamp decided =
          evaluation.nextInstance := by
  simp only [evaluateWorkflowAdmission, chain_ok, tests_iff, validate_iff] at evaluated
  obtain ⟨⟨⟨⟨⟨⟨⟨⟨⟨_, valid⟩, _⟩, event⟩, _⟩, recorded⟩, _⟩, _⟩, _⟩, decided, outcome, ⟨ends, _⟩,
    rfl⟩ := evaluated
  refine ⟨valid, ends, ⟨rfl, event, recorded⟩, ?_, decided, outcome, rfl⟩
  split <;> simp_all

/-- A proposal either leaves the nodes and the state alone or is applied as a transition. -/
theorem evaluateWorkflowAdmission_ok :
    current.Valid hash definition ∧ evaluation.nextInstance.Valid hash definition ∧
      if evaluation.result.outcome = .admitted then
        Moves definition current (proposal.transition current eventID invocationID recordedAt)
          evaluation.nextInstance
      else evaluation.nextInstance.nodes = current.nodes ∧
        evaluation.nextInstance.state = current.state := by
  obtain ⟨valid, ends, _, admitted, decided, outcome, stamped⟩ :=
    evaluateWorkflowAdmission_decided evaluated
  refine ⟨valid, ends, ?_⟩
  rw [← stamped]
  unfold decideWorkflowAdmission at outcome
  split at outcome
  · next accepted =>
    rw [if_pos (admitted.mpr accepted)]
    dsimp only at outcome
    split at outcome
    · cases outcome
    · next moved applied =>
      cases outcome
      -- The message that was noted before plays no part in the transition.
      rw [Distinct.applied (by exact valid.wired.distinct)] at applied
      obtain ⟨running, ⟨cancels, _⟩ | ⟨node, member, same, permitted, rfl⟩⟩ := applied
      · cases cancels
      · exact .applies node running member same permitted rfl rfl
  · next rejected =>
    rw [if_neg (mt admitted.mp rejected)]
    cases outcome
    exact ⟨rfl, rfl⟩

end Evaluated

end Tekroo.Kernel
