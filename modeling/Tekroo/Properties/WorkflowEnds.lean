import Tekroo.Kernel.WorkflowMoves

/-! # How a workflow ends -/

namespace Tekroo.Kernel

open Checked WorkflowTransition WorkflowStageDefinition WorkflowInstance

variable {hash : WorkflowDefinition → Digest} {definition : WorkflowDefinition}
  {stage : WorkflowStageDefinition} {nodes : List WorkflowNode} {node other : WorkflowNode}
  {id : UUIDv7} {current next : WorkflowInstance} {transition : WorkflowTransition}

theorem WorkflowNode.cancel_formed (shaped : node.shaped definition = true)
    (fields : (node.actorFQN.all ActorFQN.valid && node.invocationID.all UUIDv7.valid &&
      node.progressDigest.all Digest.valid && node.checkpointID.all UUIDv7.valid &&
      node.continuationNodeID.all UUIDv7.valid) = true)
    (free : node.blockedFrom = none) (open_ : node.state ≠ .completed) :
    node.cancel.Formed definition := by
  simp only [WorkflowNode.cancel, bne_iff_ne.mpr open_, if_true]
  exact ⟨WorkflowNode.shaped_of shaped rfl rfl rfl rfl rfl, fields,
    by simp [free], by simp [free], by simp [free], by simp [free], by simp, by simp,
    fun _ => rfl⟩

theorem WorkflowNode.Formed.cancel (formed : node.Formed definition)
    (unblocked : node.state ≠ .blocked) : node.cancel.Formed definition := by
  by_cases done : node.state = .completed
  · simpa [WorkflowNode.cancel, done] using formed
  · exact cancel_formed formed.shaped formed.fields
      (by simpa using mt formed.blocked.mpr unblocked) done

theorem WorkflowNode.cancel_state :
    node.cancel.state = if node.state = .completed then .completed else .cancelled := by
  unfold WorkflowNode.cancel
  by_cases done : node.state = .completed <;> simp [done]

theorem WorkflowInstance.cancelled_valid (headed : current.headed hash definition = true)
    (wired : Wired definition current.nodes)
    (formed : ∀ node ∈ current.nodes, node.cancel.Formed definition)
    (unfinished : ∃ node ∈ current.nodes, node.state ≠ .completed)
    (follows : transition.Follows current) :
    (current.moved transition (current.nodes.map WorkflowNode.cancel) .cancelled).Valid hash
      definition where
  headed := headed_moved headed follows (by simp) rfl
  formed := by
    intro other listed
    obtain ⟨node, member, rfl⟩ := List.mem_map.mp listed
    exact formed node member
  wired := wired.map fun _ => WorkflowNode.cancel_skeleton
  timely := by
    intro other listed
    obtain ⟨node, member, rfl⟩ := List.mem_map.mp listed
    rw [WorkflowNode.cancel_state]
    split <;> simp
  stands := by
    refine ⟨⟨nofun, fun all => ?_⟩, nofun, fun _ other listed => ?_, nofun⟩
    · obtain ⟨node, member, open_⟩ := unfinished
      have finished := all node.cancel (List.mem_map_of_mem member)
      simp [WorkflowNode.finished, WorkflowNode.cancel_state, open_] at finished
    · obtain ⟨node, member, rfl⟩ := List.mem_map.mp listed
      rw [WorkflowNode.cancel_state]
      split <;> simp

theorem WorkflowInstance.Valid.unfinished (valid : current.Valid hash definition)
    (running : current.state.terminal = false) :
    ∃ node ∈ current.nodes, node.finished = false := by
  by_contra finished
  have completed : current.state = .completed :=
    valid.stands.completed.mpr fun node member =>
      Bool.of_not_eq_false fun open_ => finished ⟨node, member, open_⟩
  simp [completed, WorkflowInstanceState.terminal] at running

/-- A workflow that still runs can be cancelled exactly when none of its nodes is blocked: a
blocked node keeps the state it was blocked in, which the validator allows for no other. -/
theorem cancellation_accepted_iff (hash : WorkflowDefinition → Digest)
    (definition : WorkflowDefinition) (current : WorkflowInstance)
    (transition : WorkflowTransition) (valid : current.validate hash definition = true)
    (running : current.state.terminal = false) (cancels : transition.kind = .cancel)
    (follows : transition.Follows current) :
    (∃ next, foldWorkflowInstance hash definition current [transition] = .ok next ∧
      next.validate hash definition = true ∧ next.state = .cancelled ∧
        ∀ node ∈ next.nodes, node.state = .completed ∨ node.state = .cancelled) ↔
      ∀ node ∈ current.nodes, node.state ≠ .blocked := by
  rw [validate_iff] at valid
  have applied : ∀ moved, applyWorkflowTransition definition current transition = .ok moved ↔
      current.cancelled = moved := by
    intro moved
    rw [valid.wired.distinct.applied]
    simp [running, cancels, permits]
  simp only [fold_single valid follows, applied, exists_eq_left', validate_iff]
  constructor
  · rintro ⟨_, ⟨rfl, _⟩, ends, _, _⟩ node member blocked
    have formed := ends.formed node.cancel (List.mem_map_of_mem member)
    have kept : node.blockedFrom.isSome = true := (valid.formed node member).blocked.mp blocked
    have state := formed.blocked
    simp [WorkflowNode.cancel, blocked, kept] at state
  · intro unblocked
    obtain ⟨unfinished, member, open_⟩ := valid.unfinished running
    have ends := cancelled_valid valid.headed valid.wired
      (fun node member => (valid.formed node member).cancel (unblocked node member))
      ⟨unfinished, member, by rintro done; simp [WorkflowNode.finished, done] at open_⟩ follows
    exact ⟨_, ⟨rfl, ends⟩, ends, rfl, ends.stands.cancelled rfl⟩

namespace Sample

def workflowHash (_ : WorkflowDefinition) : Digest := .number 0

variable (number : Nat) (stageID : String) (state : WorkflowNodeState) (revision : Nat)

def workflowStage (dependsOn : List String) (purpose : WorkflowPurpose := .implementation)
    (optional : Bool := false) : WorkflowStageDefinition where
  stageID
  optional
  dependsOn
  inputSchema := "input/v1"
  outputSchema := "output/v1"
  requiredCapabilities := ["work"]
  purpose
  risk := .low
  concurrencyGroup := "work"
  maximumParallelism := 1
  attemptLimit := 1
  allowedOutgoingPurposes := []
  targetSelection := .capability
  validationPolicy := .deterministic

def workflow (stages : List WorkflowStageDefinition) : WorkflowDefinition :=
  ⟨"1.0.0", "flow", "1.0.0", .number 0, ["requested"], stages, ⟨1, 1, 1, 0, 0⟩, []⟩

def workflowNode (predecessors : List Nat := []) : WorkflowNode where
  nodeID := .number number
  stageID
  predecessorNodeIDs := predecessors.map .number
  state

def workflowTask (predecessors : List Nat := []) : WorkflowNode :=
  { workflowNode number stageID state predecessors with
    attempt := 1
    actorFQN := some ⟨"demo::worker-1"⟩
    invocationID := some (.number (100 + number)) }

def workflowInstance (state : WorkflowInstanceState) (nodes : List WorkflowNode) :
    WorkflowInstance where
  schemaVersion := "1.0.0"
  instanceID := .number 1
  revision
  definitionName := "flow"
  definitionVersion := "1.0.0"
  definitionDigest := .number 0
  rootRequest := ⟨.task, .number 2⟩
  budgetAccountID := .number 3
  state
  nodes
  lastEventID := if revision = 1 then none else some (.number (1000 + revision))

def workflowTransition (kind : WorkflowTransitionKind) (node : Nat := 0) : WorkflowTransition where
  revision
  eventID := .number (1000 + revision)
  kind
  nodeID := .number node
  recordedAt := 1

def intake : WorkflowDefinition := workflow [workflowStage "intake" []]

def intakeReady : WorkflowInstance :=
  workflowInstance 1 .active [workflowNode 10 "intake" .ready]

def intakeBlocked : WorkflowInstance :=
  workflowInstance 2 .blocked
    [{ workflowNode 10 "intake" .blocked with blockedFrom := some .ready }]

/-- A workflow whose only node was blocked is valid, and it cannot be cancelled. -/
theorem blocked_workflow_not_cancelled :
    foldWorkflowInstance workflowHash intake intakeReady [workflowTransition 2 .block 10] =
        .ok intakeBlocked ∧
      intakeBlocked.validate workflowHash intake = true ∧
      intakeBlocked.state.terminal = false ∧
      foldWorkflowInstance workflowHash intake intakeBlocked [workflowTransition 3 .cancel] =
        .error .invalidWorkflowInstance := by
  decide

def pair : WorkflowDefinition := workflow [workflowStage "left" [], workflowStage "right" []]

def pairRunning : WorkflowInstance :=
  workflowInstance 3 .active [workflowTask 10 "left" .running, workflowNode 11 "right" .ready]

theorem running_workflow_cancelled :
    ∃ next, foldWorkflowInstance workflowHash pair pairRunning [workflowTransition 4 .cancel] =
        .ok next ∧
      next.validate workflowHash pair = true ∧ next.state = .cancelled ∧
        ∀ node ∈ next.nodes, node.state = .completed ∨ node.state = .cancelled :=
  (cancellation_accepted_iff workflowHash pair pairRunning (workflowTransition 4 .cancel)
    (by decide) rfl rfl ⟨rfl, rfl, rfl⟩).mpr (by decide)

end Sample

/-- The transition that gives a running node up for good. -/
structure WorkflowTransition.GivesUp (transition : WorkflowTransition) (node : WorkflowNode) :
    Prop where
  kind : transition.kind = .fail
  nodeID : transition.nodeID = node.nodeID
  invocationID : node.invocationID = some transition.invocationID
  progressDigest : transition.progressDigest.valid = true
  classification : transition.failureClassification = .terminalPolicy

/-- The node acts on failures, and this one is all that it waits for. -/
def WorkflowInstance.Awaits (definition : WorkflowDefinition) (current : WorkflowInstance)
    (id : UUIDv7) (node : WorkflowNode) : Prop :=
  node.state = .pending ∧ id ∈ node.predecessorNodeIDs ∧
    (workflowStageByID definition node.stageID).any repairs = true ∧
      ∀ other ∈ current.nodes, other.nodeID ∈ node.predecessorNodeIDs → other.nodeID ≠ id →
        other.state = .completed ∨ other.state = .failed

theorem WorkflowNode.Formed.fail (formed : node.Formed definition)
    (running : node.state = .running) (kind : transition.kind = .fail)
    (digest : transition.progressDigest.valid = true)
    (known : transition.failureClassification.valid = true)
    (given : transition.failureClassification ≠ .none)
    (apart : transition.failureClassification ≠ .cancelled) :
    (transition.write node).Formed definition := by
  have unblocked : node.blockedFrom = none := by
    simpa using mt formed.blocked.mpr (by simp [running])
  have fields := formed.fields
  have held := formed.held (by simp [running])
  simp only [tests_iff] at fields
  simp only [write, kind]
  refine ⟨WorkflowNode.shaped_of formed.shaped rfl rfl rfl rfl known, ?_, by simp [unblocked],
    by simp [unblocked], fun _ => held, by simp [unblocked], by simp, by simp [given, apart],
    by simp⟩
  simp only [tests_iff, Option.all_some, digest]
  tauto

section GivesUp

variable (valid : current.Valid hash definition) (member : node ∈ current.nodes)
  (running : node.state = .running) (givesUp : transition.GivesUp node)

include givesUp in
theorem WorkflowTransition.GivesUp.state :
    (transition.writeAt other).state =
      if other.nodeID = node.nodeID then .failed else other.state := by
  simp only [writeAt, write, givesUp.kind, givesUp.nodeID]
  split <;> rfl

include givesUp in
theorem WorkflowTransition.GivesUp.kept (different : other.nodeID ≠ node.nodeID) :
    transition.writeAt other = other := by
  rw [writeAt, if_neg (givesUp.nodeID ▸ different)]

include valid member givesUp

theorem WorkflowInstance.Valid.awaits_iff (waiting : other ∈ current.nodes)
    (pending : other.state = .pending) :
    predecessorsSatisfied definition (current.nodes.map transition.writeAt) other = true ↔
      current.Awaits definition node.nodeID other := by
  obtain ⟨stage, found⟩ := (valid.formed other waiting).staged
  have before := (valid.timely other waiting).2 pending
  rw [valid.wired.satisfied_map (fun _ => writeAt_skeleton) waiting found]
  simp only [givesUp.state, Awaits, pending, found, Option.any_some, true_and]
  constructor
  · rintro ⟨all, failed⟩
    have listed : node.nodeID ∈ other.predecessorNodeIDs := by
      by_contra absent
      have apart : ∀ {predecessor : WorkflowNode},
          predecessor.nodeID ∈ other.predecessorNodeIDs → predecessor.nodeID ≠ node.nodeID :=
        fun listed same => absent (same ▸ listed)
      refine absurd ((valid.wired.satisfied waiting found).mpr ⟨?_, ?_⟩) (by simp [before])
      · intro predecessor known listed
        have accepted := all predecessor known listed
        rwa [if_neg (apart listed)] at accepted
      · intro repairs
        obtain ⟨predecessor, known, listed, state⟩ := failed repairs
        rw [if_neg (apart listed)] at state
        exact ⟨predecessor, known, listed, state⟩
    have accepted := all node member listed
    have repairs : stage.repairs = true := by
      simpa using accepts_iff.mp accepted
    refine ⟨listed, repairs, fun predecessor known listed different => ?_⟩
    have accepted := all predecessor known listed
    rw [if_neg different, accepts_iff] at accepted
    simpa [repairs, required_of_repairs repairs] using accepted
  · rintro ⟨listed, repairs, others⟩
    refine ⟨fun predecessor known within => ?_, fun _ => ⟨node, member, listed, if_pos rfl⟩⟩
    rw [accepts_iff]
    by_cases same : predecessor.nodeID = node.nodeID
    · simp [same, repairs]
    · rcases others predecessor known within same with state | state
      · simp [same, state]
      · simp [same, state, repairs]

include running

theorem WorkflowInstance.Valid.givenUp (follows : transition.Follows current)
    (alone : ∀ other ∈ current.nodes, ¬current.Awaits definition node.nodeID other) :
    (current.moved transition (current.nodes.map transition.writeAt) .failed).Valid hash
      definition where
  headed := headed_moved valid.headed follows (by simp) rfl
  formed := by
    intro changed listed
    obtain ⟨other, within, rfl⟩ := List.mem_map.mp listed
    by_cases same : other.nodeID = node.nodeID
    · obtain rfl := valid.wired.distinct.eq within member same
      rw [writeAt, if_pos givesUp.nodeID.symm]
      exact (valid.formed other within).fail running givesUp.kind givesUp.progressDigest
        (by rw [givesUp.classification]; rfl) (by simp [givesUp.classification])
        (by simp [givesUp.classification])
    · rw [givesUp.kept same]
      exact valid.formed other within
  wired := valid.wired.map fun _ => writeAt_skeleton
  timely := by
    intro changed listed
    obtain ⟨other, within, rfl⟩ := List.mem_map.mp listed
    by_cases same : other.nodeID = node.nodeID
    · simp [givesUp.state, same]
    · rw [givesUp.kept same]
      refine ⟨fun ready => ?_, fun pending => ?_⟩
      · exact valid.ready_kept member givesUp.nodeID.symm (by simp [running,
          WorkflowNodeState.settled]) within ready
      · have stays := mt (valid.awaits_iff member givesUp within pending).mp
          (alone other within)
        exact Bool.eq_false_iff.mpr stays
  stands := by
    have failed : transition.writeAt node ∈ current.nodes.map transition.writeAt :=
      List.mem_map_of_mem member
    have state : (transition.writeAt node).state = .failed := by simp [givesUp.state]
    refine ⟨⟨?_, fun all => ?_⟩, fun _ => ⟨_, failed, state⟩, ?_, ?_⟩
    case refine_2 =>
      have finished := all _ failed
      simp [WorkflowNode.finished, state] at finished
    all_goals
      intro other
      cases other

end GivesUp

/-- A running node can be given up for good exactly when no repair waits for it alone: such a node
stays pending although its predecessors now let it go on, which the validator refuses. -/
theorem terminal_failure_recorded_iff (hash : WorkflowDefinition → Digest)
    (definition : WorkflowDefinition) (current : WorkflowInstance)
    (transition : WorkflowTransition) (node : WorkflowNode)
    (valid : current.validate hash definition = true) (open_ : current.state.terminal = false)
    (member : node ∈ current.nodes) (running : node.state = .running)
    (givesUp : transition.GivesUp node) (follows : transition.Follows current) :
    (∃ next, foldWorkflowInstance hash definition current [transition] = .ok next ∧
      next.validate hash definition = true ∧ next.state = .failed) ↔
      ∀ other ∈ current.nodes, ¬current.Awaits definition node.nodeID other := by
  rw [validate_iff] at valid
  have applied : ∀ moved, applyWorkflowTransition definition current transition = .ok moved ↔
      { transition.written current with state := .failed } = moved := by
    intro moved
    rw [valid.wired.distinct.applied]
    simp only [open_, givesUp.kind, settle, givesUp.classification, if_true,
      true_and, reduceCtorEq, false_and, false_or]
    refine ⟨fun ⟨_, _, _, _, same⟩ => same,
      fun same => ⟨node, member, givesUp.nodeID.symm, ?_, same⟩⟩
    simp [permits, givesUp.kind, running, givesUp.invocationID,
      givesUp.progressDigest, givesUp.classification, WorkflowFailureClassification.valid]
  simp only [fold_single valid follows, applied, exists_eq_left', validate_iff]
  constructor
  · rintro ⟨_, ⟨rfl, _⟩, ends, _⟩ other within awaits
    have satisfied := (valid.awaits_iff member givesUp within awaits.1).mpr awaits
    have different : other.nodeID ≠ node.nodeID := by
      intro same
      obtain rfl := valid.wired.distinct.eq within member same
      simp [running, Awaits] at awaits
    have timely : Timely definition (current.nodes.map transition.writeAt) := ends.timely
    have kept := timely _ (List.mem_map_of_mem within)
    rw [givesUp.kept different] at kept
    exact absurd satisfied (by simp [kept.2 awaits.1])
  · intro alone
    have ends := valid.givenUp member running givesUp follows alone
    exact ⟨_, ⟨rfl, ends⟩, ends, rfl⟩

namespace Sample

def giveUp (revision number : Nat) : WorkflowTransition :=
  { workflowTransition revision .fail number with
    invocationID := .number (100 + number)
    progressDigest := .number 7
    failureClassification := .terminalPolicy }

def mended : WorkflowDefinition :=
  workflow [workflowStage "build" [], workflowStage "mend" ["build"] .repair]

def mendedRunning : WorkflowInstance :=
  workflowInstance 3 .active
    [workflowTask 10 "build" .running, workflowNode 11 "mend" .pending [10]]

/-- A build that a repair waits for cannot be given up for good. -/
theorem repaired_failure_not_recorded :
    mendedRunning.validate workflowHash mended = true ∧
      mendedRunning.state.terminal = false ∧
      foldWorkflowInstance workflowHash mended mendedRunning [giveUp 4 10] =
        .error .invalidWorkflowInstance := by
  decide

def intakeRunning : WorkflowInstance :=
  workflowInstance 3 .active [workflowTask 10 "intake" .running]

theorem plain_failure_recorded :
    ∃ next, foldWorkflowInstance workflowHash pair pairRunning [giveUp 4 10] = .ok next ∧
      next.validate workflowHash pair = true ∧ next.state = .failed :=
  (terminal_failure_recorded_iff workflowHash pair pairRunning (giveUp 4 10)
    (workflowTask 10 "left" .running) (by decide) rfl (by decide) rfl
    ⟨rfl, rfl, rfl, rfl, rfl⟩ ⟨rfl, rfl, rfl⟩).mpr (by simp [Awaits, pairRunning,
      workflowInstance, workflowTask, workflowNode])

end Sample

end Tekroo.Kernel
