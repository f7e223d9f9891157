import Tekroo.Kernel.WorkflowDefinition

/-! # Workflow instances -/

namespace Tekroo.Kernel

open Checked

variable (hash : WorkflowDefinition → Digest) (nodes : List WorkflowNode)

/-- The four errors of the package; each function returns them as the source does. -/
inductive WorkflowError where
  | invalidWorkflowDefinition | invalidWorkflowInstance | invalidWorkflowTransition
  | invalidWorkProposal
deriving DecidableEq

inductive WorkflowInstanceState where
  | pending | active | blocked | completed | failed | cancelled
  | other (text : String)
deriving DecidableEq

namespace WorkflowInstanceState

def terminal (state : WorkflowInstanceState) : Bool :=
  state == .completed || state == .failed || state == .cancelled

def valid : WorkflowInstanceState → Bool
  | .other _ => false
  | _ => true

end WorkflowInstanceState

inductive WorkflowNodeState where
  | pending | ready | admitted | running | blocked | completed | skipped | failed | cancelled
  | other (text : String)
deriving DecidableEq

def WorkflowNodeState.valid : WorkflowNodeState → Bool
  | .other _ => false
  | _ => true

inductive WorkflowFailureClassification where
  | none | recoverableTransport | correctableWork | terminalPolicy | cancelled
  | other (text : String)
deriving DecidableEq

def WorkflowFailureClassification.valid : WorkflowFailureClassification → Bool
  | .other _ => false
  | _ => true

structure WorkflowNode where
  nodeID : UUIDv7
  stageID : String
  predecessorNodeIDs : List UUIDv7
  state : WorkflowNodeState
  attempt : Nat := 0
  actorFQN : Option ActorFQN := none
  invocationID : Option UUIDv7 := none
  inputEvidenceIDs : List UUIDv7 := []
  outputEvidenceIDs : List UUIDv7 := []
  progressDigest : Option Digest := none
  checkpointID : Option UUIDv7 := none
  failureClassification : WorkflowFailureClassification := .none
  continuationNodeID : Option UUIDv7 := none
  blockedFrom : Option WorkflowNodeState := none
deriving DecidableEq

structure WorkflowInstance where
  schemaVersion : String
  instanceID : UUIDv7
  revision : Nat
  definitionName : String
  definitionVersion : String
  definitionDigest : Digest
  rootRequest : AggregateRef
  budgetAccountID : UUIDv7
  state : WorkflowInstanceState
  nodes : List WorkflowNode
  proposedMessageIDs : List UUIDv7 := []
  acceptedMessageIDs : List UUIDv7 := []
  lastEventID : Option UUIDv7 := none
deriving DecidableEq

def workflowValidUUIDSet (values : List UUIDv7) : Bool :=
  values.all UUIDv7.valid && decide values.Nodup

def workflowNodeByID (id : UUIDv7) : Option WorkflowNode :=
  nodes.find? fun node => node.nodeID == id

def predecessorsCompleted (node : WorkflowNode) : Bool :=
  node.predecessorNodeIDs.all fun id =>
    (workflowNodeByID nodes id).any fun predecessor => predecessor.state == .completed

def predecessorsSatisfied (definition : WorkflowDefinition) (nodes : List WorkflowNode)
    (node : WorkflowNode) : Bool :=
  match workflowStageByID definition node.stageID with
  | none => predecessorsCompleted nodes node
  | some stage =>
    if stage.optional then
      node.predecessorNodeIDs.all fun id =>
        (workflowNodeByID nodes id).any fun predecessor =>
          predecessor.state == .completed || predecessor.state == .skipped
    else if stage.purpose != .repair && stage.purpose != .replan then
      predecessorsCompleted nodes node
    else
      !node.predecessorNodeIDs.isEmpty &&
        (node.predecessorNodeIDs.all fun id =>
          (workflowNodeByID nodes id).any fun candidate =>
            candidate.state == .completed || candidate.state == .failed) &&
        node.predecessorNodeIDs.any fun id =>
          (workflowNodeByID nodes id).any fun candidate => candidate.state == .failed

/-- The loop that turns pending nodes ready, one after the other: `before` is already updated. -/
def makeReady (definition : WorkflowDefinition) (before : List WorkflowNode) :
    List WorkflowNode → List WorkflowNode
  | [] => before
  | node :: rest =>
    let updated :=
      if node.state == .pending && predecessorsSatisfied definition (before ++ node :: rest) node
      then { node with state := .ready }
      else node
    makeReady definition (before ++ [updated]) rest

def WorkflowNode.finished (node : WorkflowNode) : Bool :=
  node.state == .completed || node.state == .skipped

def refreshWorkflowReadiness (definition : WorkflowDefinition) (current : WorkflowInstance) :
    WorkflowInstance :=
  let nodes := makeReady definition [] current.nodes
  { current with
    nodes
    state := if nodes.countP WorkflowNode.finished = nodes.length then .completed
      else current.state }

namespace WorkflowNode

variable (definition : WorkflowDefinition) (node : WorkflowNode)

def assigned : Bool :=
  node.actorFQN.isSome && node.invocationID.isSome && node.attempt != 0

def unassigned : Bool :=
  node.actorFQN.isNone && node.invocationID.isNone && node.attempt == 0

/-- The checks of the first pass over the nodes. -/
def shaped : Bool :=
  node.nodeID.valid && workflowName node.stageID && node.state.valid &&
    node.failureClassification.valid && decide (node.predecessorNodeIDs.length ≤ 255) &&
    decide (node.inputEvidenceIDs.length ≤ 1024) &&
    decide (node.outputEvidenceIDs.length ≤ 1024) &&
    workflowValidUUIDSet node.predecessorNodeIDs && workflowValidUUIDSet node.inputEvidenceIDs &&
    workflowValidUUIDSet node.outputEvidenceIDs &&
    (workflowStageByID definition node.stageID).isSome

/-- A predecessor is another node, of the same stage or of one that the stage depends on. -/
def linked (nodes : List WorkflowNode) (node : WorkflowNode) : Bool :=
  node.predecessorNodeIDs.all fun predecessor =>
    predecessor != node.nodeID &&
      (workflowNodeByID nodes predecessor).any fun found =>
        found.stageID == node.stageID ||
          (workflowStageByID definition node.stageID).any fun stage =>
            stage.dependsOn.contains found.stageID

/-- The checks of the second pass that look at the node alone. -/
def consistent : Bool :=
  node.actorFQN.all ActorFQN.valid && node.invocationID.all UUIDv7.valid &&
    node.progressDigest.all Digest.valid && node.checkpointID.all UUIDv7.valid &&
    node.continuationNodeID.all UUIDv7.valid &&
    !(node.blockedFrom.any (fun earlier => !earlier.valid || earlier == .blocked) ||
      node.state == .blocked && node.blockedFrom.isNone ||
      node.state != .blocked && node.blockedFrom.isSome) &&
    !(node.blockedFrom.any (fun earlier => earlier == .admitted || earlier == .running) &&
      !node.assigned) &&
    !(node.blockedFrom.any (· == .ready) && !node.unassigned) &&
    !((node.state == .admitted || node.state == .running || node.state == .completed ||
      node.state == .failed) && !node.assigned) &&
    !((node.state == .pending || node.state == .ready || node.state == .skipped) &&
      !node.unassigned) &&
    !(node.state == .skipped && (!workflowSkippableStage definition node.stageID ||
      node.progressDigest.isSome || node.checkpointID.isSome || node.continuationNodeID.isSome ||
      !node.outputEvidenceIDs.isEmpty || node.failureClassification != .none)) &&
    !(node.state == .failed && (node.progressDigest.isNone ||
      node.failureClassification == .none || node.failureClassification == .cancelled)) &&
    !(node.state == .cancelled && node.failureClassification != .cancelled)

/-- A node is ready exactly when its predecessors let it, as long as nothing else became of it. -/
def timely (nodes : List WorkflowNode) (node : WorkflowNode) : Bool :=
  !(node.state == .ready && !predecessorsSatisfied definition nodes node ||
    node.state == .pending && predecessorsSatisfied definition nodes node)

end WorkflowNode

namespace WorkflowInstance

variable (definition : WorkflowDefinition) (current : WorkflowInstance)

def count (state : WorkflowNodeState) : Nat :=
  current.nodes.countP fun node => node.state == state

def headed : Bool :=
  definition.validate hash && current.schemaVersion == workflowDefinitionSchemaVersion &&
    current.instanceID.valid && current.revision != 0 &&
    current.definitionName == definition.name && current.definitionVersion == definition.version &&
    current.definitionDigest == definition.contentDigest && current.rootRequest.valid &&
    current.budgetAccountID.valid && current.state.valid &&
    decide (definition.stages.length ≤ current.nodes.length) &&
    decide (current.nodes.length ≤ 4096) && decide (current.proposedMessageIDs.length ≤ 4096) &&
    decide (current.acceptedMessageIDs.length ≤ 4096) &&
    workflowValidUUIDSet current.proposedMessageIDs &&
    workflowValidUUIDSet current.acceptedMessageIDs && current.lastEventID.all UUIDv7.valid

def edges : List (GraphEdge UUIDv7) :=
  current.nodes.flatMap fun node =>
    node.predecessorNodeIDs.map fun predecessor => ⟨predecessor, node.nodeID⟩

/-- The state of the instance agrees with the number of its nodes in each state. -/
def standing : Bool :=
  !(current.state == .completed &&
      current.count .completed + current.count .skipped != current.nodes.length ||
    current.count .completed + current.count .skipped == current.nodes.length &&
      current.state != .completed) &&
    !(current.state == .failed && current.count .failed == 0 ||
      current.state == .cancelled &&
        current.count .completed + current.count .cancelled != current.nodes.length ||
      current.state == .blocked && current.count .blocked == 0)

def validate : Bool :=
  current.headed hash definition &&
    current.nodes.all (WorkflowNode.shaped definition) &&
    decide (current.nodes.map WorkflowNode.nodeID).Nodup &&
    definition.stages.all (fun stage =>
      current.nodes.any fun node => node.stageID == stage.stageID) &&
    current.nodes.all (fun node => node.linked definition current.nodes &&
      node.consistent definition && node.timely definition current.nodes) &&
    (validateDAG (current.nodes.map WorkflowNode.nodeID) current.edges).isOk &&
    current.standing

def readyNodes : List WorkflowNode :=
  current.nodes.filter fun node => node.state == .ready

def activeIn (group : String) (node : WorkflowNode) : Bool :=
  (node.state == .admitted || node.state == .running) &&
    (workflowStageByID definition node.stageID).any fun stage => stage.concurrencyGroup == group

/-- The loop of `AdmissibleReadyNodes`: `selected` holds what was chosen so far. -/
def selectReady (definition : WorkflowDefinition) (current : WorkflowInstance)
    (selected : List WorkflowNode) : List WorkflowNode → List WorkflowNode
  | [] => selected
  | node :: rest =>
    match workflowStageByID definition node.stageID with
    | none => selectReady definition current selected rest
    | some stage =>
      let active := current.nodes.countP (activeIn definition stage.concurrencyGroup)
      let chosen := selected.countP fun other =>
        (workflowStageByID definition other.stageID).any fun found =>
          found.concurrencyGroup == stage.concurrencyGroup
      if node.state != .ready || decide (stage.maximumParallelism ≤ active + chosen) then
        selectReady definition current selected rest
      else
        selectReady definition current (selected ++ [node]) rest

def admissibleReadyNodes : List WorkflowNode :=
  if current.validate hash definition then selectReady definition current [] current.nodes else []

end WorkflowInstance

section

variable (definition : WorkflowDefinition) (current : WorkflowInstance)
  (transition : WorkflowTransition)

def newWorkflowInstance (instanceID : UUIDv7) (root : AggregateRef) (budgetAccountID : UUIDv7)
    (nodeIDs : Table String UUIDv7) : Except WorkflowError WorkflowInstance := do
  refuse (!definition.validate hash || !instanceID.valid || !root.valid ||
    !budgetAccountID.valid || nodeIDs.entries.length != definition.stages.length)
    .invalidWorkflowInstance
  refuse (!nodeIDs.entries.all fun entry => entry.2.valid) .invalidWorkflowInstance
  let nodes ← definition.stages.mapM fun stage => do
    let nodeID ← demand (nodeIDs.lookup stage.stageID) .invalidWorkflowInstance
    let predecessors := stage.dependsOn.map fun predecessor =>
      (nodeIDs.lookup predecessor).getD default
    return {
      nodeID
      stageID := stage.stageID
      predecessorNodeIDs := predecessors
      state := if predecessors.isEmpty then .ready else .pending : WorkflowNode }
  let created : WorkflowInstance := {
    schemaVersion := workflowDefinitionSchemaVersion
    instanceID
    revision := 1
    definitionName := definition.name
    definitionVersion := definition.version
    definitionDigest := definition.contentDigest
    rootRequest := root
    budgetAccountID
    state := .active
    nodes := nodes }
  refuse (!created.validate hash definition) .invalidWorkflowInstance
  return created

structure WorkflowNodeSpec where
  nodeID : UUIDv7
  predecessorNodeIDs : List UUIDv7
  inputEvidenceIDs : List UUIDv7

def WorkflowNodeSpec.node (stageID : String) (spec : WorkflowNodeSpec) : WorkflowNode where
  nodeID := spec.nodeID
  stageID
  predecessorNodeIDs := spec.predecessorNodeIDs
  state := .pending
  inputEvidenceIDs := spec.inputEvidenceIDs

/-- Every mention of the placeholder becomes a mention of all its replacements. -/
def WorkflowNode.rewire (placeholderID : UUIDv7) (replacementIDs : List UUIDv7)
    (node : WorkflowNode) : WorkflowNode :=
  if node.predecessorNodeIDs.contains placeholderID then
    { node with predecessorNodeIDs := node.predecessorNodeIDs.flatMap fun predecessor =>
        if predecessor = placeholderID then replacementIDs else [predecessor] }
  else node

def expandNodes (placeholderID : UUIDv7) (stageID : String) (specs : List WorkflowNodeSpec)
    (nodes : List WorkflowNode) : List WorkflowNode :=
  nodes.flatMap fun node =>
    if node.nodeID = placeholderID then specs.map (WorkflowNodeSpec.node stageID)
    else [node.rewire placeholderID (specs.map WorkflowNodeSpec.nodeID)]

def expandWorkflowNode (placeholderID eventID : UUIDv7) (specs : List WorkflowNodeSpec) :
    Except WorkflowError WorkflowInstance := do
  refuse (!current.validate hash definition || !placeholderID.valid || !eventID.valid ||
    specs.isEmpty || decide (4096 < current.nodes.length - 1 + specs.length))
    .invalidWorkflowTransition
  let placeholder ← demand (workflowNodeByID current.nodes placeholderID)
    .invalidWorkflowTransition
  refuse (placeholder.state != .pending && placeholder.state != .ready)
    .invalidWorkflowTransition
  refuse (!(specs.all fun spec => spec.nodeID.valid &&
      workflowValidUUIDSet spec.predecessorNodeIDs &&
      workflowValidUUIDSet spec.inputEvidenceIDs) ||
    !decide (specs.map WorkflowNodeSpec.nodeID).Nodup) .invalidWorkflowTransition
  let next : WorkflowInstance := { current with
    nodes := makeReady definition []
      (expandNodes placeholderID placeholder.stageID specs current.nodes)
    revision := current.revision + 1
    lastEventID := some eventID }
  refuse (!next.validate hash definition) .invalidWorkflowTransition
  return next

inductive WorkflowTransitionKind where
  | admitNode | start | complete | skip | fail | block | ready | cancel | checkpoint
  | other (text : String)
deriving DecidableEq

structure WorkflowTransition where
  revision : Nat
  eventID : UUIDv7
  kind : WorkflowTransitionKind
  nodeID : UUIDv7 := default
  actorFQN : ActorFQN := default
  invocationID : UUIDv7 := default
  evidenceIDs : List UUIDv7 := []
  progressDigest : Digest := default
  checkpointID : UUIDv7 := default
  failureClassification : WorkflowFailureClassification := .other ""
  recordedAt : Time

def WorkflowTransition.write (node : WorkflowNode) : WorkflowNode :=
  match transition.kind with
  | .admitNode => { node with
      state := .admitted
      attempt := node.attempt + 1
      actorFQN := some transition.actorFQN
      invocationID := some transition.invocationID }
  | .start => { node with state := .running }
  | .complete => { node with
      state := .completed
      outputEvidenceIDs := transition.evidenceIDs
      progressDigest := some transition.progressDigest
      failureClassification := .none }
  | .skip => { node with state := .skipped }
  | .fail => { node with
      state := .failed
      progressDigest := some transition.progressDigest
      failureClassification := transition.failureClassification }
  | .block => { node with blockedFrom := some node.state, state := .blocked }
  | .ready => { node with state := node.blockedFrom.getD node.state, blockedFrom := none }
  | .checkpoint => { node with checkpointID := some transition.checkpointID }
  | .cancel | .other _ => node

def WorkflowTransition.permits (nodes : List WorkflowNode) (transition : WorkflowTransition)
    (node : WorkflowNode) : Bool :=
  match transition.kind with
  | .admitNode => node.state == .ready && transition.actorFQN.valid &&
      transition.invocationID.valid
  | .start => node.state == .admitted && node.invocationID == some transition.invocationID
  | .complete => node.state == .running && node.invocationID == some transition.invocationID &&
      transition.progressDigest.valid && workflowValidUUIDSet transition.evidenceIDs
  | .skip => node.state == .ready && workflowSkippableStage definition node.stageID &&
      transition.actorFQN == default && transition.invocationID == default &&
      transition.progressDigest == default && transition.checkpointID == default &&
      transition.failureClassification == .other "" && transition.evidenceIDs.isEmpty
  | .fail => node.state == .running && node.invocationID == some transition.invocationID &&
      transition.progressDigest.valid && transition.failureClassification.valid &&
      transition.failureClassification != .none
  | .block => node.state == .ready || node.state == .admitted || node.state == .running
  | .ready => node.state == .blocked && node.blockedFrom.isSome &&
      predecessorsSatisfied definition nodes node
  | .checkpoint => (node.state == .admitted || node.state == .running ||
      node.state == .blocked) && transition.checkpointID.valid
  | .cancel | .other _ => false

/-- Change the node that `workflowNodeByID` points at. -/
def alterNode (id : UUIDv7) (change : WorkflowNode → WorkflowNode) :
    List WorkflowNode → List WorkflowNode
  | [] => []
  | node :: rest =>
    if node.nodeID = id then change node :: rest else node :: alterNode id change rest

def WorkflowNode.cancel (node : WorkflowNode) : WorkflowNode :=
  if node.state != .completed then
    { node with state := .cancelled, failureClassification := .cancelled }
  else node

/-- The state of the instance, and the readiness of its nodes, after the node has changed. -/
def WorkflowTransition.settle (changed : WorkflowInstance) : WorkflowInstance :=
  match transition.kind with
  | .complete | .skip => refreshWorkflowReadiness definition changed
  | .fail =>
    if transition.failureClassification = .terminalPolicy then { changed with state := .failed }
    else refreshWorkflowReadiness definition changed
  | .block => { changed with state := .blocked }
  | .ready => { changed with state := .active }
  | .admitNode | .start | .checkpoint | .cancel | .other _ => changed

def applyWorkflowTransition : Except WorkflowError WorkflowInstance := do
  refuse current.state.terminal .invalidWorkflowTransition
  if transition.kind = .cancel then
    return { current with nodes := current.nodes.map WorkflowNode.cancel, state := .cancelled }
  let node ← demand (workflowNodeByID current.nodes transition.nodeID) .invalidWorkflowTransition
  refuse (!transition.permits definition current.nodes node) .invalidWorkflowTransition
  return transition.settle definition
    { current with nodes := alterNode transition.nodeID transition.write current.nodes }

/-- One turn of the loop of `FoldWorkflowInstance`. -/
def advanceWorkflow : Except WorkflowError WorkflowInstance := do
  refuse (transition.revision != current.revision + 1 || !transition.eventID.valid ||
    transition.recordedAt.isZero) .invalidWorkflowTransition
  let moved ← applyWorkflowTransition definition current transition
  return { moved with
    revision := transition.revision
    lastEventID := some transition.eventID }

def foldWorkflowInstance (initial : WorkflowInstance) (transitions : List WorkflowTransition) :
    Except WorkflowError WorkflowInstance := do
  refuse (!initial.validate hash definition) .invalidWorkflowInstance
  let state ← transitions.foldlM (advanceWorkflow definition) initial
  refuse (!state.validate hash definition) .invalidWorkflowInstance
  return state

end

/-! # Admission of proposed work -/

structure WorkProposal where
  schemaVersion : String
  proposalID : UUIDv7
  messageID : UUIDv7
  workflowInstanceID : UUIDv7
  stageID : String
  nodeID : UUIDv7
  actorFQN : ActorFQN
  execution : ExecutionTuple
  budgetAccountID : UUIDv7
  causationEventIDs : List UUIDv7
  inputEvidenceIDs : List UUIDv7
  proposedAt : Time

def workProposalSchemaVersion : String := "1.0.0"

def WorkProposal.valid (proposal : WorkProposal) : Bool :=
  proposal.schemaVersion == workProposalSchemaVersion && proposal.proposalID.valid &&
    proposal.messageID.valid && proposal.workflowInstanceID.valid &&
    workflowName proposal.stageID && proposal.nodeID.valid && proposal.actorFQN.valid &&
    proposal.execution.valid && proposal.budgetAccountID.valid &&
    decide (0 < proposal.causationEventIDs.length) &&
    decide (proposal.causationEventIDs.length ≤ 64) &&
    workflowValidUUIDSet proposal.causationEventIDs &&
    decide (proposal.inputEvidenceIDs.length ≤ 1024) &&
    workflowValidUUIDSet proposal.inputEvidenceIDs && !proposal.proposedAt.isZero

inductive WorkAdmissionReason where
  | accepted | undeclaredTransition | predecessorIncomplete | duplicateNode | causationInvalid
  | actorIneligible | budgetExhausted | noProgress | workflowTerminal
deriving DecidableEq

inductive WorkAdmissionOutcome where
  | admitted | rejected
deriving DecidableEq

structure WorkAdmissionResult where
  schemaVersion : String
  proposalID : UUIDv7
  workflowInstanceID : UUIDv7
  nodeID : UUIDv7
  outcome : WorkAdmissionOutcome
  reasonCode : WorkAdmissionReason
  recordedEventID : UUIDv7
  authorizedInvocationID : Option UUIDv7
  recordedAt : Time
deriving DecidableEq

def WorkAdmissionResult.valid (result : WorkAdmissionResult) : Bool :=
  result.schemaVersion == workProposalSchemaVersion && result.proposalID.valid &&
    result.workflowInstanceID.valid && result.nodeID.valid && result.recordedEventID.valid &&
    !result.recordedAt.isZero &&
    match result.outcome with
    | .admitted => result.reasonCode == .accepted &&
        result.authorizedInvocationID.any UUIDv7.valid
    | .rejected => result.reasonCode != .accepted && result.authorizedInvocationID.isNone

structure WorkflowAdmissionFacts where
  actorEligible : Bool
  budgetAvailable : Bool
  causationValid : Bool
  changedConditionProven : Bool

def workflowHasFailedPredecessor (node : WorkflowNode) : Bool :=
  node.predecessorNodeIDs.any fun id =>
    (workflowNodeByID nodes id).any fun predecessor => predecessor.state == .failed

variable (definition : WorkflowDefinition) (current : WorkflowInstance) (proposal : WorkProposal)

def workflowAdmissionReason (facts : WorkflowAdmissionFacts) : WorkAdmissionReason :=
  if current.state.terminal then .workflowTerminal
  else if current.proposedMessageIDs.contains proposal.messageID ||
      current.acceptedMessageIDs.contains proposal.messageID then .duplicateNode
  else
    match workflowNodeByID current.nodes proposal.nodeID with
    | none => .undeclaredTransition
    | some node =>
      if node.stageID != proposal.stageID ||
          !workflowStageExists definition proposal.stageID then .undeclaredTransition
      else if node.state = .pending then .predecessorIncomplete
      else if node.state ≠ .ready then .duplicateNode
      else if !facts.causationValid then .causationInvalid
      else if !facts.actorEligible then .actorIneligible
      else if !facts.budgetAvailable then .budgetExhausted
      else if (workflowStageByID definition proposal.stageID).any (fun stage =>
          stage.purpose == .repair || stage.purpose == .replan) &&
          workflowHasFailedPredecessor current.nodes node &&
          !facts.changedConditionProven then .noProgress
      else .accepted

def appendUniqueUUID (values : List UUIDv7) (value : UUIDv7) : List UUIDv7 :=
  if values.contains value then values else values ++ [value]

structure WorkflowAdmissionEvaluation where
  result : WorkAdmissionResult
  nextInstance : WorkflowInstance
deriving DecidableEq

def WorkProposal.transition (current : WorkflowInstance)
    (recordedEventID authorizedInvocationID : UUIDv7) (recordedAt : Time) : WorkflowTransition where
  revision := current.revision + 1
  eventID := recordedEventID
  kind := .admitNode
  nodeID := proposal.nodeID
  actorFQN := proposal.actorFQN
  invocationID := authorizedInvocationID
  recordedAt

/-- The instance after the decision, before its revision is raised. -/
def decideWorkflowAdmission (reason : WorkAdmissionReason) (transition : WorkflowTransition) :
    Except WorkflowError WorkflowInstance :=
  let next := { current with
    proposedMessageIDs := appendUniqueUUID current.proposedMessageIDs proposal.messageID }
  if reason = .accepted then
    match applyWorkflowTransition definition next transition with
    | .error _ => .error .invalidWorkProposal
    | .ok moved => .ok { moved with
        acceptedMessageIDs := appendUniqueUUID moved.acceptedMessageIDs proposal.messageID }
  else .ok next

def evaluateWorkflowAdmission (hash : WorkflowDefinition → Digest)
    (definition : WorkflowDefinition) (current : WorkflowInstance) (proposal : WorkProposal)
    (facts : WorkflowAdmissionFacts) (recordedEventID authorizedInvocationID : UUIDv7)
    (recordedAt : Time) : Except WorkflowError WorkflowAdmissionEvaluation := do
  refuse (!definition.validate hash || !current.validate hash definition || !proposal.valid ||
    !recordedEventID.valid || !authorizedInvocationID.valid || recordedAt.isZero ||
    proposal.workflowInstanceID != current.instanceID ||
    proposal.budgetAccountID != current.budgetAccountID ||
    decide (recordedAt < proposal.proposedAt)) .invalidWorkProposal
  let reason := workflowAdmissionReason definition current proposal facts
  let decided ← decideWorkflowAdmission definition current proposal reason
    (proposal.transition current recordedEventID authorizedInvocationID recordedAt)
  let next := { decided with
    revision := current.revision + 1
    lastEventID := some recordedEventID }
  let result : WorkAdmissionResult := {
    schemaVersion := workProposalSchemaVersion
    proposalID := proposal.proposalID
    workflowInstanceID := current.instanceID
    nodeID := proposal.nodeID
    outcome := if reason = .accepted then .admitted else .rejected
    reasonCode := reason
    recordedEventID
    authorizedInvocationID := if reason = .accepted then some authorizedInvocationID else none
    recordedAt := recordedAt }
  refuse (!next.validate hash definition || !result.valid) .invalidWorkProposal
  return { result := result, nextInstance := next }

end Tekroo.Kernel
