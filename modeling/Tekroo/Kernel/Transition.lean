import Tekroo.Kernel.Policy.Operator

namespace Tekroo.Kernel

open Checked

/-! # The state transition of a command

`evolveState` computes the next state of the target from the command, before any event
exists.
-/

variable (aggregate : AggregateRef) (command : KernelCommand)

def commandCreatesAggregate : Bool :=
  match command.commandType, command.payload with
  | .storyCreate, _ | .taskCreate, _ | .workBudgetCreate, _ | .workInvocationAuthorize, _
  | .evidenceRegister, _ | .executionRegister, _ | .completionReviewOpen, _
  | .escalationOpen, _ | .releasePlanCreate, _ | .variantGroupOpen, _
  | .humanInteractionOpen, _ => true
  | .humanParticipantBindProfile, .participant value => value.expectedParticipantRevision == 0
  | .systemBindOperatorRole, .operatorRole value
  | .systemConfigureContinuity, .continuityConfigure value => value.expectedSystemRevision == 0
  | _, _ => false

def isOperatorHumanContinuityCreation : Bool :=
  commandCreatesAggregate command &&
    match command.commandType with
    | .systemBindOperatorRole | .systemConfigureContinuity | .humanParticipantBindProfile
    | .humanInteractionOpen => true
    | _ => false

def createdState (phase : Phase) : AggregateState where
  kind := aggregate.kind
  id := aggregate.id
  revision := 1
  lifecycleEpoch := 1
  scopeRevision := 1
  phase
  condition := .runnable

/-- The state that `evolveState` creates for a story or a task. -/
def createdWork : AggregateState :=
  createdState aggregate (if aggregate.kind == .task then .planned else .draft)

/-- The states that `evolveState` creates for the aggregates of operators and humans. -/
def createOperatorState (eventID : UUIDv7) : Except Refusal AggregateState :=
  let state := createdState command.target .draft
  match command.commandType, command.payload with
  | .systemBindOperatorRole, .operatorRole value => do
    let profile ← demand value.role .invalidPayload
    return { state with operatorRole := some profile }
  | .systemConfigureContinuity, .continuityConfigure value => do
    let continuity ← demand (value.continuity eventID 1) .invalidPayload
    return { state with continuity := some continuity }
  | .humanParticipantBindProfile, .participant value => do
    let participant ← demand (value.snapshot 1) .invalidPayload
    return { state with participant := some participant }
  | .humanInteractionOpen, .interactionOpen value => do
    let interaction ← demand (value.snapshot 1) .invalidPayload
    refuse (interaction.interactionID != command.target.id) .invalidPayload
    return { state with interaction := some interaction }
  | _, _ => .error .invalidPayload

/-- `ownershipPayload`: the payload with its owner checked. -/
def OwnershipPayload.parsed (value : OwnershipPayload) : Option OwnershipPayload :=
  if value.ownerFQN.valid then some value else none

/-- `reassignmentPayload` -/
def ReassignmentPayload.parsed (value : ReassignmentPayload) : Option ReassignmentPayload :=
  if value.priorOwnerFQN.valid && value.newOwnerFQN.valid then some value else none

namespace Ownership

variable (ownership : Ownership) (value : OwnershipPayload)

def acquire (eventID : UUIDv7) : Option Ownership :=
  if ownership.ownerFQN.isNone && value.version == ownership.ownershipVersion then
    some {
      ownerFQN := some value.ownerFQN
      ownershipVersion := ownership.ownershipVersion + 1
      assignedEventID := some eventID }
  else none

def release : Option Ownership :=
  if ownership.ownerFQN == some value.ownerFQN &&
      value.version == ownership.ownershipVersion then
    some { ownershipVersion := ownership.ownershipVersion + 1 }
  else none

def reassign (value : ReassignmentPayload) (eventID : UUIDv7) : Option Ownership :=
  if ownership.ownerFQN == some value.priorOwnerFQN &&
      value.version == ownership.ownershipVersion then
    some {
      ownerFQN := some value.newOwnerFQN
      ownershipVersion := ownership.ownershipVersion + 1
      assignedEventID := some eventID }
  else none

end Ownership

def applyOwnership (commandType : CommandType) (payload : Payload) (state : AggregateState)
    (eventID : UUIDv7) : Except Refusal AggregateState :=
  match commandType with
  | .taskAcquireOwnership =>
    match payload with
    | .ownership value => do
      let value ← demand value.parsed .revisionConflict
      let ownership ← demand (state.ownership.acquire value eventID) .revisionConflict
      return { state with ownership }
    | _ => .error .revisionConflict
  | .taskReleaseOwnership =>
    match payload with
    | .ownership value => do
      let value ← demand value.parsed .revisionConflict
      let ownership ← demand (state.ownership.release value) .revisionConflict
      return { state with ownership }
    | _ => .error .revisionConflict
  | .taskHandoff | .taskForceReassign =>
    match payload with
    | .reassignment value => do
      let value ← demand value.parsed .revisionConflict
      let ownership ← demand (state.ownership.reassign value eventID) .revisionConflict
      return { state with ownership }
    | _ => .error .revisionConflict
  | .taskActivate =>
    match payload with
    | .ownership value => do
      let value ← demand value.parsed .transitionPolicy
      refuse (state.ownership.ownerFQN != some value.ownerFQN ||
        value.version != state.ownership.ownershipVersion) .transitionPolicy
      return state
    | _ => .error .transitionPolicy
  | _ => .ok state

variable (command : KernelCommand) (state : AggregateState) (revision : Nat) (eventID : UUIDv7)

def AggregateState.lifecycleModel : LifecycleModel :=
  if state.kind == .task then .task else .story

def AggregateState.applyLifecycle (action : LifecycleAction) : Option AggregateState :=
  let result := applyLifecycleActions state.lifecycleModel
    { phase := state.phase
      condition := state.condition
      lifecycleEpoch := state.lifecycleEpoch } [action]
  if result.rejected.isSome then none
  else
    some { state with
      phase := result.phase
      condition := result.condition
      lifecycleEpoch := result.lifecycleEpoch }

/-- What reopening does besides its lifecycle action: the scope advances and, unless the
command carries the owner forward, the owner and its assignment are cleared. -/
def AggregateState.reopened : Payload → AggregateState
  | .reopen value =>
    let state :=
      if 0 < value.newScopeRevision then { state with scopeRevision := value.newScopeRevision }
      else state
    if value.ownerCarryForward then state
    else { state with
      ownership := { state.ownership with ownerFQN := none, assignedEventID := none } }
  | _ => { state with
      ownership := { state.ownership with ownerFQN := none, assignedEventID := none } }

def evolveLifecycle : Except Refusal AggregateState :=
  match commandLifecycleAction command.commandType with
  | none => .ok state
  | some action => do
    let next ← demand (state.applyLifecycle action) .transitionPolicy
    if command.commandType == .workReopen then return next.reopened command.payload
    else return next

def evolveConversation : Except Refusal AggregateState :=
  match (continuityEventType command.commandType).orElse
      fun _ => interactionEventType command.commandType with
  | none => .ok state
  | some eventType =>
    let event := DomainEvent.trial eventType eventID command.target revision 0 command.payload
    match state.continuity, state.interaction with
    | some continuity, _ => do
      let next ← demand (continuity.applyContinuityEvent event) .transitionPolicy
      return { state with continuity := some next }
    | none, some interaction => do
      let next ← demand (interaction.applyHumanInteractionEvent event) .transitionPolicy
      return { state with interaction := some next }
    | none, none => .ok state

def bindParticipant (payload : Payload) : Option AggregateState :=
  match payload, state.participant with
  | .participant value, some current =>
    (value.snapshot revision).bind fun participant =>
      if participant.participant == current.participant then
        some { state with participant := some participant }
      else none
  | _, _ => none

def revokeParticipant : Option AggregateState :=
  match state.participant with
  | some current =>
    if current.active then
      some { state with participant := some { current with active := false, revision } }
    else none
  | none => none

def replaceOperatorRole (payload : Payload) : Option AggregateState :=
  match payload, state.operatorRole with
  | .operatorRole value, some current =>
    value.role.bind fun profile =>
      if profile.replacesBindingID == some current.bindingID then
        some { state with operatorRole := some profile }
      else none
  | _, _ => none

def reconfigureContinuity (revision : Nat) (payload : Payload) : Option AggregateState :=
  match payload with
  | .continuityConfigure value =>
    (value.continuity eventID revision).bind fun continuity =>
      if state.continuity.all (fun current => current.controlState == .active) then
        some { state with continuity := some continuity }
      else none
  | _ => none

def evolveProfile : Except Refusal AggregateState :=
  match command.commandType with
  | .humanParticipantBindProfile =>
    demand (bindParticipant state revision command.payload) .transitionPolicy
  | .humanParticipantRevoke => demand (revokeParticipant state revision) .transitionPolicy
  | .systemBindOperatorRole =>
    demand (replaceOperatorRole state command.payload) .transitionPolicy
  | .systemConfigureContinuity =>
    demand (reconfigureContinuity state eventID revision command.payload) .transitionPolicy
  | _ => .ok state

def evolveExisting : Except Refusal AggregateState := do
  refuse (state.id != command.target.id || state.kind != command.target.kind ||
    state.revision != revision) .revisionConflict
  refuse (terminalCommandProhibited command.commandType state.phase)
    ⟨.rejectedClosed, "TARGET_CLOSED"⟩
  let state ← evolveLifecycle command state
  let state ← applyOwnership command.commandType command.payload state eventID
  let state ← evolveConversation command state (revision + 1) eventID
  let state ← evolveProfile command state (revision + 1) eventID
  return { state with revision := revision + 1 }

/-- `evolveState`: the next state, if the aggregate has one, and the next revision. -/
def evolveState (snapshot : Snapshot) (eventID : UUIDv7) :
    Except Refusal (Option AggregateState × Nat) :=
  if command.commandType == .storyCreate || command.commandType == .taskCreate then
    .ok (some (createdWork command.target), 1)
  else if isOperatorHumanContinuityCreation command then do
    let state ← createOperatorState command eventID
    return (some state, 1)
  else
    match snapshot.state with
    | none =>
      if command.target.kind == .story || command.target.kind == .task then
        .error .revisionConflict
      else .ok (none, snapshot.revision + 1)
    | some state => do
      let next ← evolveExisting command state snapshot.revision eventID
      return (some next, snapshot.revision + 1)

end Tekroo.Kernel
