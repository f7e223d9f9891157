import Tekroo.Kernel.Policy.Command
import Tekroo.Kernel.Policy.Phase4
import Tekroo.Kernel.Transition

namespace Tekroo.Kernel

open Checked

/-! # Evaluating a command

`Evaluate` turns a command, a snapshot and a context into a decision.
-/

structure Evaluator where
  catalogue : Catalogue
  hashes : Hashes

/-- `validPreconditionVector`: valid, canonical, free of the target and of repetitions. -/
def validPreconditionVector (target : AggregateRef) (values : List AggregatePrecondition) : Bool :=
  values.all (fun value =>
      value.aggregate.valid && value.aggregate != target && value.expected.valid) &&
    values == canonicalPreconditions values &&
    decide ((values.map (·.aggregate)).IsChain (· ≠ ·))

variable (hashes : Hashes) (evaluator : Evaluator) (command : KernelCommand) (snapshot : Snapshot)
  (context : DecisionContext) (definition : CommandDefinition) (authorization : AuthorizationResult)
  (refusal : Refusal)

def validateEnvelope : Except String Unit := do
  refuse (command.contractManifest != contractIdentity || command.commandType == .other "" ||
    command.commandVersion == "") "contract or command identity mismatch"
  refuse (!command.commandID.valid || !command.target.valid || !command.authority.valid)
    "invalid identity"
  refuse (!command.actorFQN.all ActorFQN.valid) "invalid actor FQN"
  refuse (!command.execution.all ExecutionTuple.valid) "invalid execution tuple"
  refuse (!command.expectedRevision.valid) "invalid expected revision"
  refuse (command.expectedPolicyRevision == 0 || command.expectedCatalogueRevision == 0)
    "missing expected policy or catalogue revision"
  refuse (command.expectedLifecycleEpoch == some 0) "invalid expected lifecycle epoch"
  refuse (decide (command.idempotencyKey.utf8ByteSize < 1) ||
    decide (256 < command.idempotencyKey.utf8ByteSize) || !command.correlationID.valid)
    "invalid idempotency or correlation identity"
  refuse (decide (64 < command.causation.length) || decide (64 < command.evidenceRefs.length) ||
    decide (64 < command.preconditions.length) || command.payload.isEmpty)
    "envelope bounds exceeded"
  refuse (!validPreconditionVector command.target command.preconditions)
    "invalid aggregate preconditions"
  distinct (fun parent : DagParent => parent.parentEventID.valid && parent.edgeKind.valid)
    "invalid causal parent" "duplicate causal parent" [] command.causation
  distinct (fun evidence : EvidenceRef => evidence.evidenceID.valid && evidence.sha256.valid)
    "invalid evidence reference" "duplicate evidence reference" [] command.evidenceRefs

/-- The definition of a command with a valid envelope, authority kind and catalogue
revision. -/
def Evaluator.resolve : Except Refusal CommandDefinition := do
  match validateEnvelope command with
  | .error _ => .error ⟨.rejectedInvalid, "INVALID_ENVELOPE"⟩
  | .ok () =>
    match evaluator.catalogue.resolveCommand command with
    | .error .unknownCommand => .error ⟨.rejectedInvalid, "UNKNOWN_COMMAND_TYPE"⟩
    | .error .unsupportedVersion => .error ⟨.rejectedInvalid, "UNSUPPORTED_COMMAND_VERSION"⟩
    | .error _ => .error .invalidPayload
    | .ok definition => do
      refuse (!definition.authorityKinds.contains command.authority.kind) .unauthorized
      refuse (command.expectedCatalogueRevision != catalogueRevision)
        ⟨.rejectedConflict, "CATALOGUE_REVISION_CONFLICT"⟩
      return definition

def actorAttributionValid (required : Bool) : Bool :=
  !(command.authority.kind == .human &&
      (command.actorFQN.isSome || command.execution.isSome)) &&
    !(command.authority.kind == .actor &&
      !command.actorFQN.any (fun actor => command.authority.id == actor.text)) &&
    !(required && (command.actorFQN.isNone || command.execution.isNone)) &&
    match command.execution, command.actorFQN with
    | none, _ => !required
    | some _, none => false
    | some execution, some actor =>
      snapshot.currentExecutions.lookup actor == some execution

def expectedLifecycleEpochMatches : Bool :=
  if commandRequiresLifecycleEpoch command then
    !command.expectedRevision.mustNotExist && command.expectedLifecycleEpoch.isSome &&
      snapshot.state.any (fun state =>
        command.expectedLifecycleEpoch == some state.lifecycleEpoch)
  else command.expectedLifecycleEpoch.isNone

def preconditionsMatch (values : List AggregatePrecondition)
    (related : Table AggregateRef RelatedSnapshot) : Bool :=
  values.all fun value =>
    if value.expected.mustNotExist then
      !(related.lookup value.aggregate).any (·.present)
    else
      (related.lookup value.aggregate).any fun current =>
        current.present && current.revision == value.expected.revision

inductive RegistryExpectation where
  | absent (actor : ActorFQN)
  | current (actor : ActorFQN) (prior : ExecutionTuple)

def executionRegistryExpectation : Option RegistryExpectation :=
  match command.commandType, command.payload with
  | .executionRegister, .executionRegister value =>
    if value.actorFQN.valid then some (.absent value.actorFQN) else none
  | .executionReplace, .executionReplace value =>
    -- An epoch that `Int64` does not read leaves the command without an expectation.
    if value.actorFQN.valid && value.priorExecutionID.valid &&
        decide (2 ≤ value.newFencingEpoch.value) then
      value.prior.map (.current value.actorFQN)
    else none
  | _, _ => none

def validateExecutionRegistryCommand : Except Refusal Unit :=
  match executionRegistryExpectation command with
  | none => .ok ()
  | some (.absent actor) =>
    refuse (snapshot.currentExecutions.lookup actor).isSome .revisionConflict
  | some (.current actor prior) =>
    refuse (snapshot.currentExecutions.lookup actor != some prior) .staleExecution

def validDAGParents (snapshot : Snapshot) : Bool :=
  if command.causation.isEmpty then definition.rootAllowed
  else
    command.causation.all fun parent =>
      definition.allowedParentEdges.contains parent.edgeKind &&
        (snapshot.acceptedEvents parent.parentEventID).any fun accepted =>
          !accepted.quarantined && accepted.eventType != .other ""

def validEvidenceRefs : Bool :=
  command.evidenceRefs.all fun reference =>
    (snapshot.evidence.lookup reference.evidenceID).any fun metadata =>
      metadata.available && metadata.sha256 == reference.sha256

/-- A refusal that reveals something of the target is only given to those who may read it. -/
def AuthorizationResult.visible : Refusal :=
  if authorization.canReadTarget then refusal else .unauthorized

def checkTarget : Except Refusal Unit := do
  refuse (commandCreatesAggregate command != command.expectedRevision.mustNotExist)
    .revisionConflict
  if command.expectedRevision.mustNotExist then
    refuse snapshot.present
      (authorization.visible ⟨.rejectedConflict, "TARGET_ALREADY_EXISTS"⟩)
  else do
    refuse (!snapshot.present)
      (authorization.visible ⟨.rejectedNotFound, "TARGET_NOT_FOUND"⟩)
    refuse (snapshot.revision != command.expectedRevision.revision)
      (authorization.visible .revisionConflict)
  refuse (!expectedLifecycleEpochMatches command snapshot)
    (authorization.visible ⟨.rejectedConflict, "LIFECYCLE_EPOCH_CONFLICT"⟩)
  refuse (!preconditionsMatch command.preconditions snapshot.related)
    (authorization.visible .revisionConflict)

structure Acceptance where
  nextState : Option AggregateState
  nextRevision : Nat
  eventType : EventType
  lifecycleEpoch : Nat
  payload : Payload
  attemptBudget : Option AttemptBudgetDecision
  workBudget : Option WorkBudgetDebitDecision

def phase4Contribution : Except Refusal Phase4PolicyDecision :=
  match evaluatePhase4Command command snapshot context with
  | some result => result
  | none => .ok { eventPayload := command.payload, lifecycleEpoch := 1 }

/-- The checks of `Evaluate` that follow the authorization. -/
def Evaluator.examine : Except Refusal Acceptance := do
  refuse (command.expectedPolicyRevision != snapshot.authorization.revision ||
    snapshot.authorization.policyDigest != context.provenance.policyDigest ||
    snapshot.authorization.revision != context.provenance.policyRevision)
    ⟨.rejectedConflict, "POLICY_REVISION_CONFLICT"⟩
  refuse (!authorization.allowed) .unauthorized
  refuse (!actorAttributionValid command snapshot definition.executionRequired) .staleExecution
  checkTarget command snapshot authorization
  validateExecutionRegistryCommand command snapshot
  refuse (!validDAGParents command definition snapshot)
    ⟨.rejectedInvalid, "INVALID_DAG_PARENT"⟩
  refuse (!validEvidenceRefs command snapshot) .invalidEvidence
  let phase4 ← phase4Contribution command snapshot context
  validateCommandPolicy command snapshot context
  let attemptBudget ← evaluateAttemptPolicy evaluator.hashes command snapshot
  let (nextState, nextRevision) ← evolveState command snapshot context.eventID
  match definition.eventTypes with
  | [eventType] =>
    return {
      nextState, nextRevision, eventType
      lifecycleEpoch :=
        match nextState with
        | some state => state.lifecycleEpoch
        | none => phase4.lifecycleEpoch
      payload := phase4.eventPayload
      attemptBudget
      workBudget := phase4.workBudget }
  | _ => .error ⟨.rejectedInvalid, "INVALID_ENVELOPE"⟩

def receiptFor (provenance : Digest) (outcomeCode : OutcomeCode) (reasonCode : String)
    (stateChanged : Bool) (resultingRevision : Option Nat) (eventIDs : List UUIDv7) :
    CommandReceipt where
  contractManifest := contractIdentity
  commandID := command.commandID
  commandType := command.commandType
  target := command.target
  outcomeCode
  reasonCode
  stateChanged
  resultingRevision
  eventIDs
  receivedAt := context.receivedAt
  decidedAt := context.decidedAt
  provenanceDigest := provenance

def outboxKindForCommand : CommandType → OutboxKind
  | .workInvocationAuthorize => .workInvocationAuthorized
  | _ => .domainEvent

def executionGuards : Table ActorFQN ExecutionTuple :=
  let attributed : Table ActorFQN ExecutionTuple :=
    match command.actorFQN, command.execution with
    | some actor, some execution => (∅ : Table ActorFQN ExecutionTuple).insert actor execution
    | _, _ => ∅
  match executionRegistryExpectation command with
  | some (.current actor prior) => attributed.insert actor prior
  | _ => attributed

def decisionGuards (authority : AuthorityDecision) : DecisionGuards where
  executions := executionGuards command
  absentExecutions :=
    match executionRegistryExpectation command with
    | some (.absent actor) => [actor]
    | _ => []
  parentIDs := (canonicalParents command.causation).map (·.parentEventID)
  evidenceRefs := command.evidenceRefs
  preconditions := command.preconditions
  policyDigest := authority.policyDigest
  policyRevision := authority.policyRevision
  absentReviewKeys :=
    match command.commandType, command.payload with
    | .completionReviewOpen, .reviewOpen value => value.key.toList
    | _, _ => []
  absentEscalationKeys :=
    match command.commandType, command.payload with
    | .escalationOpen, .escalationOpen value => (value.snapshot.map (·.key)).toList
    | _, _ => []
  absentReleaseKeys :=
    match command.commandType, command.payload with
    | .releasePlanCreate, .releaseCreate value => value.validKey.toList
    | _, _ => []
  absentVariantKeys :=
    match command.commandType, command.payload with
    | .variantGroupOpen, .variantOpen value =>
      ((value.snapshot command.commandID).map (·.key)).toList
    | _, _ => []

def rejectedDecision : Decision :=
  let fingerprint := commandFingerprint hashes command
  let provenance := decisionProvenance command fingerprint context
  { commandFingerprint := fingerprint
    idempotencyScope := idempotencyScopeDigest hashes command
    nextState := none
    events := []
    receipt := receiptFor command context (provenance.digest hashes) refusal.outcome.code
      refusal.reason false none []
    authority := {
      principal := command.authority
      allowed := refusal.outcome != .rejectedUnauthorized
      canReadTarget := false
      reason := refusal.reason
      policyDigest := .text ""
      policyRevision := 0
      grantDigests := []
      delegationDigests := [] }
    outbox := []
    guards := {}
    provenance
    attemptBudget := none
    workBudget := none }

/-- `rejectedAuthorizedDecision`: the guards keep the preconditions of the command, whatever
it is rejected for. -/
def rejectedAuthorizedDecision (authority : AuthorityDecision) : Decision :=
  { rejectedDecision hashes command context refusal with
    authority
    guards := {
      preconditions := command.preconditions
      policyDigest := authority.policyDigest
      policyRevision := authority.policyRevision } }

def Acceptance.event (acceptance : Acceptance) (command : KernelCommand)
    (definition : CommandDefinition) (context : DecisionContext) (provenance : Digest) :
    DomainEvent where
  contractManifest := contractIdentity
  eventID := context.eventID
  eventType := acceptance.eventType
  eventVersion := definition.version
  aggregate := command.target
  aggregateRevision := acceptance.nextRevision
  lifecycleEpoch := acceptance.lifecycleEpoch
  commandID := command.commandID
  authority := command.authority
  actorFQN := command.actorFQN
  execution := command.execution
  parents := canonicalParents command.causation
  committedAt := context.decidedAt
  payload := acceptance.payload
  provenanceDigest := provenance

def acceptedDecision (context : DecisionContext) (acceptance : Acceptance)
    (authority : AuthorityDecision) : Decision :=
  let fingerprint := commandFingerprint hashes command
  let provenance := decisionProvenance command fingerprint context
  let digest := provenance.digest hashes
  { commandFingerprint := fingerprint
    idempotencyScope := idempotencyScopeDigest hashes command
    nextState := acceptance.nextState
    events := [acceptance.event command definition context digest]
    receipt := receiptFor command context digest .applied "APPLIED" true
      (some acceptance.nextRevision) [context.eventID]
    authority
    outbox := [⟨context.intentID, context.eventID, outboxKindForCommand command.commandType⟩]
    guards := decisionGuards command authority
    provenance
    attemptBudget := acceptance.attemptBudget
    workBudget := acceptance.workBudget }

def authorityDecision : AuthorityDecision where
  principal := command.authority
  allowed := authorization.allowed
  canReadTarget := authorization.canReadTarget
  reason := authorization.reasonCode
  policyDigest := snapshot.authorization.policyDigest
  policyRevision := snapshot.authorization.revision
  grantDigests := authorization.grantDigests
  delegationDigests := authorization.delegationDigests

def DecisionContext.attributed (grantDigests delegationDigests : List Digest) : DecisionContext :=
  { context with provenance := { context.provenance with grantDigests, delegationDigests } }

def DecisionContext.unattributed : DecisionContext :=
  context.attributed [] []

def DecisionContext.authorizedBy : DecisionContext :=
  context.attributed authorization.grantDigests authorization.delegationDigests

def Snapshot.authorize (snapshot : Snapshot) (command : KernelCommand)
    (context : DecisionContext) : AuthorizationResult :=
  snapshot.authorization.authorize command snapshot.state context.decidedAt

inductive EvaluateError where
  | invalidDecisionContext | invalidProvenanceBasis

/-- `Evaluate`.  The provenance is built twice: without grants for the rejections that
precede the authorization, then with the grants found. -/
def Evaluator.evaluate : Except EvaluateError Decision := do
  let { hashes, .. } := evaluator
  refuse (!validateDecisionContext hashes context) .invalidDecisionContext
  let fingerprint := commandFingerprint hashes command
  let _ ← demand (buildDecisionProvenance hashes command fingerprint context.unattributed)
    .invalidProvenanceBasis
  match evaluator.resolve command with
  | .error refusal => return rejectedDecision hashes command context.unattributed refusal
  | .ok definition =>
    let authorization := snapshot.authorize command context
    let context := context.authorizedBy authorization
    let _ ← demand (buildDecisionProvenance hashes command fingerprint context)
      .invalidProvenanceBasis
    let authority := authorityDecision command snapshot authorization
    match evaluator.examine command snapshot context definition authorization with
    | .error refusal =>
      return rejectedAuthorizedDecision hashes command context refusal authority
    | .ok acceptance =>
      return acceptedDecision hashes command definition context acceptance authority

end Tekroo.Kernel
