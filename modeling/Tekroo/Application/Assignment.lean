import Tekroo.Application.Handler
import Tekroo.Kernel.Assignment

namespace Tekroo.Application

open Kernel Lib

/-! # The assignment coordinator

`Coordinate` plans an assignment, asks whether the team admits work, and sends up to three
commands, each caused by the event of the one before.
-/

structure AssignmentCommandIdentity where
  readinessCommandID : UUIDv7
  authorizationCommandID : UUIDv7
  dispatchCommandID : UUIDv7
  correlationID : UUIDv7
  readinessKey : String
  authorizationKey : String
  dispatchKey : String

structure AssignmentCoordinationRequest where
  input : AssignmentInput
  powerEpoch : UInt64
  identity : AssignmentCommandIdentity
  policyAuthority : PrincipalRef
  policyRevision : Nat
  catalogueRevision : Nat
  provenance : ProvenanceBasis

structure AssignmentCoordinationResult where
  decision : AssignmentDecision
  readinessReceipt : Option CommandReceipt := none
  authorizationReceipt : Option CommandReceipt := none
  dispatchReceipt : Option CommandReceipt := none

inductive AdmissionError where
  /-- `ErrInvalidAssignmentCoordination` -/
  | invalid
  /-- `ErrContinuityUnavailable` -/
  | unavailable
deriving DecidableEq

inductive AssignmentError where
  /-- `ErrInvalidAssignmentCoordination` -/
  | invalid
  | admission (error : AdmissionError)
  /-- `AdmissionDeniedError` -/
  | denied (reason : String)
  | handler (error : HandleError)

inductive AssignmentCall where
  | admission (action : ContinuityAction) (powerEpoch : UInt64)
  | handle (call : Call)

@[reducible] def AssignmentCall.Answer : AssignmentCall → Type
  | .admission _ _ => Except AdmissionError PolicyResult
  | .handle _ => Call

abbrev Assigning := Program AssignmentCall AssignmentCall.Answer

/-- `Admit` of the continuity coordinator, over the store. -/
def continuityAdmission (system : AggregateRef) (store : Store) (action : ContinuityAction)
    (powerEpoch : UInt64) : Except AdmissionError PolicyResult :=
  if (action != .dispatch && action != .acceptResult) || powerEpoch == 0 then .error .invalid
  else
    match (store.relatedSnapshot system).present, store.states.lookup system with
    | true, some state =>
      match state.continuity with
      | some continuity =>
        if state.kind != .system || state.id != system.id || !continuity.valid then
          .error .unavailable
        else .ok (evaluateContinuityAdmission continuity action powerEpoch)
      | none => .error .unavailable
    | _, _ => .error .unavailable

namespace AssignmentCoordinationRequest

variable (request : AssignmentCoordinationRequest)

def task : AggregateRef := ⟨.task, request.input.task.id⟩

def assignmentCommand (commandID : UUIDv7) (key : String) (commandType : CommandType)
    (revision : Nat) (parents : List DagParent) (payload : Payload)
    (evidence : List EvidenceRef) : KernelCommand where
  contractManifest := contractIdentity
  commandID
  commandType
  commandVersion := schemaVersion
  target := request.task
  authority := request.policyAuthority
  actorFQN := none
  execution := none
  expectedRevision := ⟨false, revision⟩
  preconditions := []
  expectedLifecycleEpoch := some request.input.task.lifecycleEpoch
  expectedPolicyRevision := request.policyRevision
  expectedCatalogueRevision := request.catalogueRevision
  idempotencyKey := key
  correlationID := request.identity.correlationID
  causation := parents
  issuedAt := none
  payload
  evidenceRefs := evidence

/-- The readiness payload is only stored; `text` is its JSON. -/
def readinessCommand (text : List UUIDv7 → Nat → String) (decision : AssignmentDecision) :
    KernelCommand :=
  request.assignmentCommand request.identity.readinessCommandID request.identity.readinessKey
    .taskMarkReady decision.task.revision decision.readinessParents
    (.unread (text decision.dependencyEventIDs decision.readinessPolicyRevision)) []

variable (decision : AssignmentDecision) (revision : Nat) (parents : List DagParent)
  (actor : ActorFQN) (execution : ExecutionTuple) (qualification : ModelProfileQualification)

def qualificationReceipt : AssignmentQualificationReceipt where
  qualificationID := qualification.qualificationID
  qualificationDigest := qualification.qualificationDigest
  qualificationCorpusDigest := qualification.qualificationCorpusDigest
  modelProfileDigest := qualification.modelProfileDigest
  decisionRoute := qualification.decisionRoute
  qualifiedRole := qualification.qualifiedRole
  status := qualification.status
  observedAt := qualification.observedAt.toSecond

/-- The payload of the authorization; the kernel fills in the event id. -/
def authorization : QualifiedAssignmentAuthorization where
  assignmentID := request.identity.authorizationCommandID
  taskID := decision.task.id
  expectedTaskRevision := revision
  workProfile := decision.workProfile
  requiredDecisionRoute := decision.requiredDecisionRoute
  selectedDecisionRoute := decision.selectedDecisionRoute
  selectedActorFQN := actor
  selectedExecutionID := execution.executionID
  selectedFencingEpoch := execution.fencingEpoch
  modelProfileDigest := decision.modelProfileDigest
  runtimeIdentityDigest := decision.runtimeIdentityDigest
  qualification := qualificationReceipt qualification
  selectionPolicyRevision := decision.selectionPolicyRevision
  selectionPolicyDigest := decision.selectionPolicyDigest
  hardConstraintResults := decision.hardConstraints
  selectionReasons := decision.selectionReasons
  evidenceIDs := decision.selectionEvidence.map (·.evidenceID)
  authorizationEventID := .text ""

def authorizationCommand : KernelCommand :=
  request.assignmentCommand request.identity.authorizationCommandID
    request.identity.authorizationKey .taskAuthorizeQualifiedAssignment revision parents
    (.qualifiedAssignment
      (request.authorization decision revision actor execution qualification))
    decision.selectionEvidence

def dispatchCommand : KernelCommand :=
  request.assignmentCommand request.identity.dispatchCommandID request.identity.dispatchKey
    .taskDispatch revision parents (.taskDispatch actor.text) []

/-- `validateAssignmentCoordination` -/
def valid (hashes : Hashes) (decision : AssignmentDecision) : Bool :=
  let identity := request.identity
  decision.status == .ready && decision.actorFQN.any ActorFQN.valid &&
    decision.execution.any ExecutionTuple.valid &&
    decision.qualification.any ModelProfileQualification.valid && decision.workProfile.valid &&
    decision.modelProfileDigest.valid && decision.runtimeIdentityDigest.valid &&
    validAssignmentTask decision.task && decide (0 < request.powerEpoch) &&
    request.policyAuthority.kind == .policy && request.policyAuthority.valid &&
    decide (0 < request.policyRevision) &&
    request.catalogueRevision == Kernel.catalogueRevision &&
    request.provenance.valid hashes && identity.authorizationCommandID.valid &&
    identity.authorizationKey != "" && identity.dispatchCommandID.valid &&
    identity.correlationID.valid && identity.dispatchKey != "" &&
    (!decision.needsReadiness ||
      (identity.readinessCommandID.valid && identity.readinessKey != "")) &&
    identity.readinessCommandID != identity.authorizationCommandID &&
    identity.readinessCommandID != identity.dispatchCommandID &&
    identity.authorizationCommandID != identity.dispatchCommandID

end AssignmentCoordinationRequest

/-- A command with its receipt and, when it was applied, the parents of the next command.  An
answer that ends the coordination carries its error, if it is one. -/
def sendAssignment (provenance : ProvenanceBasis) (command : KernelCommand) :
    Assigning (CommandReceipt × Except (Option AssignmentError) (List DagParent)) := do
  match ← handle (fun call => Program.request (AssignmentCall.handle call)) command provenance with
  | .error error => return (.zero, .error (some (.handler error)))
  | .ok receipt =>
    if receipt.outcomeCode != .applied then return (receipt, .error none)
    else
      match receipt.eventIDs with
      | [eventID] => return (receipt, .ok [⟨eventID, .causal⟩])
      | _ => return (receipt, .error (some .invalid))

namespace AssignmentCoordinationRequest

variable (text : List UUIDv7 → Nat → String) (request : AssignmentCoordinationRequest)

def assign (result : AssignmentCoordinationResult) (revision : Nat) (parents : List DagParent) :
    Assigning (AssignmentCoordinationResult × Option AssignmentError) := do
  let decision := result.decision
  match decision.actorFQN, decision.execution, decision.qualification with
  | some actor, some execution, some qualification =>
    let (receipt, answer) ← sendAssignment request.provenance
      (request.authorizationCommand decision revision parents actor execution qualification)
    let result := { result with authorizationReceipt := some receipt }
    match answer with
    | .error error => return (result, error)
    | .ok parents =>
      let (receipt, answer) ← sendAssignment request.provenance
        (request.dispatchCommand (revision + 1) parents actor)
      let result := { result with dispatchReceipt := some receipt }
      match answer with
      | .error error => return (result, error)
      | .ok _ => return (result, none)
  | _, _, _ => return (result, some .invalid)

def carryOut (decision : AssignmentDecision) :
    Assigning (AssignmentCoordinationResult × Option AssignmentError) := do
  if decision.needsReadiness then
    let (receipt, answer) ← sendAssignment request.provenance
      (request.readinessCommand text decision)
    let result : AssignmentCoordinationResult := { decision, readinessReceipt := some receipt }
    match answer with
    | .error error => return (result, error)
    | .ok parents => request.assign result (decision.task.revision + 1) parents
  else request.assign { decision } decision.task.revision decision.readinessParents

def coordinate (hashes : Hashes) :
    Assigning (AssignmentCoordinationResult × Option AssignmentError) := do
  let decision := planAssignment request.input
  if decision.status != .ready then return ({ decision }, none)
  else if !request.valid hashes decision then return ({ decision }, some .invalid)
  else
    match ← Program.request (AssignmentCall.admission .dispatch request.powerEpoch) with
    | .error error => return ({ decision }, some (.admission error))
    | .ok admission =>
      if !admission.accepted then return ({ decision }, some (.denied admission.reason))
      else request.carryOut text decision

end AssignmentCoordinationRequest

end Tekroo.Application
