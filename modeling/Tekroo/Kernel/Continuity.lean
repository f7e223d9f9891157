import Tekroo.Kernel.State

namespace Tekroo.Kernel

/-! # Team continuity transitions

Each transition takes the payload of its event; the caller has checked that the event is the
team's next one and advances the revision.
-/

inductive SuspensionDisposition where
  | cancelOnSuspend | completeQuarantined | detachAndReconcile
  | other (text : String)

inductive SuspensionOutcome where
  | cancelled | terminalCaptured | detached | unknown
  | other (text : String)
deriving DecidableEq

structure SuspensionExecutionRecord where
  executionID : UUIDv7
  actorFQN : ActorFQN
  executionFencingEpoch : Nat
  providerProfileDigest : Digest
  disposition : SuspensionDisposition
  outcome : SuspensionOutcome
  resultEvidenceID : Option UUIDv7
  evidenceIDs : List UUIDv7

def SuspensionExecutionRecord.valid (record : SuspensionExecutionRecord) : Bool :=
  record.executionID.valid && record.actorFQN.valid &&
    decide (0 < record.executionFencingEpoch) && record.providerProfileDigest.valid &&
    validUniqueUUIDs record.evidenceIDs 1 64 && record.resultEvidenceID.all UUIDv7.valid &&
    match record.disposition with
    | .cancelOnSuspend => record.outcome == .cancelled || record.outcome == .unknown
    | .completeQuarantined => record.outcome == .terminalCaptured || record.outcome == .unknown
    | .detachAndReconcile => record.outcome == .detached || record.outcome == .unknown
    | .other _ => false

inductive ReconciliationOutcome where
  | blocked | cancelled | humanRequired | rejectedLate | superseded | evidenceCaptured
  | other (text : String)

structure ExecutionReconciliationRecord where
  executionID : UUIDv7
  outcome : ReconciliationOutcome
  authoritativeStateDigest : Digest
  evidenceIDs : List UUIDv7

def ExecutionReconciliationRecord.valid (record : ExecutionReconciliationRecord) : Bool :=
  record.executionID.valid && record.authoritativeStateDigest.valid &&
    validUniqueUUIDs record.evidenceIDs 1 64 &&
    match record.outcome with
    | .other _ => false
    | _ => true

inductive QuiescenceReason where
  | hostMaintenance | lidClose | operatorRequest | powerEvent | energyPolicy
  | other (text : String)

def validQuiescenceReason : QuiescenceReason → Bool
  | .other _ => false
  | _ => true

inductive ReconciliationTrigger where
  | hostRecovery | operatorRequest | wake
  | other (text : String)

def validReconciliationTrigger : ReconciliationTrigger → Bool
  | .other _ => false
  | _ => true

inductive OutageKind where
  | hostSleep | hostRestart | networkPartition | processLoss | unknown
  | other (text : String)

def validOutageKind : OutageKind → Bool
  | .other _ => false
  | _ => true

structure ConfigureContinuityPayload where
  expectedSystemRevision : Nat
  initialPowerEpoch : UInt64
  operatingPosture : OperatingPosture
  continuityPolicyRevision : Nat
  continuityPolicyDigest : Digest
  healthRequirementDigest : Digest
  configuredBy : PrincipalRef
  evidenceIDs : List UUIDv7

structure QuiescencePayload where
  expectedSystemRevision : Nat
  expectedPowerEpoch : UInt64
  nextPowerEpoch : UInt64
  inFlightExecutionIDs : List UUIDv7
  reason : QuiescenceReason
  requestedBy : PrincipalRef
  deadlineAt : Time
  dispositionPlanDigest : Digest
  evidenceIDs : List UUIDv7

structure SuspendedPayload where
  expectedSystemRevision : Nat
  expectedPowerEpoch : UInt64
  allRecorded : Bool
  quiescenceRequestEventID : UUIDv7
  executionRecords : List SuspensionExecutionRecord
  unresolvedExecutionIDs : List UUIDv7
  recordedBy : PrincipalRef
  evidenceIDs : List UUIDv7

structure ReconciliationStartPayload where
  expectedSystemRevision : Nat
  expectedPowerEpoch : UInt64
  unresolvedExecutionIDs : List UUIDv7
  trigger : ReconciliationTrigger
  providerSnapshotDigest : Digest
  initiatedBy : PrincipalRef
  evidenceIDs : List UUIDv7

structure UnexpectedOutagePayload where
  expectedSystemRevision : Nat
  observedPowerEpoch : UInt64
  nextPowerEpoch : UInt64
  previousControlState : ContinuityControlState
  knownInFlightExecutionIDs : List UUIDv7
  detectedAt : Time
  outageKind : OutageKind
  lastDurableEventID : Option UUIDv7
  detectedBy : PrincipalRef
  evidenceIDs : List UUIDv7

structure ResumePayload where
  expectedSystemRevision : Nat
  expectedPowerEpoch : UInt64
  reconciliationRecords : List ExecutionReconciliationRecord
  requiredServicesHealthy : Bool
  outboxReconciled : Bool
  changeStreamReconciled : Bool
  admissionReopen : Bool
  resumedBy : PrincipalRef
  evidenceIDs : List UUIDv7

/-- `TeamContinuityFromConfigurePayload` -/
def ConfigureContinuityPayload.continuity (value : ConfigureContinuityPayload)
    (eventID : UUIDv7) (revision : Nat) : Option TeamContinuitySnapshot :=
  let snapshot : TeamContinuitySnapshot := {
    revision
    operatingPosture := value.operatingPosture
    controlState := .active
    powerEpoch := value.initialPowerEpoch
    admissionOpen := true
    continuityPolicyRevision := value.continuityPolicyRevision
    continuityPolicyDigest := value.continuityPolicyDigest
    healthRequirementDigest := value.healthRequirementDigest
    lastTransitionEventID := eventID }
  if value.expectedSystemRevision + 1 == revision && snapshot.valid then some snapshot else none

namespace TeamContinuitySnapshot

variable (snapshot : TeamContinuitySnapshot)

def requestQuiescence (value : QuiescencePayload) : Option TeamContinuitySnapshot :=
  if snapshot.controlState == .active && value.expectedSystemRevision == snapshot.revision &&
      value.expectedPowerEpoch == snapshot.powerEpoch &&
      value.nextPowerEpoch == snapshot.powerEpoch + 1 &&
      validUniqueUUIDs value.inFlightExecutionIDs 0 1024 &&
      validQuiescenceReason value.reason && value.requestedBy.valid &&
      !value.deadlineAt.isZero && value.dispositionPlanDigest.valid &&
      validUniqueUUIDs value.evidenceIDs 1 64 then
    some { snapshot with
      controlState := .quiescing
      powerEpoch := value.nextPowerEpoch
      admissionOpen := false
      inFlightExecutionIDs := canonicalUUIDs value.inFlightExecutionIDs
      unresolvedExecutionIDs := [] }
  else none

def recordSuspended (value : SuspendedPayload) : Option TeamContinuitySnapshot :=
  let unresolved := value.executionRecords.filter fun record =>
    record.outcome == .detached || record.outcome == .unknown
  if snapshot.controlState == .quiescing && value.expectedSystemRevision == snapshot.revision &&
      value.expectedPowerEpoch == snapshot.powerEpoch &&
      value.quiescenceRequestEventID == snapshot.lastTransitionEventID && value.allRecorded &&
      validUniqueUUIDs value.unresolvedExecutionIDs 0 1024 && value.recordedBy.valid &&
      validUniqueUUIDs value.evidenceIDs 1 64 &&
      value.executionRecords.all SuspensionExecutionRecord.valid &&
      sameUUIDSet (value.executionRecords.map (·.executionID)) snapshot.inFlightExecutionIDs &&
      sameUUIDSet value.unresolvedExecutionIDs (unresolved.map (·.executionID)) then
    some { snapshot with
      controlState := .suspended
      unresolvedExecutionIDs := canonicalUUIDs value.unresolvedExecutionIDs }
  else none

def beginReconciliation (value : ReconciliationStartPayload) : Option TeamContinuitySnapshot :=
  if snapshot.controlState == .suspended && value.expectedSystemRevision == snapshot.revision &&
      value.expectedPowerEpoch == snapshot.powerEpoch &&
      sameUUIDSet value.unresolvedExecutionIDs snapshot.unresolvedExecutionIDs &&
      validReconciliationTrigger value.trigger && value.providerSnapshotDigest.valid &&
      value.initiatedBy.valid && validUniqueUUIDs value.evidenceIDs 1 64 then
    some { snapshot with controlState := .reconciling }
  else none

/-- An outage may be found in any control state; it always ends in reconciliation. -/
def recordUnexpectedOutage (value : UnexpectedOutagePayload) : Option TeamContinuitySnapshot :=
  if value.expectedSystemRevision == snapshot.revision &&
      value.observedPowerEpoch == snapshot.powerEpoch &&
      value.nextPowerEpoch == snapshot.powerEpoch + 1 &&
      value.previousControlState == snapshot.controlState &&
      validUniqueUUIDs value.knownInFlightExecutionIDs 0 1024 && !value.detectedAt.isZero &&
      validOutageKind value.outageKind && value.lastDurableEventID.all UUIDv7.valid &&
      value.detectedBy.valid && validUniqueUUIDs value.evidenceIDs 1 64 then
    some { snapshot with
      controlState := .reconciling
      powerEpoch := value.nextPowerEpoch
      admissionOpen := false
      inFlightExecutionIDs := canonicalUUIDs value.knownInFlightExecutionIDs
      unresolvedExecutionIDs := canonicalUUIDs value.knownInFlightExecutionIDs }
  else none

def resume (value : ResumePayload) : Option TeamContinuitySnapshot :=
  if snapshot.controlState == .reconciling &&
      value.expectedSystemRevision == snapshot.revision &&
      value.expectedPowerEpoch == snapshot.powerEpoch && value.requiredServicesHealthy &&
      value.outboxReconciled && value.changeStreamReconciled && value.admissionReopen &&
      value.resumedBy.valid && validUniqueUUIDs value.evidenceIDs 1 64 &&
      value.reconciliationRecords.all ExecutionReconciliationRecord.valid &&
      sameUUIDSet (value.reconciliationRecords.map (·.executionID))
        snapshot.unresolvedExecutionIDs then
    some { snapshot with
      controlState := .active
      admissionOpen := true
      inFlightExecutionIDs := []
      unresolvedExecutionIDs := [] }
  else none

end TeamContinuitySnapshot

inductive ContinuityAction where
  | dispatch | acceptResult
  | other (text : String)
deriving DecidableEq

structure PolicyResult where
  accepted : Bool := false
  reason : String
deriving DecidableEq

def evaluateContinuityAdmission (snapshot : TeamContinuitySnapshot) (action : ContinuityAction)
    (powerEpoch : UInt64) : PolicyResult :=
  if powerEpoch != snapshot.powerEpoch then
    if action == .acceptResult then { reason := "LATE_RESULT_QUARANTINED" }
    else { reason := "STALE_POWER_EPOCH" }
  else if !snapshot.admissionOpen then { reason := "ADMISSION_CLOSED" }
  else { accepted := true, reason := "ACCEPTED" }

end Tekroo.Kernel
