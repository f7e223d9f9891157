import Tekroo.Kernel.Escalation

namespace Tekroo.Kernel

/-! # Variant groups

Competing candidates for one task, their comparison and the selection among them.
-/

inductive VariantState where
  | «open» | compared | terminal
  | other (text : String)
deriving DecidableEq

inductive VariantClassification where
  | materialAgreement | nonMaterialVariation | materialDisagreement | insufficientCandidates
  | inconclusive
  | other (text : String)
deriving DecidableEq

def VariantClassification.valid : VariantClassification → Bool
  | .other _ => false
  | _ => true

inductive VariantSelectionOutcome where
  | selectCandidate | rejectAll | redesign | split | humanRequired | escalate
  | other (text : String)
deriving DecidableEq

def VariantSelectionOutcome.valid : VariantSelectionOutcome → Bool
  | .other _ => false
  | _ => true

structure VariantGroupKey where
  taskID : UUIDv7
  lifecycleEpoch : Nat
  scopeRevision : Nat
  workProfileDigest : Digest
deriving DecidableEq

def VariantGroupKey.valid (key : VariantGroupKey) : Bool :=
  key.taskID.valid && decide (0 < key.lifecycleEpoch) && decide (0 < key.scopeRevision) &&
    key.workProfileDigest.valid

structure VariantCandidate where
  candidateID : UUIDv7
  actorFQN : ActorFQN
  execution : ExecutionTuple
  modelProfileDigest : Digest
  runtimeIdentityDigest : Digest
  contextDigest : Digest
  workspaceDigest : Digest
  artifactDigest : Digest
  changedFileInventoryDigest : Digest
  deterministicGateReceiptIDs : List UUIDv7
  assumptions : List String
  unresolvedExceptions : List String
  evidenceIDs : List UUIDv7
  submissionEventID : UUIDv7

def VariantCandidate.valid (candidate : VariantCandidate) : Bool :=
  candidate.candidateID.valid && candidate.actorFQN.valid && candidate.execution.valid &&
    candidate.modelProfileDigest.valid && candidate.runtimeIdentityDigest.valid &&
    candidate.contextDigest.valid && candidate.workspaceDigest.valid &&
    candidate.artifactDigest.valid && candidate.changedFileInventoryDigest.valid &&
    validUniqueUUIDs candidate.deterministicGateReceiptIDs 1 64 &&
    validUniqueStrings candidate.assumptions 0 64 &&
    validUniqueStrings candidate.unresolvedExceptions 0 64 &&
    validUniqueUUIDs candidate.evidenceIDs 1 64 && candidate.submissionEventID.valid

structure VariantComparison where
  comparator : PrincipalRef
  comparatorExecutionID : UUIDv7
  candidateIDs : List UUIDv7
  classification : VariantClassification
  comparisonMethodID : String
  comparisonReceiptDigest : Digest
  reasons : List String
  evidenceIDs : List UUIDv7
  eventID : UUIDv7

def VariantComparison.valid (comparison : VariantComparison) : Bool :=
  comparison.comparator.valid && comparison.comparatorExecutionID.valid &&
    validUniqueUUIDs comparison.candidateIDs 2 32 && comparison.classification.valid &&
    comparison.comparisonMethodID != "" &&
    decide (comparison.comparisonMethodID.utf8ByteSize ≤ 256) &&
    comparison.comparisonReceiptDigest.valid && validUniqueStrings comparison.reasons 1 64 &&
    validUniqueUUIDs comparison.evidenceIDs 1 64 && comparison.eventID.valid

structure VariantSelection where
  comparisonEventID : UUIDv7
  adjudicator : PrincipalRef
  outcome : VariantSelectionOutcome
  selectedCandidateID : Option UUIDv7
  reasons : List String
  evidenceIDs : List UUIDv7
  eventID : UUIDv7

def VariantSelection.valid (selection : VariantSelection) : Bool :=
  selection.comparisonEventID.valid && selection.adjudicator.valid && selection.outcome.valid &&
    validUniqueStrings selection.reasons 1 64 && validUniqueUUIDs selection.evidenceIDs 1 64 &&
    selection.eventID.valid &&
    if selection.outcome == .selectCandidate then selection.selectedCandidateID.any UUIDv7.valid
    else selection.selectedCandidateID.isNone

structure VariantGroupOpenPayload where
  variantGroupID : UUIDv7
  taskID : UUIDv7
  workProfile : WorkProfileBinding
  baseArtifactDigest : Digest
  inputEvidenceSetDigest : Digest
  toolchainDigest : Digest
  dependencyLockDigest : Digest
  acceptanceManifestDigest : Digest
  candidateCount : Nat
  validCandidateQuorum : Nat
  requiredIndependenceDimensions : List IndependenceDimension
  comparisonMethodID : String
  comparisonPolicyDigest : Digest
  materialityPolicyDigest : Digest
  comparator : PrincipalRef
  adjudicator : PrincipalRef
  submissionDeadlineAt : Time
  decisionDeadlineAt : Time
  replacementBudget : Nat
  evidenceIDs : List UUIDv7

/-- A group keeps the payload that opened it as `policy`. -/
structure VariantGroupSnapshot where
  policy : VariantGroupOpenPayload
  revision : Nat
  state : VariantState
  candidates : Table UUIDv7 VariantCandidate
  comparison : Option VariantComparison
  selection : Option VariantSelection

def requiredVariantIsolation (values : List IndependenceDimension) : Bool :=
  [IndependenceDimension.actor, .execution, .context, .workspace].all values.contains

namespace VariantGroupSnapshot

variable (snapshot : VariantGroupSnapshot)

def key : VariantGroupKey :=
  ⟨snapshot.policy.taskID, snapshot.policy.workProfile.lifecycleEpoch,
    snapshot.policy.workProfile.scopeRevision, snapshot.policy.workProfile.profileDigest⟩

def capacity : Nat :=
  snapshot.policy.candidateCount + snapshot.policy.replacementBudget

def valid : Bool :=
  snapshot.policy.variantGroupID.valid && decide (0 < snapshot.revision) &&
    snapshot.key.valid && snapshot.policy.baseArtifactDigest.valid &&
    snapshot.policy.inputEvidenceSetDigest.valid && snapshot.policy.toolchainDigest.valid &&
    snapshot.policy.dependencyLockDigest.valid &&
    snapshot.policy.acceptanceManifestDigest.valid &&
    decide (2 ≤ snapshot.policy.candidateCount) &&
    decide (snapshot.policy.candidateCount ≤ 32) &&
    decide (2 ≤ snapshot.policy.validCandidateQuorum) &&
    decide (snapshot.policy.validCandidateQuorum ≤ snapshot.policy.candidateCount) &&
    validUniqueDimensions snapshot.policy.requiredIndependenceDimensions &&
    requiredVariantIsolation snapshot.policy.requiredIndependenceDimensions &&
    snapshot.policy.comparisonMethodID != "" &&
    decide (snapshot.policy.comparisonMethodID.utf8ByteSize ≤ 256) &&
    snapshot.policy.comparisonPolicyDigest.valid &&
    snapshot.policy.materialityPolicyDigest.valid && snapshot.policy.comparator.valid &&
    snapshot.policy.adjudicator.valid && !snapshot.policy.submissionDeadlineAt.isZero &&
    decide (snapshot.policy.submissionDeadlineAt < snapshot.policy.decisionDeadlineAt) &&
    decide (snapshot.policy.replacementBudget ≤ 32) &&
    validUniqueUUIDs snapshot.policy.evidenceIDs 1 64 &&
    decide (snapshot.candidates.keys.length ≤ snapshot.capacity) &&
    match snapshot.state with
    | .open => true
    | .compared => snapshot.comparison.isSome
    | .terminal => snapshot.comparison.isSome && snapshot.selection.isSome
    | .other _ => false

end VariantGroupSnapshot

/-- `VariantGroupFromOpenPayload` -/
def VariantGroupOpenPayload.snapshot (policy : VariantGroupOpenPayload) (eventID : UUIDv7) :
    Option VariantGroupSnapshot :=
  let snapshot : VariantGroupSnapshot := {
    policy
    revision := 1
    state := .open
    candidates := ∅
    comparison := none
    selection := none }
  if eventID.valid && snapshot.valid then some snapshot else none

theorem VariantGroupOpenPayload.snapshot_key {policy : VariantGroupOpenPayload}
    {eventID : UUIDv7} {group : VariantGroupSnapshot}
    (opened : policy.snapshot eventID = some group) :
    group.key = ⟨policy.taskID, policy.workProfile.lifecycleEpoch,
      policy.workProfile.scopeRevision, policy.workProfile.profileDigest⟩ := by
  simp only [VariantGroupOpenPayload.snapshot, tests_iff] at opened
  obtain ⟨_, rfl⟩ := opened
  rfl

structure VariantCandidatePayload where
  variantGroupID : UUIDv7
  expectedGroupRevision : Nat
  candidateID : UUIDv7
  actorFQN : ActorFQN
  executionID : UUIDv7
  fencingEpoch : Nat
  modelProfileDigest : Digest
  runtimeIdentityDigest : Digest
  contextDigest : Digest
  workspaceDigest : Digest
  artifactDigest : Digest
  changedFileInventoryDigest : Digest
  deterministicGateReceiptIDs : List UUIDv7
  assumptions : List String
  unresolvedExceptions : List String
  evidenceIDs : List UUIDv7

/-- `variantCandidateFromPayload` -/
def VariantCandidatePayload.candidate (value : VariantCandidatePayload) (eventID : UUIDv7) :
    Option VariantCandidate :=
  let candidate : VariantCandidate := {
    candidateID := value.candidateID
    actorFQN := value.actorFQN
    execution := ⟨value.executionID, value.fencingEpoch⟩
    modelProfileDigest := value.modelProfileDigest
    runtimeIdentityDigest := value.runtimeIdentityDigest
    contextDigest := value.contextDigest
    workspaceDigest := value.workspaceDigest
    artifactDigest := value.artifactDigest
    changedFileInventoryDigest := value.changedFileInventoryDigest
    deterministicGateReceiptIDs := value.deterministicGateReceiptIDs
    assumptions := value.assumptions
    unresolvedExceptions := value.unresolvedExceptions
    evidenceIDs := value.evidenceIDs
    submissionEventID := eventID }
  if candidate.valid then some candidate else none

/-- The payload of a comparison or a selection: the record without its event, and the group
and revision the command was made for. -/
structure VariantComparisonPayload where
  variantGroupID : UUIDv7
  expectedGroupRevision : Nat
  comparison : VariantComparison

structure VariantSelectionPayload where
  variantGroupID : UUIDv7
  expectedGroupRevision : Nat
  selection : VariantSelection

/-- `variantComparisonFromPayload` -/
def VariantComparisonPayload.recorded (value : VariantComparisonPayload) (eventID : UUIDv7) :
    Option VariantComparison :=
  let comparison := { value.comparison with
    eventID
    candidateIDs := canonicalUUIDs value.comparison.candidateIDs }
  if comparison.valid then some comparison else none

/-- `variantSelectionFromPayload` -/
def VariantSelectionPayload.recorded (value : VariantSelectionPayload) (eventID : UUIDv7) :
    Option VariantSelection :=
  let selection := { value.selection with eventID }
  if selection.valid then some selection else none

namespace VariantGroupSnapshot

variable (snapshot : VariantGroupSnapshot)

/-- `variantCandidateIndependent` -/
def candidateIndependent (candidate : VariantCandidate) : Bool :=
  decide (candidate.candidateID ∉ snapshot.candidates) &&
    snapshot.candidates.entries.all (fun prior =>
      prior.2.actorFQN != candidate.actorFQN && prior.2.execution != candidate.execution &&
        prior.2.contextDigest != candidate.contextDigest &&
        prior.2.workspaceDigest != candidate.workspaceDigest &&
        prior.2.artifactDigest != candidate.artifactDigest)

def submitCandidate (value : VariantCandidatePayload) (eventID : UUIDv7) (committedAt : Time) :
    Option VariantGroupSnapshot :=
  match value.candidate eventID with
  | none => none
  | some candidate =>
    if snapshot.state == .open &&
        decide (committedAt ≤ snapshot.policy.submissionDeadlineAt) &&
        decide (snapshot.candidates.keys.length < snapshot.capacity) &&
        snapshot.candidateIndependent candidate then
      some { snapshot with
        candidates := snapshot.candidates.insert candidate.candidateID candidate }
    else none

def exactCandidateSet (ids : List UUIDv7) : Bool :=
  ids.length == snapshot.candidates.keys.length &&
    ids.all (fun id => decide (id ∈ snapshot.candidates))

def recordComparison (value : VariantComparisonPayload) (eventID : UUIDv7) (committedAt : Time) :
    Option VariantGroupSnapshot :=
  match value.recorded eventID with
  | none => none
  | some comparison =>
    if snapshot.state == .open &&
        decide (snapshot.policy.validCandidateQuorum ≤ snapshot.candidates.keys.length) &&
        decide (committedAt ≤ snapshot.policy.decisionDeadlineAt) &&
        comparison.comparator == snapshot.policy.comparator &&
        comparison.comparisonMethodID == snapshot.policy.comparisonMethodID &&
        snapshot.exactCandidateSet comparison.candidateIDs then
      some { snapshot with comparison := some comparison, state := .compared }
    else none

def selectable (comparison : VariantComparison) (selection : VariantSelection) : Bool :=
  selection.outcome != .selectCandidate ||
    (comparison.classification != .materialDisagreement &&
      (selection.selectedCandidateID.bind snapshot.candidates.lookup).any (fun candidate =>
        !(snapshot.policy.comparator.kind == .actor &&
          snapshot.policy.comparator.id == candidate.actorFQN.text)))

def select (value : VariantSelectionPayload) (eventID : UUIDv7) (committedAt : Time) :
    Option VariantGroupSnapshot :=
  match value.recorded eventID, snapshot.comparison with
  | some selection, some comparison =>
    if snapshot.state == .compared && selection.comparisonEventID == comparison.eventID &&
        selection.adjudicator == snapshot.policy.adjudicator &&
        decide (committedAt ≤ snapshot.policy.decisionDeadlineAt) &&
        !(comparison.classification == .materialDisagreement &&
          selection.outcome != .escalate) &&
        snapshot.selectable comparison selection then
      some { snapshot with selection := some selection, state := .terminal }
    else none
  | _, _ => none

end VariantGroupSnapshot

end Tekroo.Kernel
