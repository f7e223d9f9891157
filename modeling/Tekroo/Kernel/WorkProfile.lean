import Tekroo.Kernel.State

namespace Tekroo.Kernel

/-! # Work profiles, qualified assignments and verification topology -/

inductive DecisionRoute where
  | deterministic | boundedExecution | complexReasoning | novelReasoning | humanRequired
  | other (text : String)
deriving DecidableEq

namespace DecisionRoute

/-- `routeRank` -/
def rank : DecisionRoute → Option Nat
  | .deterministic => some 0
  | .boundedExecution => some 1
  | .complexReasoning => some 2
  | .novelReasoning => some 3
  | .humanRequired => some 4
  | .other _ => none

def valid (route : DecisionRoute) : Bool := route.rank.isSome

def modelExecutable : DecisionRoute → Bool
  | .boundedExecution | .complexReasoning | .novelReasoning => true
  | _ => false

def satisfies (route required : DecisionRoute) : Bool :=
  match route.rank, required.rank with
  | some selectedRank, some requiredRank => decide (requiredRank ≤ selectedRank)
  | _, _ => false

end DecisionRoute

inductive WorkKind where
  | investigation | design | implementation | debugging | validation | securityReview | release
  | other (text : String)
deriving DecidableEq

inductive Ambiguity where
  | low | medium | high | unknown
  | other (text : String)
deriving DecidableEq

inductive Novelty where
  | routine | unfamiliar | novel | unknown
  | other (text : String)
deriving DecidableEq

inductive BlastRadius where
  | «local» | multiComponent | architectural | externalEffect | unknown
  | other (text : String)
deriving DecidableEq

inductive SecuritySensitivity where
  | ordinary | sensitive | critical | unknown
  | other (text : String)
deriving DecidableEq

inductive IndependenceDimension where
  | principal | actor | execution | context | workspace | modelProfile | provider | method | human
  | other (text : String)
deriving DecidableEq

def WorkKind.valid : WorkKind → Bool
  | .other _ => false
  | _ => true

def Ambiguity.valid : Ambiguity → Bool
  | .other _ => false
  | _ => true

def Novelty.valid : Novelty → Bool
  | .other _ => false
  | _ => true

def BlastRadius.valid : BlastRadius → Bool
  | .other _ => false
  | _ => true

def SecuritySensitivity.valid : SecuritySensitivity → Bool
  | .other _ => false
  | _ => true

def IndependenceDimension.valid : IndependenceDimension → Bool
  | .other _ => false
  | _ => true

def validUniqueDimensions (values : List IndependenceDimension) : Bool :=
  decide (1 ≤ values.length) && decide (values.length ≤ 9) &&
    values.all IndependenceDimension.valid && decide values.Nodup

structure WorkProfileBinding where
  profileID : UUIDv7
  profileRevision : Nat
  profileDigest : Digest
  lifecycleEpoch : Nat
  scopeRevision : Nat
deriving DecidableEq

namespace WorkProfileBinding

def valid (binding : WorkProfileBinding) : Bool :=
  binding.profileID.valid && decide (0 < binding.profileRevision) &&
    binding.profileDigest.valid && decide (0 < binding.lifecycleEpoch) &&
    decide (0 < binding.scopeRevision)

def taskBindingMatches (binding : WorkProfileBinding) (task : AggregateState) : Bool :=
  binding.valid && task.kind == .task && task.id.valid &&
    binding.lifecycleEpoch == task.lifecycleEpoch && binding.scopeRevision == task.scopeRevision

end WorkProfileBinding

structure FiniteWorkBudgets where
  attemptLimit : Nat
  reviewRoundLimit : Nat
  promotionLimit : Nat
  escalationLimit : Nat
  deadlineAt : Time
deriving DecidableEq

def FiniteWorkBudgets.valid (budgets : FiniteWorkBudgets) : Bool :=
  decide (0 < budgets.attemptLimit) && decide (budgets.attemptLimit ≤ 1000) &&
    decide (0 < budgets.reviewRoundLimit) && decide (budgets.reviewRoundLimit ≤ 1000) &&
    decide (budgets.promotionLimit ≤ 1000) && decide (0 < budgets.escalationLimit) &&
    decide (budgets.escalationLimit ≤ 1000) && !budgets.deadlineAt.isZero

structure WorkRiskProfile where
  taskID : UUIDv7
  profileID : UUIDv7
  profileRevision : Nat
  profileDigest : Digest
  lifecycleEpoch : Nat
  scopeRevision : Nat
  workKind : WorkKind
  ambiguity : Ambiguity
  novelty : Novelty
  blastRadius : BlastRadius
  securitySensitivity : SecuritySensitivity
  minimumDecisionRoute : DecisionRoute
  acceptanceCriteriaDigest : Digest
  requiredDeterministicGateIDs : List String
  requiredValidationBranches : Nat
  requiredIndependenceDimensions : List IndependenceDimension
  implementationVariantCount : Nat
  validCandidateQuorum : Nat
  verificationTopologyDigest : Digest
  classificationPolicyRevision : Nat
  classificationPolicyDigest : Digest
  promotionPolicyRevision : Nat
  promotionPolicyDigest : Digest
  budgets : FiniteWorkBudgets
  classificationAuthority : PrincipalRef
  classificationEvidenceIDs : List UUIDv7
  supersedesProfileID : Option UUIDv7
deriving DecidableEq

namespace WorkRiskProfile

def binding (profile : WorkRiskProfile) : WorkProfileBinding where
  profileID := profile.profileID
  profileRevision := profile.profileRevision
  profileDigest := profile.profileDigest
  lifecycleEpoch := profile.lifecycleEpoch
  scopeRevision := profile.scopeRevision

def valid (profile : WorkRiskProfile) : Bool :=
  profile.taskID.valid && profile.binding.valid && profile.workKind.valid &&
    profile.ambiguity.valid && profile.novelty.valid && profile.blastRadius.valid &&
    profile.securitySensitivity.valid && profile.minimumDecisionRoute.valid &&
    profile.acceptanceCriteriaDigest.valid && profile.verificationTopologyDigest.valid &&
    decide (0 < profile.requiredValidationBranches) &&
    decide (profile.requiredValidationBranches ≤ 32) &&
    decide (0 < profile.implementationVariantCount) &&
    decide (profile.implementationVariantCount ≤ 32) &&
    decide (0 < profile.validCandidateQuorum) &&
    decide (profile.validCandidateQuorum ≤ profile.implementationVariantCount) &&
    decide (0 < profile.classificationPolicyRevision) &&
    profile.classificationPolicyDigest.valid &&
    decide (0 < profile.promotionPolicyRevision) && profile.promotionPolicyDigest.valid &&
    profile.budgets.valid && profile.classificationAuthority.valid &&
    profile.supersedesProfileID.all UUIDv7.valid &&
    validUniqueStrings profile.requiredDeterministicGateIDs 1 64 &&
    validUniqueDimensions profile.requiredIndependenceDimensions &&
    validUniqueUUIDs profile.classificationEvidenceIDs 1 64

theorem binding_of_valid {profile : WorkRiskProfile} (formed : profile.valid = true) :
    profile.binding.valid = true := by
  simp only [valid, tests_iff] at formed
  simp [formed]

end WorkRiskProfile

structure WorkProfileSnapshot where
  profile : WorkRiskProfile
  boundEventID : UUIDv7
  taskRevision : Nat
deriving DecidableEq

def WorkProfileSnapshot.valid (snapshot : WorkProfileSnapshot) : Bool :=
  snapshot.profile.valid && snapshot.boundEventID.valid && decide (0 < snapshot.taskRevision)

/-- `PlanWorkProfileBinding`: `none` when the profile is ready to bind, otherwise the
reason why it is not. -/
def planWorkProfileBinding (task : AggregateState) (profile : WorkRiskProfile)
    (current : Option WorkProfileSnapshot) : Option String :=
  if task.kind != .task || !task.id.valid || task.revision == 0 || task.lifecycleEpoch == 0 ||
      task.scopeRevision == 0 || !profile.valid || profile.taskID != task.id then
    some "INVALID_WORK_PROFILE"
  else if profile.lifecycleEpoch != task.lifecycleEpoch ||
      profile.scopeRevision != task.scopeRevision then
    some "STALE_WORK_PROFILE"
  else
    match current with
    | none =>
      if profile.profileRevision != 1 || profile.supersedesProfileID.isSome then
        some "PROFILE_REVISION_CONFLICT"
      else none
    | some bound =>
      if !bound.valid || bound.profile.taskID != task.id ||
          profile.profileRevision != bound.profile.profileRevision + 1 ||
          profile.supersedesProfileID != some bound.profile.profileID ||
          profile.profileDigest == bound.profile.profileDigest then
        some "PROFILE_REVISION_CONFLICT"
      else none

theorem planWorkProfileBinding_none {task : AggregateState} {profile : WorkRiskProfile}
    {current : Option WorkProfileSnapshot}
    (ready : planWorkProfileBinding task profile current = none) : profile.taskID = task.id := by
  unfold planWorkProfileBinding at ready
  split at ready
  · cases ready
  · next fits =>
    simp only [tests_iff, not_or, ne_eq, not_not] at fits
    exact fits.2

inductive QualificationStatus where
  | pass | fail | notRun | inconclusive
  | other (text : String)
deriving DecidableEq

inductive ConstraintOutcome where
  | pass | fail | notReported
  | other (text : String)
deriving DecidableEq

structure HardConstraintResult where
  constraintID : String
  outcome : ConstraintOutcome
  evidenceIDs : List UUIDv7
deriving DecidableEq

def HardConstraintResult.valid (result : HardConstraintResult) : Bool :=
  result.constraintID != "" && decide (result.constraintID.utf8ByteSize ≤ 256) &&
    validUniqueUUIDs result.evidenceIDs 1 64 &&
    match result.outcome with
    | .other _ => false
    | _ => true

structure AssignmentQualificationReceipt where
  qualificationID : UUIDv7
  qualificationDigest : Digest
  qualificationCorpusDigest : Digest
  modelProfileDigest : Digest
  decisionRoute : DecisionRoute
  qualifiedRole : String
  status : QualificationStatus
  observedAt : Time

def AssignmentQualificationReceipt.valid (receipt : AssignmentQualificationReceipt) : Bool :=
  receipt.qualificationID.valid && receipt.qualificationDigest.valid &&
    receipt.qualificationCorpusDigest.valid && receipt.modelProfileDigest.valid &&
    receipt.decisionRoute.modelExecutable && receipt.qualifiedRole != "" &&
    decide (receipt.qualifiedRole.utf8ByteSize ≤ 256) && receipt.status == .pass &&
    !receipt.observedAt.isZero

structure QualifiedAssignmentAuthorization where
  assignmentID : UUIDv7
  taskID : UUIDv7
  expectedTaskRevision : Nat
  workProfile : WorkProfileBinding
  requiredDecisionRoute : DecisionRoute
  selectedDecisionRoute : DecisionRoute
  selectedActorFQN : ActorFQN
  selectedExecutionID : UUIDv7
  selectedFencingEpoch : Nat
  modelProfileDigest : Digest
  runtimeIdentityDigest : Digest
  qualification : AssignmentQualificationReceipt
  selectionPolicyRevision : Nat
  selectionPolicyDigest : Digest
  hardConstraintResults : List HardConstraintResult
  selectionReasons : List String
  evidenceIDs : List UUIDv7
  authorizationEventID : UUIDv7

namespace QualifiedAssignmentAuthorization

variable (authorization : QualifiedAssignmentAuthorization)

def selectedExecution : ExecutionTuple where
  executionID := authorization.selectedExecutionID
  fencingEpoch := authorization.selectedFencingEpoch

def valid : Bool :=
  authorization.assignmentID.valid && authorization.taskID.valid &&
    decide (0 < authorization.expectedTaskRevision) && authorization.workProfile.valid &&
    authorization.requiredDecisionRoute.modelExecutable &&
    authorization.selectedDecisionRoute.satisfies authorization.requiredDecisionRoute &&
    authorization.selectedActorFQN.valid && authorization.selectedExecution.valid &&
    authorization.modelProfileDigest.valid && authorization.runtimeIdentityDigest.valid &&
    authorization.qualification.valid &&
    authorization.qualification.modelProfileDigest == authorization.modelProfileDigest &&
    authorization.qualification.decisionRoute == authorization.selectedDecisionRoute &&
    decide (0 < authorization.selectionPolicyRevision) &&
    authorization.selectionPolicyDigest.valid &&
    validUniqueStrings authorization.selectionReasons 1 64 &&
    validUniqueUUIDs authorization.evidenceIDs 1 64 &&
    decide (1 ≤ authorization.hardConstraintResults.length) &&
    decide (authorization.hardConstraintResults.length ≤ 64) &&
    authorization.authorizationEventID.valid &&
    authorization.hardConstraintResults.all (fun result =>
      result.valid && result.outcome == .pass &&
      result.evidenceIDs.all authorization.evidenceIDs.contains) &&
    decide (authorization.hardConstraintResults.map (·.constraintID)).Nodup

end QualifiedAssignmentAuthorization

structure WorkExecutionIdentity where
  principal : PrincipalRef
  actorFQN : ActorFQN
  executionID : UUIDv7
  fencingEpoch : Nat
  modelProfileDigest : Digest
  workspaceDigest : Digest
  contextDigest : Digest

namespace WorkExecutionIdentity

def valid (identity : WorkExecutionIdentity) : Bool :=
  identity.principal.valid && identity.actorFQN.valid && identity.executionID.valid &&
    decide (0 < identity.fencingEpoch) && identity.modelProfileDigest.valid &&
    identity.workspaceDigest.valid && identity.contextDigest.valid

def execution (identity : WorkExecutionIdentity) : ExecutionTuple where
  executionID := identity.executionID
  fencingEpoch := identity.fencingEpoch

end WorkExecutionIdentity

structure IndependenceReceipt where
  provenDimensions : List IndependenceDimension
  identityComparisonDigest : Digest
  methodIDs : List String
  evidenceIDs : List UUIDv7

namespace IndependenceReceipt

def valid (receipt : IndependenceReceipt) : Bool :=
  validUniqueDimensions receipt.provenDimensions && receipt.identityComparisonDigest.valid &&
    validUniqueStrings receipt.methodIDs 1 64 && validUniqueUUIDs receipt.evidenceIDs 1 64

def proves (receipt : IndependenceReceipt) (required : List IndependenceDimension)
    (methods : List String) : Bool :=
  receipt.valid && required.all receipt.provenDimensions.contains &&
    methods.all receipt.methodIDs.contains

end IndependenceReceipt

def requiredSeparationProven (implementer : WorkExecutionIdentity)
    (validatorPrincipal : PrincipalRef) (validatorActor : Option ActorFQN)
    (validatorExecution : Option ExecutionTuple) (required : List IndependenceDimension)
    (receipt : IndependenceReceipt) : Bool :=
  implementer.valid && validatorPrincipal.valid && receipt.proves required [] &&
    required.all fun
      | .principal => validatorPrincipal != implementer.principal
      | .actor => validatorActor.any fun actor =>
        actor.valid && actor != implementer.actorFQN
      | .execution => validatorExecution.any fun execution =>
        execution.valid && execution != implementer.execution
      | _ => true

end Tekroo.Kernel
