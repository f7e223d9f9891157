import Tekroo.Kernel.Continuity
import Tekroo.Kernel.Interaction
import Tekroo.Kernel.WorkInvocation

namespace Tekroo.Kernel

/-! # Payloads

The catalogue checks a payload against its schema before the kernel decodes it, so a payload is
modeled as the record its schema describes, cut down to the fields that are read.
-/

/-- An integer as a payload writes it. A schema takes `2.0` for one, but only digits alone are
decoded. -/
structure WrittenInteger where
  value : Nat
  digits : Bool := true

instance {value : Nat} : OfNat WrittenInteger value := ⟨{ value := value }⟩

def WrittenInteger.below (bound : Nat) (number : WrittenInteger) : Option Nat :=
  if number.digits && decide (number.value < bound) then some number.value else none

/-- `Int64` of a `json.Number`. -/
def WrittenInteger.int64 : WrittenInteger → Option Nat := below 9223372036854775808

/-- The decoding into a `uint64`. -/
def WrittenInteger.uint64 : WrittenInteger → Option Nat := below 18446744073709551616

structure ExecutionRegisterPayload where
  actorFQN : ActorFQN
  executionID : UUIDv7
  fencingEpoch : WrittenInteger

def ExecutionRegisterPayload.first (value : ExecutionRegisterPayload) : Option ExecutionTuple :=
  value.fencingEpoch.uint64.map (⟨value.executionID, ·⟩)

structure ExecutionReplacePayload where
  actorFQN : ActorFQN
  priorExecutionID : UUIDv7
  newExecutionID : UUIDv7
  newFencingEpoch : WrittenInteger

namespace ExecutionReplacePayload

/-- The tuple a replacement expects to find: the epochs of an actor advance by one. -/
def prior (value : ExecutionReplacePayload) : Option ExecutionTuple :=
  value.newFencingEpoch.int64.map (⟨value.priorExecutionID, · - 1⟩)

def next (value : ExecutionReplacePayload) : Option ExecutionTuple :=
  value.newFencingEpoch.uint64.map (⟨value.newExecutionID, ·⟩)

end ExecutionReplacePayload

structure OwnershipPayload where
  ownerFQN : ActorFQN
  version : Nat

structure ReassignmentPayload where
  priorOwnerFQN : ActorFQN
  newOwnerFQN : ActorFQN
  version : Nat

structure ApproveReleasePayload where
  storyID : UUIDv7
  lifecycleEpoch : Nat
  expectedStoryRevision : Nat
  author : PrincipalRef
  evidenceIDs : List UUIDv7

structure RequestCompletionPayload where
  lifecycleEpoch : Nat
  criteriaRevision : Nat
  completionReviewID : UUIDv7
  completionReviewRevision : Nat
  branchPolicyRevision : Nat
  validationFinalizedEventID : UUIDv7
  unresolvedExceptions : List String
  evidenceIDs : List UUIDv7

structure RequestAcceptancePayload where
  lifecycleEpoch : Nat
  releaseMode : ReleaseMode
  releasePlanID : UUIDv7
  releasePlanRevision : Nat
  releaseFinalizedEventID : UUIDv7
  qualifiedTreeDigest : String := ""
  evidenceIDs : List UUIDv7

structure ReopenPayload where
  priorEpoch : Nat
  newScopeRevision : Nat
  ownerCarryForward : Bool
  evidenceIDs : List UUIDv7

structure CorrectionPayload where
  targetEventID : UUIDv7
  evidenceIDs : List UUIDv7

inductive Payload where
  | executionRegister (value : ExecutionRegisterPayload)
  | executionReplace (value : ExecutionReplacePayload)
  | evidenceRegister (sha256 : Digest)
  | ownership (value : OwnershipPayload)
  | reassignment (value : ReassignmentPayload)
  | taskDispatch (destination : String)
  | workProfile (value : WorkRiskProfile)
  | qualifiedAssignment (value : QualifiedAssignmentAuthorization)
  | approveRelease (value : ApproveReleasePayload)
  | requestCompletion (value : RequestCompletionPayload)
  | requestAcceptance (value : RequestAcceptancePayload)
  | reopen (value : ReopenPayload)
  | createSuccessor (successorIDs : List UUIDv7)
  | correction (value : CorrectionPayload)
  | reviewOpen (value : CompletionReviewOpenPayload)
  | reviewResult (value : ReviewBranchResultPayload)
  | reviewFinalize (value : ReviewFinalizePayload)
  | escalationOpen (value : EscalationOpenPayload)
  | escalationResolve (value : EscalationResolvePayload)
  | releaseCreate (value : ReleasePlanCreatePayload)
  | releaseQualification (value : ReleaseQualificationPayload)
  | releaseAttempt (value : ReleaseAttemptPayload)
  | releaseResult (value : ReleaseResultPayload)
  | releaseFinalize (value : ReleaseFinalizePayload)
  | variantOpen (value : VariantGroupOpenPayload)
  | variantCandidate (value : VariantCandidatePayload)
  | variantComparison (value : VariantComparisonPayload)
  | variantSelection (value : VariantSelectionPayload)
  | workBudget (value : WorkBudgetPayload)
  | taskWorkBudget (value : TaskWorkBudgetPayload)
  | operationalScope (value : TaskOperationalScopePayload)
  | invocationAuthorization (value : InvocationAuthorizationPayload)
  | invocationClaim (value : InvocationClaimPayload)
  | invocationStart (value : InvocationStartPayload)
  | invocationTerminal (value : InvocationTerminalPayload)
  | invocationCancel (value : InvocationCancelPayload)
  | invocationExpire (value : InvocationExpirePayload)
  | operatorRole (value : OperatorRolePayload)
  | participant (value : HumanParticipantPayload)
  | participantRevoke (value : HumanParticipantRevokePayload)
  | interactionOpen (value : HumanInteractionOpenPayload)
  | interactionDelivery (value : HumanDeliveryPayload)
  | interactionResponse (value : HumanResponsePayload)
  | interactionClose (value : HumanInteractionClosePayload)
  | interactionExpire (value : HumanInteractionExpirePayload)
  | continuityConfigure (value : ConfigureContinuityPayload)
  | quiescence (value : QuiescencePayload)
  | suspended (value : SuspendedPayload)
  | reconciliationStart (value : ReconciliationStartPayload)
  | unexpectedOutage (value : UnexpectedOutagePayload)
  | resume (value : ResumePayload)
  /-- A payload of which the kernel reads no field. -/
  | unread (content : String)
  /-- Bytes that are not one JSON object. -/
  | malformed (bytes : String)

namespace Payload

def isEmpty : Payload → Bool
  | .malformed "" => true
  | _ => false

def isMalformed : Payload → Bool
  | .malformed _ => true
  | _ => false

/-- The top-level `lifecycle_epoch`, of the payloads of commands on stories and tasks. -/
def lifecycleEpoch : Payload → Option Nat
  | .approveRelease value | .requestCompletion value | .requestAcceptance value
  | .operationalScope value | .taskWorkBudget value
  | .workProfile value => some value.lifecycleEpoch
  | _ => none

/-- The top-level `evidence_ids`. -/
def evidenceIDs : Payload → Option (List UUIDv7)
  | .qualifiedAssignment value | .approveRelease value | .requestCompletion value
  | .requestAcceptance value | .reopen value | .correction value | .reviewResult value
  | .reviewFinalize value | .escalationOpen value | .escalationResolve value | .releaseCreate value
  | .releaseQualification value | .releaseAttempt value | .releaseResult value
  | .releaseFinalize value | .variantOpen value | .variantCandidate value => some value.evidenceIDs
  | .variantComparison value => some value.comparison.evidenceIDs
  | .variantSelection value => some value.selection.evidenceIDs
  | .workBudget value | .taskWorkBudget value | .invocationTerminal value | .operatorRole value
  | .participant value | .participantRevoke value | .interactionOpen value
  | .interactionDelivery value | .interactionResponse value | .interactionClose value
  | .interactionExpire value | .continuityConfigure value | .quiescence value | .suspended value
  | .reconciliationStart value | .unexpectedOutage value | .resume value => some value.evidenceIDs
  | _ => none

end Payload

end Tekroo.Kernel
