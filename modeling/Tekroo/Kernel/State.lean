import Tekroo.Kernel.People

namespace Tekroo.Kernel

/-! # Human interactions, team continuity and the aggregate state -/

inductive HumanInteractionPhase where
  | opened | collecting | satisfied | closed | expired
deriving DecidableEq

inductive HumanResponsePolicyKind where
  | exactOne | anyOne | all | quorum
  | other (text : String)
deriving DecidableEq

structure HumanResponsePolicy where
  kind : HumanResponsePolicyKind
  quorum : Nat
deriving DecidableEq

def HumanResponsePolicy.valid (policy : HumanResponsePolicy) (selected : Nat) : Bool :=
  match policy.kind with
  | .exactOne => selected == 1 && policy.quorum == 0
  | .anyOne | .all => decide (0 < selected) && policy.quorum == 0
  | .quorum => decide (0 < policy.quorum) && decide (policy.quorum ≤ selected)
  | .other _ => false

inductive HumanInteractionPurpose where
  | advisoryConsultation | authorizedDecision | evidentiaryQuestion
  | requirementsClarification | acceptanceFeedback
  | other (text : String)
deriving DecidableEq

/-- The texts of `declared_effect`, `asserted_effect` and `resolved_effect`. -/
inductive HumanInteractionEffect where
  | advisoryOnly | authorityIfAuthorized | evidenceOnly | authorizedEffect
  | other (text : String)
deriving DecidableEq

inductive DeliveryOutcome where
  | delivered | failed | unknown
  | other (text : String)
deriving DecidableEq

def validHumanInteractionPurpose : HumanInteractionPurpose → Bool
  | .other _ => false
  | _ => true

def validHumanInteractionEffect : HumanInteractionEffect → Bool
  | .advisoryOnly | .authorityIfAuthorized | .evidenceOnly => true
  | _ => false

def validDeliveryOutcome : DeliveryOutcome → Bool
  | .other _ => false
  | _ => true

structure HumanInteractionRecipient where
  principal : PrincipalRef
  participantProfileID : UUIDv7
  participantProfileRevision : Nat
  participantProfileDigest : Digest
  roleBindingID : UUIDv7
  deliveryBindingID : UUIDv7
deriving DecidableEq

structure HumanDeliveryRecord where
  deliveryID : UUIDv7
  eventID : UUIDv7
  recipient : PrincipalRef
  deliveryBindingID : UUIDv7
  outcome : DeliveryOutcome
deriving DecidableEq

structure HumanResponseRecord where
  eventID : UUIDv7
  respondent : PrincipalRef
  participantProfileID : UUIDv7
  participantProfileRevision : Nat
  roleBindingID : UUIDv7
  authenticationBindingID : UUIDv7
  deliveryID : UUIDv7
  responseArtifactDigest : Digest
  responseSpecificationDigest : Digest
deriving DecidableEq

structure HumanInteractionSnapshot where
  interactionID : UUIDv7
  revision : Nat
  phase : HumanInteractionPhase
  subject : AggregateRef
  subjectLifecycleEpoch : Nat
  expectedSubjectRevision : Nat
  questionRevision : Nat
  canonicalQuestionDigest : Digest
  responseSpecificationDigest : Digest
  originPrincipal : PrincipalRef
  originActorFQN : Option ActorFQN
  originExecution : Option ExecutionTuple
  recipients : List HumanInteractionRecipient
  responsePolicy : HumanResponsePolicy
  purpose : HumanInteractionPurpose
  declaredEffect : HumanInteractionEffect
  confidentiality : Confidentiality
  deadlineAt : Time
  timeoutPolicy : PrincipalRef
  disclosureScopeDigest : Digest
  interactionPolicyRevision : Nat
  interactionPolicyDigest : Digest
  predecessorInteractionID : Option UUIDv7
  deliveries : List HumanDeliveryRecord := []
  responses : List HumanResponseRecord := []
deriving DecidableEq

namespace HumanInteractionSnapshot

variable (snapshot : HumanInteractionSnapshot)

def selected (principal : PrincipalRef) : Option HumanInteractionRecipient :=
  if principal.kind == .human then
    snapshot.recipients.find? fun recipient => recipient.principal == principal
  else none

def responsePolicySatisfied : Bool :=
  let accepted := (snapshot.responses.map (·.respondent.id)).dedup.length
  match snapshot.responsePolicy.kind with
  | .exactOne => snapshot.recipients.length == 1 && accepted == 1
  | .anyOne => decide (1 ≤ accepted)
  | .all => accepted == snapshot.recipients.length
  | .quorum => decide (snapshot.responsePolicy.quorum ≤ accepted)
  | .other _ => false

def validRecipient (recipient : HumanInteractionRecipient) : Bool :=
  recipient.principal.kind == .human && recipient.principal.valid &&
    recipient.participantProfileID.valid &&
    decide (0 < recipient.participantProfileRevision) &&
    recipient.participantProfileDigest.valid && recipient.roleBindingID.valid &&
    recipient.deliveryBindingID.valid

def validDelivery (delivery : HumanDeliveryRecord) : Bool :=
  delivery.deliveryID.valid && delivery.eventID.valid &&
    (snapshot.selected delivery.recipient).any
      (fun recipient => recipient.deliveryBindingID == delivery.deliveryBindingID) &&
    validDeliveryOutcome delivery.outcome

def validResponse (response : HumanResponseRecord) : Bool :=
  response.eventID.valid &&
    (snapshot.selected response.respondent).any (fun recipient =>
      recipient.participantProfileID == response.participantProfileID &&
      recipient.participantProfileRevision == response.participantProfileRevision &&
      recipient.roleBindingID == response.roleBindingID) &&
    response.authenticationBindingID.valid && response.deliveryID.valid &&
    response.responseArtifactDigest.valid &&
    response.responseSpecificationDigest == snapshot.responseSpecificationDigest &&
    snapshot.deliveries.any (fun delivery =>
      delivery.deliveryID == response.deliveryID && delivery.recipient == response.respondent &&
      delivery.outcome == .delivered)

def valid (snapshot : HumanInteractionSnapshot) : Bool :=
  snapshot.interactionID.valid && decide (0 < snapshot.revision) && snapshot.subject.valid &&
    decide (0 < snapshot.subjectLifecycleEpoch) &&
    decide (0 < snapshot.expectedSubjectRevision) && decide (0 < snapshot.questionRevision) &&
    snapshot.canonicalQuestionDigest.valid && snapshot.responseSpecificationDigest.valid &&
    snapshot.originPrincipal.valid &&
    snapshot.responsePolicy.valid snapshot.recipients.length &&
    validHumanInteractionPurpose snapshot.purpose &&
    validHumanInteractionEffect snapshot.declaredEffect && snapshot.confidentiality.valid &&
    !snapshot.deadlineAt.isZero && snapshot.timeoutPolicy.kind == .policy &&
    snapshot.timeoutPolicy.valid && snapshot.disclosureScopeDigest.valid &&
    decide (0 < snapshot.interactionPolicyRevision) && snapshot.interactionPolicyDigest.valid &&
    snapshot.predecessorInteractionID.all
      (fun predecessor => predecessor.valid && predecessor != snapshot.interactionID) &&
    !(snapshot.originPrincipal.kind == .human &&
      (snapshot.originActorFQN.isSome || snapshot.originExecution.isSome)) &&
    !(snapshot.originPrincipal.kind == .actor &&
      !(snapshot.originExecution.isSome &&
        snapshot.originActorFQN.any (fun actor => snapshot.originPrincipal.id == actor.text))) &&
    snapshot.recipients.all validRecipient &&
    decide (snapshot.recipients.map (·.principal.id)).Nodup &&
    snapshot.deliveries.all snapshot.validDelivery &&
    decide (snapshot.deliveries.map (·.deliveryID)).Nodup &&
    decide (snapshot.deliveries.map (·.eventID)).Nodup &&
    snapshot.responses.all snapshot.validResponse &&
    decide (snapshot.responses.map (·.eventID)).Nodup &&
    decide (snapshot.responses.map (·.respondent.id)).Nodup &&
    decide (snapshot.responses.map (·.responseArtifactDigest)).Nodup &&
    match snapshot.phase with
    | .opened => snapshot.deliveries.isEmpty && snapshot.responses.isEmpty
    | .collecting => !snapshot.responsePolicySatisfied
    | .satisfied | .closed => snapshot.responsePolicySatisfied
    | .expired => true

end HumanInteractionSnapshot

inductive ContinuityControlState where
  | active | quiescing | suspended | reconciling
  | other (text : String)
deriving DecidableEq

inductive OperatingPosture where
  | continuous | plannedSuspendCapable
  | other (text : String)
deriving DecidableEq

structure TeamContinuitySnapshot where
  revision : Nat
  operatingPosture : OperatingPosture
  controlState : ContinuityControlState
  powerEpoch : UInt64
  admissionOpen : Bool
  continuityPolicyRevision : Nat
  continuityPolicyDigest : Digest
  healthRequirementDigest : Digest
  inFlightExecutionIDs : List UUIDv7 := []
  unresolvedExecutionIDs : List UUIDv7 := []
  lastTransitionEventID : UUIDv7
deriving DecidableEq

def TeamContinuitySnapshot.valid (snapshot : TeamContinuitySnapshot) : Bool :=
  decide (0 < snapshot.revision) && decide (0 < snapshot.powerEpoch) &&
    decide (0 < snapshot.continuityPolicyRevision) && snapshot.continuityPolicyDigest.valid &&
    snapshot.healthRequirementDigest.valid && snapshot.lastTransitionEventID.valid &&
    validUniqueUUIDs snapshot.inFlightExecutionIDs 0 1024 &&
    validUniqueUUIDs snapshot.unresolvedExecutionIDs 0 1024 &&
    (match snapshot.operatingPosture with
      | .other _ => false
      | _ => true) &&
    match snapshot.controlState with
    | .active => snapshot.admissionOpen && snapshot.unresolvedExecutionIDs.isEmpty
    | .quiescing | .suspended | .reconciling => !snapshot.admissionOpen
    | .other _ => false

structure AggregateState where
  kind : AggregateKind
  id : UUIDv7
  revision : Nat
  lifecycleEpoch : Nat
  scopeRevision : Nat
  phase : Phase
  condition : Condition
  ownership : Ownership := {}
  operatorRole : Option OperatorRoleProfile := none
  participant : Option HumanParticipantSnapshot := none
  interaction : Option HumanInteractionSnapshot := none
  continuity : Option TeamContinuitySnapshot := none
deriving DecidableEq

end Tekroo.Kernel
