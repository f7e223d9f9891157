import Tekroo.Kernel.State

namespace Tekroo.Kernel

/-! # Operator roles, participants and human interactions: payloads and transitions -/

structure OperatorRolePayload where
  profile : OperatorRoleProfile
  expectedSystemRevision : Nat
  evidenceIDs : List UUIDv7

/-- `OperatorRoleFromPayload` -/
def OperatorRolePayload.role (value : OperatorRolePayload) : Option OperatorRoleProfile :=
  if value.profile.valid then some value.profile else none

structure HumanParticipantPayload where
  participant : PrincipalRef
  expectedParticipantRevision : Nat
  profileID : UUIDv7
  profileRevision : Nat
  profileDigest : Digest
  displayLabel : String
  privacyClassification : Confidentiality
  roleBindings : List HumanRoleBinding
  authenticationBindings : List HumanAuthenticationBinding
  deliveryBindings : List HumanDeliveryBinding
  participantPolicyRevision : Nat
  participantPolicyDigest : Digest
  supersedesProfileID : Option UUIDv7
  evidenceIDs : List UUIDv7

/-- `HumanParticipantFromPayload` -/
def HumanParticipantPayload.snapshot (value : HumanParticipantPayload) (revision : Nat) :
    Option HumanParticipantSnapshot :=
  let snapshot : HumanParticipantSnapshot := {
    participant := value.participant
    revision
    profileID := value.profileID
    profileRevision := value.profileRevision
    profileDigest := value.profileDigest
    displayLabel := value.displayLabel
    privacyClassification := value.privacyClassification
    roleBindings := value.roleBindings
    authenticationBindings := value.authenticationBindings
    deliveryBindings := value.deliveryBindings
    participantPolicyRevision := value.participantPolicyRevision
    participantPolicyDigest := value.participantPolicyDigest
    supersedesProfileID := value.supersedesProfileID
    active := true }
  if value.participant.kind == .human && value.expectedParticipantRevision + 1 == revision &&
      snapshot.valid then
    some snapshot
  else none

structure HumanParticipantRevokePayload where
  participant : PrincipalRef
  expectedParticipantRevision : Nat
  expectedProfileID : UUIDv7
  revokedBy : PrincipalRef
  revokedAt : Time
  reason : String
  evidenceIDs : List UUIDv7

structure HumanInteractionOpenPayload where
  interactionID : UUIDv7
  subjectKind : AggregateKind
  subjectID : UUIDv7
  subjectLifecycleEpoch : Nat
  expectedSubjectRevision : Nat
  questionRevision : Nat
  canonicalQuestionDigest : Digest
  responseSpecificationDigest : Digest
  originPrincipal : PrincipalRef
  originActorFQN : Option ActorFQN
  originExecutionID : Option UUIDv7
  originExecutionFencingEpoch : Option Nat
  recipients : List HumanInteractionRecipient
  responsePolicy : HumanResponsePolicy
  purpose : HumanInteractionPurpose
  declaredEffect : HumanInteractionEffect
  confidentiality : Confidentiality
  deadlineAt : Time
  timeoutPolicy : PrincipalRef
  disclosureScopeDigest : Digest
  interactionPolicyRevision : Nat
  interactionPolicyDigest : Digest
  predecessorInteractionID : Option UUIDv7
  causalPathEventIDs : List UUIDv7
  evidenceIDs : List UUIDv7

variable (value : HumanInteractionOpenPayload)

def HumanInteractionOpenPayload.originExecution :
    Option (Option ExecutionTuple) :=
  match value.originExecutionID, value.originExecutionFencingEpoch with
  | some executionID, some fencingEpoch => some (some ⟨executionID, fencingEpoch⟩)
  | none, none => some none
  | _, _ => none

/-- `HumanInteractionFromOpenPayload` -/
def HumanInteractionOpenPayload.snapshot (revision : Nat) : Option HumanInteractionSnapshot :=
  match value.originExecution with
  | none => none
  | some originExecution =>
    let snapshot : HumanInteractionSnapshot := {
      interactionID := value.interactionID
      revision
      phase := .opened
      subject := ⟨value.subjectKind, value.subjectID⟩
      subjectLifecycleEpoch := value.subjectLifecycleEpoch
      expectedSubjectRevision := value.expectedSubjectRevision
      questionRevision := value.questionRevision
      canonicalQuestionDigest := value.canonicalQuestionDigest
      responseSpecificationDigest := value.responseSpecificationDigest
      originPrincipal := value.originPrincipal
      originActorFQN := value.originActorFQN
      originExecution
      recipients := value.recipients
      responsePolicy := value.responsePolicy
      purpose := value.purpose
      declaredEffect := value.declaredEffect
      confidentiality := value.confidentiality
      deadlineAt := value.deadlineAt
      timeoutPolicy := value.timeoutPolicy
      disclosureScopeDigest := value.disclosureScopeDigest
      interactionPolicyRevision := value.interactionPolicyRevision
      interactionPolicyDigest := value.interactionPolicyDigest
      predecessorInteractionID := value.predecessorInteractionID }
    if snapshot.valid then some snapshot else none

structure HumanDeliveryPayload where
  interactionID : UUIDv7
  expectedInteractionRevision : Nat
  questionRevision : Nat
  deliveryID : UUIDv7
  recipient : PrincipalRef
  deliveryBindingID : UUIDv7
  adapterProfileDigest : Digest
  canonicalQuestionDigest : Digest
  renderedQuestionDigest : Digest
  presenterActorFQN : Option ActorFQN
  presenterExecutionID : Option UUIDv7
  materialEquivalenceEvidenceID : Option UUIDv7
  outcome : DeliveryOutcome
  attemptedAt : Time
  channelProvenanceDigest : Digest
  evidenceIDs : List UUIDv7

inductive ResponseClassification where
  | answer | decline | requestClarification
  | other (text : String)

def validResponseClassification : ResponseClassification → Bool
  | .other _ => false
  | _ => true

structure HumanResponsePayload where
  interactionID : UUIDv7
  expectedInteractionRevision : Nat
  questionRevision : Nat
  respondent : PrincipalRef
  participantProfileID : UUIDv7
  participantProfileRevision : Nat
  roleBindingID : UUIDv7
  authenticationBindingID : UUIDv7
  deliveryID : UUIDv7
  deliveryEventID : UUIDv7
  responseArtifactDigest : Digest
  responseSpecificationDigest : Digest
  responseClassification : ResponseClassification
  assertedEffect : HumanInteractionEffect
  credentialProvenanceDigest : Digest
  channelProvenanceDigest : Digest
  respondedAt : Time
  evidenceIDs : List UUIDv7

/-- The record part of `humanResponseFromPayload`; the other parsed parts are the
payload's own fields. -/
def HumanResponsePayload.record (value : HumanResponsePayload) (eventID : UUIDv7) :
    Option HumanResponseRecord :=
  if value.respondent.kind == .human && eventID.valid && value.participantProfileID.valid &&
      decide (0 < value.participantProfileRevision) && value.roleBindingID.valid &&
      value.authenticationBindingID.valid && value.deliveryID.valid &&
      value.deliveryEventID.valid && value.responseArtifactDigest.valid &&
      value.responseSpecificationDigest.valid &&
      validResponseClassification value.responseClassification &&
      validHumanInteractionEffect value.assertedEffect &&
      value.credentialProvenanceDigest.valid && value.channelProvenanceDigest.valid &&
      !value.respondedAt.isZero then
    some {
      eventID
      respondent := value.respondent
      participantProfileID := value.participantProfileID
      participantProfileRevision := value.participantProfileRevision
      roleBindingID := value.roleBindingID
      authenticationBindingID := value.authenticationBindingID
      deliveryID := value.deliveryID
      responseArtifactDigest := value.responseArtifactDigest
      responseSpecificationDigest := value.responseSpecificationDigest }
  else none

inductive InteractionCloseOutcome where
  | satisfied
  | other (text : String)
deriving DecidableEq

structure HumanInteractionClosePayload where
  interactionID : UUIDv7
  expectedInteractionRevision : Nat
  questionRevision : Nat
  acceptedResponseEventIDs : List UUIDv7
  acceptedRespondents : List PrincipalRef
  responsePolicySatisfied : Bool
  outcome : InteractionCloseOutcome
  resolvedEffect : HumanInteractionEffect
  authorizationEvidenceID : Option UUIDv7
  closedAt : Time
  closedBy : PrincipalRef
  reasons : List String
  evidenceIDs : List UUIDv7

inductive InteractionExpiryOutcome where
  | expired | blocked | humanRequired
  | other (text : String)

def validInteractionExpiryOutcome : InteractionExpiryOutcome → Bool
  | .other _ => false
  | _ => true

structure HumanInteractionExpirePayload where
  interactionID : UUIDv7
  expectedInteractionRevision : Nat
  questionRevision : Nat
  deadlineAt : Time
  expiredAt : Time
  silenceIsConsent : Bool
  outcome : InteractionExpiryOutcome
  timeoutPolicy : PrincipalRef
  evidenceIDs : List UUIDv7

def exactAcceptedHumanResponses (responses : List HumanResponseRecord)
    (eventIDs : List UUIDv7) (respondents : List PrincipalRef) : Bool :=
  !responses.isEmpty && eventIDs.length == responses.length &&
    respondents.length == responses.length && validUniqueUUIDs eventIDs 1 64 &&
    eventIDs.all (responses.map (·.eventID)).contains &&
    respondents.all (fun respondent => respondent.kind == .human && respondent.valid &&
      (responses.map (·.respondent)).contains respondent) &&
    decide respondents.Nodup

def validResolvedHumanEffect (declared resolved : HumanInteractionEffect)
    (authorizationEvidenceID : Option UUIDv7) (evidenceIDs : List UUIDv7) : Bool :=
  match declared with
  | .advisoryOnly => resolved == .advisoryOnly && authorizationEvidenceID.isNone
  | .evidenceOnly => resolved == .evidenceOnly && authorizationEvidenceID.isNone
  | .authorityIfAuthorized =>
    if resolved == .evidenceOnly then authorizationEvidenceID.isNone
    else resolved == .authorizedEffect &&
      authorizationEvidenceID.any (fun id => id.valid && evidenceIDs.contains id)
  | _ => false

namespace HumanInteractionSnapshot

variable (snapshot : HumanInteractionSnapshot)

def ended : Bool :=
  snapshot.phase == .closed || snapshot.phase == .expired

def recordDelivery (value : HumanDeliveryPayload) (eventID : UUIDv7) :
    Option HumanInteractionSnapshot :=
  if !snapshot.ended && value.interactionID == snapshot.interactionID &&
      value.expectedInteractionRevision == snapshot.revision &&
      value.questionRevision == snapshot.questionRevision &&
      value.canonicalQuestionDigest == snapshot.canonicalQuestionDigest &&
      value.deliveryID.valid && value.adapterProfileDigest.valid &&
      value.renderedQuestionDigest.valid && value.channelProvenanceDigest.valid &&
      !value.attemptedAt.isZero && validDeliveryOutcome value.outcome &&
      value.presenterActorFQN.isNone == value.presenterExecutionID.isNone &&
      value.presenterActorFQN.all ActorFQN.valid &&
      value.presenterExecutionID.all UUIDv7.valid &&
      value.materialEquivalenceEvidenceID.all UUIDv7.valid &&
      (snapshot.selected value.recipient).any
        (fun recipient => recipient.deliveryBindingID == value.deliveryBindingID) &&
      !(value.renderedQuestionDigest != value.canonicalQuestionDigest &&
        value.materialEquivalenceEvidenceID.isNone) &&
      snapshot.deliveries.all (fun delivery => delivery.deliveryID != value.deliveryID) then
    some { snapshot with
      deliveries := snapshot.deliveries ++
        [⟨value.deliveryID, eventID, value.recipient, value.deliveryBindingID, value.outcome⟩]
      phase := if snapshot.phase == .opened then .collecting else snapshot.phase }
  else none

def respond (value : HumanResponsePayload) (eventID : UUIDv7) : Option HumanInteractionSnapshot :=
  match value.record eventID with
  | none => none
  | some record =>
    if !snapshot.ended && value.expectedInteractionRevision == snapshot.revision &&
        value.questionRevision == snapshot.questionRevision &&
        value.interactionID == snapshot.interactionID &&
        record.responseSpecificationDigest == snapshot.responseSpecificationDigest &&
        (snapshot.selected record.respondent).any (fun recipient =>
          recipient.participantProfileID == record.participantProfileID &&
          recipient.participantProfileRevision == record.participantProfileRevision &&
          recipient.roleBindingID == record.roleBindingID) &&
        snapshot.deliveries.any (fun delivery =>
          delivery.deliveryID == record.deliveryID &&
          delivery.eventID == value.deliveryEventID &&
          delivery.recipient == record.respondent && delivery.outcome == .delivered) &&
        snapshot.responses.all (fun existing =>
          existing.respondent != record.respondent &&
          existing.responseArtifactDigest != record.responseArtifactDigest) then
      let next := { snapshot with
        responses := (snapshot.responses ++ [record]).insertionSort
          fun left right => left.respondent.id ≤ right.respondent.id }
      some { next with
        phase := if next.responsePolicySatisfied then .satisfied else .collecting }
    else none

def close (value : HumanInteractionClosePayload) : Option HumanInteractionSnapshot :=
  if snapshot.phase == .satisfied && snapshot.responsePolicySatisfied &&
      value.responsePolicySatisfied && value.interactionID == snapshot.interactionID &&
      value.expectedInteractionRevision == snapshot.revision &&
      value.questionRevision == snapshot.questionRevision && value.outcome == .satisfied &&
      !value.closedAt.isZero && value.closedBy.valid &&
      validUniqueStrings value.reasons 1 64 && validUniqueUUIDs value.evidenceIDs 1 64 &&
      exactAcceptedHumanResponses snapshot.responses value.acceptedResponseEventIDs
        value.acceptedRespondents &&
      validResolvedHumanEffect snapshot.declaredEffect value.resolvedEffect
        value.authorizationEvidenceID value.evidenceIDs then
    some { snapshot with phase := .closed }
  else none

def expire (value : HumanInteractionExpirePayload) : Option HumanInteractionSnapshot :=
  if !snapshot.ended && value.interactionID == snapshot.interactionID &&
      value.expectedInteractionRevision == snapshot.revision &&
      value.questionRevision == snapshot.questionRevision &&
      value.deadlineAt == snapshot.deadlineAt &&
      decide (snapshot.deadlineAt ≤ value.expiredAt) && !value.silenceIsConsent &&
      validInteractionExpiryOutcome value.outcome &&
      value.timeoutPolicy == snapshot.timeoutPolicy then
    some { snapshot with phase := .expired }
  else none

end HumanInteractionSnapshot

end Tekroo.Kernel
