import Tekroo.Kernel.Policy.Common

namespace Tekroo.Kernel

open Checked

/-! # Policy of operator-role, participant, interaction and continuity commands

`none` stands for a command that `validateOperatorHumanContinuityCommand` does not
handle.
-/

variable (command : KernelCommand) (snapshot : Snapshot) (context : DecisionContext)
  (interaction : HumanInteractionSnapshot)

def bindOperatorRolePolicy :
    Payload → Except Refusal Unit
  | .operatorRole value => do
    let profile ← demand value.role .revisionConflict
    refuse (value.expectedSystemRevision != snapshot.revision ||
      !payloadEvidenceMatches command ||
      !evidenceIDsCovered profile.roleBundleSignatureEvidenceIDs command.evidenceRefs)
      .revisionConflict
    refuse ((!snapshot.present && profile.replacesBindingID.isSome) ||
      (snapshot.present &&
        !(snapshot.state.any fun state => state.operatorRole.any fun role =>
          profile.replacesBindingID == some role.bindingID))) .transitionPolicy
  | _ => .error .invalidPayload

def configureContinuityPolicy :
    Payload → Except Refusal Unit
  | .continuityConfigure value => do
    refuse (value.expectedSystemRevision != snapshot.revision || !value.configuredBy.valid ||
      value.configuredBy != command.authority || !payloadEvidenceMatches command)
      .revisionConflict
    refuse (snapshot.present &&
      !(snapshot.state.any fun state =>
        state.continuity.all fun continuity => continuity.controlState == .active))
      .transitionPolicy
  | _ => .error .invalidPayload

def continuityEventType : CommandType → Option EventType
  | .systemRequestQuiescence => some .systemQuiescenceRequested
  | .systemRecordSuspended => some .systemSuspended
  | .systemRecordUnexpectedOutage => some .systemUnexpectedOutageRecorded
  | .systemBeginReconciliation => some .systemReconciliationStarted
  | .systemResume => some .systemResumed
  | _ => none

def interactionEventType : CommandType → Option EventType
  | .humanInteractionRecordDelivery => some .humanInteractionDeliveryRecorded
  | .humanInteractionRespond => some .humanInteractionResponseRecorded
  | .humanInteractionClose => some .humanInteractionClosed
  | .humanInteractionExpire => some .humanInteractionExpired
  | _ => none

def continuityTransitionPolicy (eventType : EventType) : Except Refusal Unit := do
  let continuity ← demand (snapshot.state.bind (·.continuity)) .transitionPolicy
  refuse (!payloadEvidenceMatches command) .transitionPolicy
  refuse (continuity.applyContinuityEvent (.trial eventType context.eventID command.target
    (snapshot.revision + 1) 0 command.payload)).isNone .transitionPolicy

def participantEvidenceCovered (participant : HumanParticipantSnapshot)
    (references : List EvidenceRef) : Bool :=
  participant.roleBindings.all (fun binding =>
      evidenceIDsCovered binding.evidenceIDs references) &&
    participant.authenticationBindings.all (fun binding =>
      evidenceIDsCovered binding.evidenceIDs references) &&
    participant.deliveryBindings.all (fun binding =>
      evidenceIDsCovered binding.evidenceIDs references)

def bindProfilePolicy :
    Payload → Except Refusal Unit
  | .participant value => do
    let participant ← demand (value.snapshot (snapshot.revision + 1)) .invalidPayload
    refuse (!payloadEvidenceMatches command ||
      !participantEvidenceCovered participant command.evidenceRefs) .invalidPayload
    refuse ((!snapshot.present &&
        (participant.profileRevision != 1 || participant.supersedesProfileID.isSome)) ||
      (snapshot.present &&
        !(snapshot.state.any fun state => state.participant.any fun current =>
          participant.participant == current.participant &&
            participant.profileRevision == current.profileRevision + 1 &&
            participant.supersedesProfileID == some current.profileID))) .revisionConflict
  | _ => .error .invalidPayload

def revokeParticipantPolicy :
    Payload → Except Refusal Unit
  | .participantRevoke value => do
    let current ← demand (snapshot.state.bind (·.participant)) .revisionConflict
    refuse (!current.active || value.participant != current.participant ||
      value.expectedParticipantRevision != snapshot.revision ||
      value.expectedProfileID != current.profileID || value.revokedBy != command.authority ||
      value.revokedAt.isZero || value.reason == "" ||
      decide (4096 < value.reason.utf8ByteSize) || !payloadEvidenceMatches command)
      .revisionConflict
  | _ => .error .invalidPayload

/-- `findParticipantProfile`.  The source takes whichever matching aggregate its map
iteration meets first. -/
def findParticipantProfile (related : Table AggregateRef RelatedSnapshot)
    (principal : PrincipalRef) : Option HumanParticipantSnapshot :=
  related.entries.findSome? fun value =>
    (value.2.state.bind (·.participant)).filter fun profile => profile.participant == principal

def originExecutionCurrent : Bool :=
  interaction.originPrincipal.kind != .actor ||
    (command.actorFQN.isSome && command.execution.isSome &&
      command.actorFQN == interaction.originActorFQN &&
      command.execution == interaction.originExecution &&
      command.actorFQN.any (fun actor =>
        snapshot.currentExecutions.lookup actor == command.execution))

def recipientQualified (moment : Time) (recipient : HumanInteractionRecipient) : Bool :=
  (findParticipantProfile snapshot.related recipient.principal).any fun profile =>
    profile.active && profile.profileID == recipient.participantProfileID &&
      profile.profileRevision == recipient.participantProfileRevision &&
      profile.profileDigest == recipient.participantProfileDigest &&
      (profile.delivery recipient.deliveryBindingID interaction.confidentiality).isSome &&
      profileHasRole profile recipient.roleBindingID moment

def openInteractionPolicy : Payload → Except Refusal Unit
  | .interactionOpen value => do
    let interaction ← demand (value.snapshot 1) .invalidPayload
    refuse (interaction.interactionID != command.target.id ||
      interaction.originPrincipal != command.authority || !payloadEvidenceMatches command ||
      !causalPathMatchesCommandField value.causalPathEventIDs command.causation)
      .invalidPayload
    refuse (!originExecutionCurrent command snapshot interaction) .staleExecution
    refuse (!((snapshot.related.lookup interaction.subject).any fun related =>
        related.present && related.revision == interaction.expectedSubjectRevision &&
          related.state.any fun state =>
            state.lifecycleEpoch == interaction.subjectLifecycleEpoch) ||
      !containsAggregatePrecondition command interaction.subject) .revisionConflict
    refuse (!interaction.recipients.all
      (recipientQualified snapshot interaction context.decidedAt)) .transitionPolicy
  | _ => .error .invalidPayload

def responderAuthorized : Payload → Bool
  | .interactionResponse value =>
    command.authority.kind == .human && command.actorFQN.isNone && command.execution.isNone &&
      (value.record context.eventID).any fun response =>
        response.respondent == command.authority &&
          (interaction.selected response.respondent).any fun recipient =>
            (findParticipantProfile snapshot.related recipient.principal).any fun profile =>
              profile.active && profile.profileID == response.participantProfileID &&
                profile.profileRevision == response.participantProfileRevision &&
                profileHasRole profile response.roleBindingID context.decidedAt &&
                (profile.authentication response.authenticationBindingID).isSome
  | _ => false

def interactionTransitionPolicy (eventType : EventType) : Except Refusal Unit := do
  let interaction ← demand (snapshot.state.bind (·.interaction)) .transitionPolicy
  refuse (!payloadEvidenceMatches command) .transitionPolicy
  refuse (command.commandType == .humanInteractionRespond &&
    !responderAuthorized command snapshot context interaction command.payload) .unauthorized
  refuse (interaction.applyHumanInteractionEvent (.trial eventType context.eventID
    command.target (snapshot.revision + 1) 0 command.payload)).isNone .transitionPolicy

def validateOperatorHumanContinuityCommand : Option (Except Refusal Unit) :=
  match command.commandType with
  | .systemBindOperatorRole => some (bindOperatorRolePolicy command snapshot command.payload)
  | .systemConfigureContinuity =>
    some (configureContinuityPolicy command snapshot command.payload)
  | .humanParticipantBindProfile => some (bindProfilePolicy command snapshot command.payload)
  | .humanParticipantRevoke => some (revokeParticipantPolicy command snapshot command.payload)
  | .humanInteractionOpen =>
    some (openInteractionPolicy command snapshot context command.payload)
  | commandType =>
    match continuityEventType commandType, interactionEventType commandType with
    | some eventType, _ =>
      some (continuityTransitionPolicy command snapshot context eventType)
    | none, some eventType =>
      some (interactionTransitionPolicy command snapshot context eventType)
    | none, none => none

/-- The types of command that `validateOperatorHumanContinuityCommand` decides. -/
def operatorCommandType : CommandType → Bool
  | .systemBindOperatorRole | .systemConfigureContinuity | .humanParticipantBindProfile
  | .humanParticipantRevoke | .humanInteractionOpen => true
  | commandType =>
    (continuityEventType commandType).isSome || (interactionEventType commandType).isSome

theorem validateOperatorHumanContinuityCommand_none {command : KernelCommand}
    {snapshot : Snapshot} {context : DecisionContext}
    (other : operatorCommandType command.commandType = false) :
    validateOperatorHumanContinuityCommand command snapshot context = none := by
  unfold operatorCommandType at other
  unfold validateOperatorHumanContinuityCommand
  split at other
  all_goals first | cases other | skip
  simp only [tests_iff, Option.isSome_eq_false_iff, Option.isNone_iff_eq_none] at other
  obtain ⟨continuity, interaction⟩ := other
  simp only [continuity, interaction]

end Tekroo.Kernel
