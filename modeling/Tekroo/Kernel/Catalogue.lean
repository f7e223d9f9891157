import Tekroo.Kernel.Provenance

namespace Tekroo.Kernel

open Checked

/-! # The frozen command catalogue -/

structure CommandDefinition where
  version : String
  targetKinds : List AggregateKind
  authorityKinds : List PrincipalKind
  executionRequired : Bool
  eventTypes : List EventType
  rootAllowed : Bool
  allowedParentEdges : List EdgeKind

def catalogueRevision : Nat := 8

def schemaVersion : String := "1.6.0"

def operationalSchemaVersion : String := "1.7.0"

def workflowSchemaVersion : String := "1.0.0"

/-- Every command of the catalogue allows all edge kinds to its parents. -/
def entry (version : String) (targetKinds : List AggregateKind)
    (authorityKinds : List PrincipalKind) (executionRequired : Bool)
    (eventTypes : List EventType) (rootAllowed : Bool) : Option CommandDefinition :=
  some {
    version, targetKinds, authorityKinds, executionRequired, eventTypes, rootAllowed
    allowedParentEdges := [.causal, .response, .retry, .derivation, .supersession] }

def commandEntry : CommandType → Option CommandDefinition
  | .completionReviewFinalize =>
    entry schemaVersion [.completionReview] [.policy] false [.completionReviewFinalized] false
  | .completionReviewOpen =>
    entry schemaVersion [.completionReview] [.policy] false [.completionReviewOpened] true
  | .completionReviewRecordResult =>
    entry schemaVersion [.completionReview] [.actor, .human, .service, .policy] false
      [.completionReviewResultRecorded] false
  | .escalationOpen => entry schemaVersion [.escalation] [.policy] false [.escalationOpened] false
  | .escalationResolve =>
    entry schemaVersion [.escalation] [.actor, .human, .service, .policy] false
      [.escalationResolved] false
  | .evidenceRegister =>
    entry schemaVersion [.evidence] [.actor, .human, .service, .policy] false
      [.evidenceRegistered] true
  | .executionRegister =>
    entry schemaVersion [.execution] [.service, .policy] false [.executionRegistered] true
  | .executionReplace =>
    entry schemaVersion [.execution] [.service, .policy] false [.executionReplaced] false
  | .humanInteractionClose =>
    entry schemaVersion [.humanInteraction] [.human, .policy] false
      [.humanInteractionClosed] false
  | .humanInteractionExpire =>
    entry schemaVersion [.humanInteraction] [.policy] false [.humanInteractionExpired] false
  | .humanInteractionOpen =>
    entry schemaVersion [.humanInteraction] [.actor, .human, .policy, .service] false
      [.humanInteractionOpened] true
  | .humanInteractionRecordDelivery =>
    entry schemaVersion [.humanInteraction] [.service] false
      [.humanInteractionDeliveryRecorded] false
  | .humanInteractionRespond =>
    entry schemaVersion [.humanInteraction] [.human] false
      [.humanInteractionResponseRecorded] false
  | .humanParticipantBindProfile =>
    entry schemaVersion [.humanParticipant] [.human, .policy] false
      [.humanParticipantProfileBound] true
  | .humanParticipantRevoke =>
    entry schemaVersion [.humanParticipant] [.human, .policy] false
      [.humanParticipantRevoked] false
  | .projectionRecordFault =>
    entry operationalSchemaVersion [.system] [.service, .policy] false
      [.projectionFaultRecorded] false
  | .recordCorrect =>
    entry schemaVersion [.story, .task, .evidence, .system] [.human, .policy] false
      [.recordCorrected] false
  | .releasePlanCreate =>
    entry schemaVersion [.releasePlan] [.policy] false [.releasePlanCreated] false
  | .releasePlanFinalize =>
    entry schemaVersion [.releasePlan] [.policy] false [.releasePlanFinalized] false
  | .releasePlanRecordQualification =>
    entry schemaVersion [.releasePlan] [.policy, .service] false
      [.releasePlanQualificationRecorded] false
  | .releasePlanRecordReconciliation =>
    entry schemaVersion [.releasePlan] [.policy, .service] false
      [.releasePlanReconciliationRecorded] false
  | .releasePlanRecordResult =>
    entry schemaVersion [.releasePlan] [.service] false [.releasePlanResultRecorded] false
  | .releasePlanRequestExecution =>
    entry schemaVersion [.releasePlan] [.policy] false [.releasePlanExecutionRequested] false
  | .storyActivate =>
    entry schemaVersion [.story] [.actor, .human, .policy] false [.storyActivated] false
  | .storyApproveRelease =>
    entry schemaVersion [.story] [.actor, .human] false [.storyReleaseApproved] false
  | .storyAuthorize =>
    entry schemaVersion [.story] [.human, .policy] false [.storyAuthorized] false
  | .storyBeginPlanning =>
    entry schemaVersion [.story] [.actor, .human, .policy] false [.storyPlanningStarted] false
  | .storyCreate =>
    entry schemaVersion [.story] [.actor, .human, .service] false [.storyCreated] true
  | .storyRequestAcceptance =>
    entry schemaVersion [.story] [.human, .policy] false [.storyAccepted] false
  | .storyRequestCompletion =>
    entry schemaVersion [.story] [.actor, .human, .policy] false [.storyCompleted] false
  | .systemBeginReconciliation =>
    entry schemaVersion [.system] [.human, .policy, .service] false
      [.systemReconciliationStarted] false
  | .systemBindOperatorRole =>
    entry schemaVersion [.system] [.human, .policy] false [.systemOperatorRoleBound] true
  | .systemConfigureContinuity =>
    entry schemaVersion [.system] [.human, .policy] false [.systemContinuityConfigured] true
  | .systemRecordSuspended =>
    entry schemaVersion [.system] [.policy, .service] false [.systemSuspended] false
  | .systemRecordUnexpectedOutage =>
    entry schemaVersion [.system] [.policy, .service] false
      [.systemUnexpectedOutageRecorded] false
  | .systemRequestQuiescence =>
    entry schemaVersion [.system] [.human, .policy, .service] false
      [.systemQuiescenceRequested] false
  | .systemResume => entry schemaVersion [.system] [.human, .policy] false [.systemResumed] false
  | .taskAcquireOwnership =>
    entry schemaVersion [.task] [.actor] true [.taskOwnershipAcquired] false
  | .taskActivate => entry schemaVersion [.task] [.actor] true [.taskActivated] false
  | .taskAuthorizeQualifiedAssignment =>
    entry schemaVersion [.task] [.policy] false [.taskQualifiedAssignmentAuthorized] false
  | .taskBindOperationalScope =>
    entry operationalSchemaVersion [.task] [.human, .policy] false
      [.taskOperationalScopeBound] false
  | .taskBindWorkBudget =>
    entry operationalSchemaVersion [.task] [.human, .policy] false [.taskWorkBudgetBound] false
  | .taskBindWorkProfile =>
    entry schemaVersion [.task] [.policy, .human] false [.taskWorkProfileBound] false
  | .taskCreate => entry schemaVersion [.task] [.actor, .human, .policy] false [.taskCreated] true
  | .taskDispatch =>
    entry schemaVersion [.task] [.actor, .human, .policy] false [.taskDispatched] false
  | .taskForceReassign =>
    entry schemaVersion [.task] [.human, .policy] false [.taskForceReassigned] false
  | .taskHandoff =>
    entry schemaVersion [.task] [.actor, .human, .policy] true [.taskHandedOff] false
  | .taskMarkReady => entry schemaVersion [.task] [.policy] false [.taskReadied] false
  | .taskReleaseOwnership =>
    entry schemaVersion [.task] [.actor, .human, .policy] true [.taskOwnershipReleased] false
  | .taskRequestCompletion =>
    entry schemaVersion [.task] [.actor, .human, .policy] true [.taskCompleted] false
  | .variantGroupOpen =>
    entry schemaVersion [.variantGroup] [.policy] false [.variantGroupOpened] false
  | .variantGroupRecordComparison =>
    entry schemaVersion [.variantGroup] [.actor, .human, .service] false
      [.variantGroupComparisonRecorded] false
  | .variantGroupSelect =>
    entry schemaVersion [.variantGroup] [.policy, .human] false [.variantGroupSelected] false
  | .variantGroupSubmitCandidate =>
    entry schemaVersion [.variantGroup] [.actor, .service] false
      [.variantGroupCandidateSubmitted] false
  | .workBudgetAmend =>
    entry operationalSchemaVersion [.workBudget] [.human, .policy] false
      [.workBudgetAmended] false
  | .workBudgetCreate =>
    entry operationalSchemaVersion [.workBudget] [.human, .policy] false
      [.workBudgetCreated] true
  | .workInvocationAuthorize =>
    entry operationalSchemaVersion [.workInvocation] [.policy] false
      [.workInvocationAuthorized] false
  | .workInvocationClaim =>
    entry operationalSchemaVersion [.workInvocation] [.service, .policy] false
      [.workInvocationClaimed] false
  | .workInvocationExpire =>
    entry operationalSchemaVersion [.workInvocation] [.policy] false
      [.workInvocationExpired] false
  | .workInvocationRecordStarted =>
    entry operationalSchemaVersion [.workInvocation] [.service, .policy] false
      [.workInvocationStarted] false
  | .workInvocationRecordTerminal =>
    entry operationalSchemaVersion [.workInvocation] [.service, .policy] false
      [.workInvocationTerminalRecorded] false
  | .workInvocationRequestCancellation =>
    entry operationalSchemaVersion [.workInvocation] [.human, .policy] false
      [.workInvocationCancellationRequested] false
  | .workBlock =>
    entry schemaVersion [.story, .task] [.actor, .human, .policy] true [.workBlocked] false
  | .workClose => entry schemaVersion [.story, .task] [.human, .policy] false [.workClosed] false
  | .workCreateSuccessor =>
    entry schemaVersion [.story, .task] [.human, .policy] false [.workSuccessorCreated] false
  | .workReopen =>
    entry schemaVersion [.story, .task] [.human, .policy] false [.workReopened] false
  | .workUnblock =>
    entry schemaVersion [.story, .task] [.actor, .human, .policy] true [.workUnblocked] false
  | .workflowCreate =>
    entry workflowSchemaVersion [.workflowInstance] [.human, .policy] false
      [.workflowCreated] true
  | .workflowProposeWork =>
    entry workflowSchemaVersion [.workflowInstance] [.actor, .service, .policy] false
      [.workflowWorkAdmitted, .workflowWorkRejected] false
  | .workflowRecordCheckpoint =>
    entry workflowSchemaVersion [.workflowInstance] [.actor, .service, .policy] false
      [.workflowCheckpointRecorded] false
  | .workflowRecordStageResult =>
    entry workflowSchemaVersion [.workflowInstance] [.actor, .service, .policy] false
      [.workflowStageResultRecorded] false
  | .other _ => none

/-- The command that produces an event of the given type. -/
def EventType.source : EventType → Option CommandType
  | .completionReviewFinalized => some .completionReviewFinalize
  | .completionReviewOpened => some .completionReviewOpen
  | .completionReviewResultRecorded => some .completionReviewRecordResult
  | .escalationOpened => some .escalationOpen
  | .escalationResolved => some .escalationResolve
  | .evidenceRegistered => some .evidenceRegister
  | .executionRegistered => some .executionRegister
  | .executionReplaced => some .executionReplace
  | .humanInteractionClosed => some .humanInteractionClose
  | .humanInteractionExpired => some .humanInteractionExpire
  | .humanInteractionOpened => some .humanInteractionOpen
  | .humanInteractionDeliveryRecorded => some .humanInteractionRecordDelivery
  | .humanInteractionResponseRecorded => some .humanInteractionRespond
  | .humanParticipantProfileBound => some .humanParticipantBindProfile
  | .humanParticipantRevoked => some .humanParticipantRevoke
  | .projectionFaultRecorded => some .projectionRecordFault
  | .recordCorrected => some .recordCorrect
  | .releasePlanCreated => some .releasePlanCreate
  | .releasePlanFinalized => some .releasePlanFinalize
  | .releasePlanQualificationRecorded => some .releasePlanRecordQualification
  | .releasePlanReconciliationRecorded => some .releasePlanRecordReconciliation
  | .releasePlanResultRecorded => some .releasePlanRecordResult
  | .releasePlanExecutionRequested => some .releasePlanRequestExecution
  | .storyActivated => some .storyActivate
  | .storyReleaseApproved => some .storyApproveRelease
  | .storyAuthorized => some .storyAuthorize
  | .storyPlanningStarted => some .storyBeginPlanning
  | .storyCreated => some .storyCreate
  | .storyAccepted => some .storyRequestAcceptance
  | .storyCompleted => some .storyRequestCompletion
  | .systemReconciliationStarted => some .systemBeginReconciliation
  | .systemOperatorRoleBound => some .systemBindOperatorRole
  | .systemContinuityConfigured => some .systemConfigureContinuity
  | .systemSuspended => some .systemRecordSuspended
  | .systemUnexpectedOutageRecorded => some .systemRecordUnexpectedOutage
  | .systemQuiescenceRequested => some .systemRequestQuiescence
  | .systemResumed => some .systemResume
  | .taskOwnershipAcquired => some .taskAcquireOwnership
  | .taskActivated => some .taskActivate
  | .taskQualifiedAssignmentAuthorized => some .taskAuthorizeQualifiedAssignment
  | .taskOperationalScopeBound => some .taskBindOperationalScope
  | .taskWorkBudgetBound => some .taskBindWorkBudget
  | .taskWorkProfileBound => some .taskBindWorkProfile
  | .taskCreated => some .taskCreate
  | .taskDispatched => some .taskDispatch
  | .taskForceReassigned => some .taskForceReassign
  | .taskHandedOff => some .taskHandoff
  | .taskReadied => some .taskMarkReady
  | .taskOwnershipReleased => some .taskReleaseOwnership
  | .taskCompleted => some .taskRequestCompletion
  | .variantGroupOpened => some .variantGroupOpen
  | .variantGroupComparisonRecorded => some .variantGroupRecordComparison
  | .variantGroupSelected => some .variantGroupSelect
  | .variantGroupCandidateSubmitted => some .variantGroupSubmitCandidate
  | .workBudgetAmended => some .workBudgetAmend
  | .workBudgetCreated => some .workBudgetCreate
  | .workInvocationAuthorized => some .workInvocationAuthorize
  | .workInvocationClaimed => some .workInvocationClaim
  | .workInvocationExpired => some .workInvocationExpire
  | .workInvocationStarted => some .workInvocationRecordStarted
  | .workInvocationTerminalRecorded => some .workInvocationRecordTerminal
  | .workInvocationCancellationRequested => some .workInvocationRequestCancellation
  | .workBlocked => some .workBlock
  | .workClosed => some .workClose
  | .workSuccessorCreated => some .workCreateSuccessor
  | .workReopened => some .workReopen
  | .workUnblocked => some .workUnblock
  | .workflowCreated => some .workflowCreate
  | .workflowCheckpointRecorded => some .workflowRecordCheckpoint
  | .workflowStageResultRecorded => some .workflowRecordStageResult
  | _ => none

variable {definition : CommandDefinition} {commandType : CommandType}

theorem EventType.source_of_entry {eventType : EventType}
    (found : commandEntry commandType = some definition)
    (single : definition.eventTypes = [eventType]) : eventType.source = some commandType := by
  cases commandType <;>
    simp only [commandEntry, entry, Option.some.injEq, reduceCtorEq] at found <;>
    subst found <;> simp only [List.cons.injEq, reduceCtorEq, and_false, and_true] at single <;>
    subst single <;> rfl

/-- The record that each command's payload schema describes. -/
def Payload.hasFormOf (payload : Payload) (commandType : CommandType) : Bool :=
  match commandType, payload with
  | .completionReviewOpen, .reviewOpen _ | .completionReviewRecordResult, .reviewResult _
  | .completionReviewFinalize, .reviewFinalize _ | .escalationOpen, .escalationOpen _
  | .escalationResolve, .escalationResolve _ | .evidenceRegister, .evidenceRegister _
  | .executionRegister, .executionRegister _ | .executionReplace, .executionReplace _
  | .humanInteractionOpen, .interactionOpen _
  | .humanInteractionRecordDelivery, .interactionDelivery _
  | .humanInteractionRespond, .interactionResponse _ | .humanInteractionClose, .interactionClose _
  | .humanInteractionExpire, .interactionExpire _ | .humanParticipantBindProfile, .participant _
  | .humanParticipantRevoke, .participantRevoke _ | .recordCorrect, .correction _
  | .releasePlanCreate, .releaseCreate _ | .releasePlanRecordQualification, .releaseQualification _
  | .releasePlanRequestExecution, .releaseAttempt _ | .releasePlanRecordResult, .releaseResult _
  | .releasePlanRecordReconciliation, .releaseResult _ | .releasePlanFinalize, .releaseFinalize _
  | .storyApproveRelease, .approveRelease _ | .storyRequestAcceptance, .requestAcceptance _
  | .storyRequestCompletion, .requestCompletion _ | .taskRequestCompletion, .requestCompletion _
  | .systemBindOperatorRole, .operatorRole _ | .systemConfigureContinuity, .continuityConfigure _
  | .systemRequestQuiescence, .quiescence _ | .systemRecordSuspended, .suspended _
  | .systemBeginReconciliation, .reconciliationStart _
  | .systemRecordUnexpectedOutage, .unexpectedOutage _ | .systemResume, .resume _
  | .taskAcquireOwnership, .ownership _ | .taskReleaseOwnership, .ownership _
  | .taskActivate, .ownership _ | .taskHandoff, .reassignment _
  | .taskForceReassign, .reassignment _ | .taskAuthorizeQualifiedAssignment, .qualifiedAssignment _
  | .taskBindOperationalScope, .operationalScope _ | .taskBindWorkBudget, .taskWorkBudget _
  | .taskBindWorkProfile, .workProfile _ | .taskDispatch, .taskDispatch _
  | .variantGroupOpen, .variantOpen _ | .variantGroupSubmitCandidate, .variantCandidate _
  | .variantGroupRecordComparison, .variantComparison _ | .variantGroupSelect, .variantSelection _
  | .workBudgetCreate, .workBudget _ | .workBudgetAmend, .workBudget _
  | .workInvocationAuthorize, .invocationAuthorization _ | .workInvocationClaim, .invocationClaim _
  | .workInvocationRecordStarted, .invocationStart _
  | .workInvocationRecordTerminal, .invocationTerminal _
  | .workInvocationRequestCancellation, .invocationCancel _
  | .workInvocationExpire, .invocationExpire _ | .workCreateSuccessor, .createSuccessor _
  | .workReopen, .reopen _ | .storyCreate, .unread _ | .storyAuthorize, .unread _
  | .storyBeginPlanning, .unread _ | .storyActivate, .unread _ | .taskCreate, .unread _
  | .taskMarkReady, .unread _ | .workBlock, .unread _ | .workUnblock, .unread _
  | .workClose, .unread _ | .projectionRecordFault, .unread _ | .workflowCreate, .unread _
  | .workflowProposeWork, .unread _ | .workflowRecordCheckpoint, .unread _
  | .workflowRecordStageResult, .unread _ => true
  | _, _ => false

/-- The constraints of the payload schemas that the execution registry and the reviews depend
on. -/
def Payload.hasFormat : Payload → Bool
  | .executionRegister value =>
    value.actorFQN.valid && value.executionID.valid && decide (1 ≤ value.fencingEpoch.value)
  | .executionReplace value =>
    value.actorFQN.valid && value.priorExecutionID.valid && value.newExecutionID.valid &&
      decide (2 ≤ value.newFencingEpoch.value)
  | .reviewOpen value => !value.branches.isEmpty && value.requiredBranchIDs.isEmpty
  | _ => true

/-- The other constraints of the payload schemas: formats, bounds and the fields that the
kernel does not read.  The kernel repeats those it relies on. -/
structure Catalogue where
  fields : CommandType → Payload → String → Bool

inductive CatalogueError where
  | unknownCommand | unsupportedVersion | invalidTarget | invalidPayload

def Catalogue.resolveCommand (catalogue : Catalogue) (command : KernelCommand) :
    Except CatalogueError CommandDefinition := do
  let definition ← demand (commandEntry command.commandType) .unknownCommand
  refuse (definition.version != command.commandVersion) .unsupportedVersion
  refuse (!definition.targetKinds.contains command.target.kind) .invalidTarget
  refuse (!(command.payload.hasFormOf command.commandType &&
    command.payload.hasFormat &&
    catalogue.fields command.commandType command.payload command.unreadPayload))
    .invalidPayload
  return definition

theorem Catalogue.resolveCommand_ok {catalogue : Catalogue} {command : KernelCommand}
    (resolved : catalogue.resolveCommand command = .ok definition) :
    commandEntry command.commandType = some definition ∧
      command.target.kind ∈ definition.targetKinds ∧
      command.payload.hasFormOf command.commandType = true ∧
      command.payload.hasFormat = true := by
  simp [resolveCommand] at resolved
  grind

theorem commandEntry_workBudget (listed : commandEntry commandType = some definition)
    (kind : .workBudget ∈ definition.targetKinds) :
    definition.eventTypes = [.workBudgetCreated] ∨
      definition.eventTypes = [.workBudgetAmended] := by
  cases commandType <;> simp only [commandEntry, entry, Option.some.injEq, reduceCtorEq] at listed
  all_goals subst listed; simp_all

end Tekroo.Kernel
