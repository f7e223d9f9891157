import Tekroo.Kernel.Policy.Operator

namespace Tekroo.Kernel

open Checked

/-! # Policy of the other commands

One definition per branch of `validateCommandPolicy`.
-/

/-- `WorkRiskProfileFromPayload` -/
def WorkRiskProfile.checked (profile : WorkRiskProfile) : Option WorkRiskProfile :=
  if profile.valid then some profile else none

/-- `QualifiedAssignmentAuthorizationFromPayload` -/
def QualifiedAssignmentAuthorization.authorizedBy (value : QualifiedAssignmentAuthorization)
    (eventID : UUIDv7) : Option QualifiedAssignmentAuthorization :=
  let authorization := { value with authorizationEventID := eventID }
  if authorization.valid then some authorization else none

variable (command : KernelCommand) (snapshot : Snapshot) (context : DecisionContext)

def bindWorkProfilePolicy :
    Payload → Except Refusal Unit
  | .workProfile value => do
    refuse ((command.authority.kind != .policy && command.authority.kind != .human) ||
      !evidenceFieldMatches value.classificationEvidenceIDs command.evidenceRefs)
      .unauthorized
    let state ← demand snapshot.state .unauthorized
    let profile ← demand value.checked .invalidPayload
    match planWorkProfileBinding state profile (snapshot.workProfiles.lookup command.target) with
    | some reason => .error ⟨.rejectedConflict, reason⟩
    | none => .ok ()
  | _ => .error .invalidPayload

def profileBound (task : AggregateRef) (binding : WorkProfileBinding) : Bool :=
  (snapshot.workProfiles.lookup task).any fun profile =>
    profile.valid && profile.profile.binding == binding

def authorizeAssignmentPolicy : Payload → Except Refusal Unit
  | .qualifiedAssignment value => do
    let authorization ← demand (value.authorizedBy context.eventID) .revisionConflict
    let state ← demand snapshot.state .revisionConflict
    let profile ← demand (snapshot.workProfiles.lookup command.target) .revisionConflict
    refuse (authorization.taskID != command.target.id ||
      authorization.expectedTaskRevision != snapshot.revision ||
      !authorization.workProfile.taskBindingMatches state || !profile.valid ||
      profile.profile.binding != authorization.workProfile ||
      authorization.requiredDecisionRoute != profile.profile.minimumDecisionRoute ||
      !payloadEvidenceMatches command) .revisionConflict
    refuse (snapshot.currentExecutions.lookup authorization.selectedActorFQN !=
      some authorization.selectedExecution) .staleExecution
  | _ => .error .invalidPayload

def dispatchPolicy :
    Payload → Except Refusal Unit
  | .taskDispatch destination => do
    let authorization ←
      demand (snapshot.qualifiedAssignments.lookup command.target) .transitionPolicy
    let state ← demand snapshot.state .transitionPolicy
    refuse (!authorization.valid ||
      authorization.expectedTaskRevision + 1 != snapshot.revision ||
      !authorization.workProfile.taskBindingMatches state ||
      !profileBound snapshot command.target authorization.workProfile ||
      destination != authorization.selectedActorFQN.text ||
      !containsDagParent command authorization.authorizationEventID .causal) .transitionPolicy
    refuse (snapshot.currentExecutions.lookup authorization.selectedActorFQN !=
      some authorization.selectedExecution) .staleExecution
  | _ => .error .invalidPayload

def openVariantGroupPolicy : Payload → Except Refusal Unit
  | .variantOpen value => do
    refuse (command.authority.kind != .policy || !payloadEvidenceMatches command) .unauthorized
    let group ← demand (value.snapshot context.eventID) .revisionConflict
    let taskRef : AggregateRef := ⟨.task, value.taskID⟩
    let task ← demand ((snapshot.related.lookup taskRef).bind (·.state)) .revisionConflict
    let profile ← demand (snapshot.workProfiles.lookup taskRef) .revisionConflict
    refuse (value.variantGroupID != command.target.id ||
      task.lifecycleEpoch != value.workProfile.lifecycleEpoch ||
      task.scopeRevision != value.workProfile.scopeRevision ||
      profile.profile.binding != value.workProfile ||
      !containsAggregatePrecondition command taskRef) .revisionConflict
    refuse (snapshot.variantGroupKeys.lookup group.key).isSome .revisionConflict
  | _ => .error .invalidPayload

def variantEventType : CommandType → Option EventType
  | .variantGroupSubmitCandidate => some .variantGroupCandidateSubmitted
  | .variantGroupRecordComparison => some .variantGroupComparisonRecorded
  | .variantGroupSelect => some .variantGroupSelected
  | _ => none

def variantStepAuthorized (group : VariantGroupSnapshot) : Bool :=
  match command.commandType, command.payload with
  | .variantGroupSubmitCandidate, .variantCandidate value =>
    (value.candidate context.eventID).any fun candidate =>
      command.actorFQN == some candidate.actorFQN &&
        command.execution == some candidate.execution
  | .variantGroupSubmitCandidate, _ => false
  | .variantGroupRecordComparison, _ => command.authority == group.policy.comparator
  | .variantGroupSelect, _ => command.authority == group.policy.adjudicator
  | _, _ => true

def variantTransitionPolicy (eventType : EventType) : Except Refusal Unit := do
  let group ← demand (snapshot.variantGroups.lookup command.target) .revisionConflict
  refuse (group.revision != snapshot.revision || !payloadEvidenceMatches command)
    .revisionConflict
  refuse (!variantStepAuthorized command context group) .unauthorized
  refuse (group.applyVariantEvent (.trial eventType context.eventID command.target
    (snapshot.revision + 1) context.decidedAt command.payload)).isNone .transitionPolicy

def approveReleasePolicy :
    Payload → Except Refusal Unit
  | .approveRelease value => do
    let state ← demand snapshot.state .releaseGateFailed
    refuse (value.storyID != command.target.id || value.author != command.authority ||
      state.phase != .completed || state.lifecycleEpoch != value.lifecycleEpoch ||
      snapshot.revision != value.expectedStoryRevision || !payloadEvidenceMatches command)
      .releaseGateFailed
  | _ => .error .releaseGateFailed

/-- The approval is looked up by its event id among all accepted events; only its type is
compared. -/
def createReleasePlanPolicy : Payload → Except Refusal Unit
  | .releaseCreate value => do
    let plan ← demand (value.snapshot context.eventID) .invalidPayload
    refuse (command.authority.kind != .policy || value.releasePlanID != command.target.id ||
      !payloadEvidenceMatches command) .invalidPayload
    let story ← demand (snapshot.related.lookup plan.story) .releaseGateFailed
    let state ← demand story.state .releaseGateFailed
    refuse (!story.present || story.revision != value.expectedStoryRevision ||
      state.lifecycleEpoch != value.storyLifecycleEpoch || state.phase != .completed ||
      !containsAggregatePrecondition command plan.story) .releaseGateFailed
    let approval ←
      demand (snapshot.acceptedEvents value.authorApprovalEventID) .releaseGateFailed
    refuse (approval.eventType != .storyReleaseApproved ||
      !containsDagParent command value.authorApprovalEventID .response) .releaseGateFailed
    refuse (snapshot.releasePlanKeys.lookup value.key).isSome
      ⟨.rejectedConflict, "RELEASE_ALREADY_EXISTS"⟩
  | _ => .error .invalidPayload

def releaseEventTypeForCommand : CommandType → Option EventType
  | .releasePlanRecordQualification => some .releasePlanQualificationRecorded
  | .releasePlanRequestExecution => some .releasePlanExecutionRequested
  | .releasePlanRecordResult => some .releasePlanResultRecorded
  | .releasePlanRecordReconciliation => some .releasePlanReconciliationRecorded
  | .releasePlanFinalize => some .releasePlanFinalized
  | _ => none

def releaseTransitionPolicy (eventType : EventType) : Except Refusal Unit := do
  let plan ← demand (snapshot.releasePlans.lookup command.target)
    ⟨.rejectedConflict, "RELEASE_NOT_FOUND"⟩
  refuse (plan.revision != snapshot.revision || !payloadEvidenceMatches command)
    ⟨.rejectedConflict, "RELEASE_NOT_FOUND"⟩
  refuse (plan.applyReleaseEvent (.trial eventType context.eventID command.target
    (snapshot.revision + 1) context.decidedAt command.payload)).isNone .releaseGateFailed

/-- The plan is compared with the story, its own revision and its finalization; the epoch it
was made for is not. -/
def requestAcceptancePolicy :
    Payload → Except Refusal Unit
  | .requestAcceptance value => do
    refuse (!payloadEvidenceMatches command) .invalidPayload
    let planRef : AggregateRef := ⟨.releasePlan, value.releasePlanID⟩
    let plan ← demand (snapshot.releasePlans.lookup planRef) .releaseGateFailed
    refuse (plan.story != command.target || plan.revision != value.releasePlanRevision ||
      plan.finalizationEventID != value.releaseFinalizedEventID ||
      plan.plan.mode != value.releaseMode || !containsAggregatePrecondition command planRef ||
      !containsDagParent command value.releaseFinalizedEventID .response) .releaseGateFailed
    refuse (value.releaseMode == .code &&
      (plan.state != .readyForAcceptance ||
        plan.plan.expectedQualifiedTree != value.qualifiedTreeDigest ||
        plan.providerTreeDigest != value.qualifiedTreeDigest)) .releaseGateFailed
    refuse (value.releaseMode == .notRequired && plan.state != .notRequired)
      .releaseGateFailed
  | _ => .error .invalidPayload

def openEscalationPolicy : Payload → Except Refusal Unit
  | .escalationOpen value => do
    refuse (command.authority.kind != .policy || !payloadEvidenceMatches command) .unauthorized
    let escalation ← demand value.snapshot .invalidPayload
    refuse (escalation.escalationID != command.target.id ||
      !decide (context.decidedAt < escalation.deadlineAt) ||
      !causalPathMatchesCommand escalation.causalPathEventIDs command.causation)
      .invalidPayload
    let related ← demand (snapshot.related.lookup escalation.subject) .staleEpoch
    let state ← demand related.state .staleEpoch
    refuse (!related.present || related.revision != escalation.expectedSubjectRevision ||
      state.lifecycleEpoch != escalation.subjectLifecycleEpoch || terminalPhase state.phase ||
      !containsAggregatePrecondition command escalation.subject) .staleEpoch
    refuse (snapshot.escalationKeys.lookup escalation.key).isSome
      ⟨.rejectedConflict, "ESCALATION_ALREADY_EXISTS"⟩
  | _ => .error .invalidPayload

def resolveEscalationPolicy : Payload → Except Refusal Unit
  | .escalationResolve value => do
    let notFound : Refusal := ⟨.rejectedConflict, "ESCALATION_NOT_FOUND"⟩
    refuse (!payloadEvidenceMatches command) .invalidEvidence
    let escalation ← demand (snapshot.escalations.lookup command.target) notFound
    let transition ← demand value.transition notFound
    refuse (escalation.escalationID != command.target.id ||
      escalation.revision != snapshot.revision ||
      transition.escalationID != command.target.id ||
      transition.expectedRevision != snapshot.revision ||
      transition.subject != escalation.subject ||
      transition.subjectLifecycleEpoch != escalation.subjectLifecycleEpoch) notFound
    let related ← demand (snapshot.related.lookup escalation.subject) .staleEpoch
    let state ← demand related.state .staleEpoch
    refuse (!related.present || state.lifecycleEpoch != escalation.subjectLifecycleEpoch ||
      terminalPhase state.phase || !containsAggregatePrecondition command escalation.subject ||
      !containsDagParent command escalation.openingEventID .response) .staleEpoch
    match evaluateEscalation escalation
        { transition with authority := command.authority, decidedAt := context.decidedAt } with
    | some reason => .error ⟨.rejectedPolicy, reason⟩
    | none => .ok ()
  | _ => .error .invalidEvidence

def acceptedFinalizedReview (value : RequestCompletionPayload) (subject : AggregateRef)
    (snapshot : Snapshot) : Bool :=
  decide (0 < value.completionReviewRevision) && decide (0 < value.branchPolicyRevision) &&
    decide (0 < value.criteriaRevision) && decide (0 < value.lifecycleEpoch) &&
    value.completionReviewID.valid && value.validationFinalizedEventID.valid &&
    (snapshot.reviews.lookup ⟨.completionReview, value.completionReviewID⟩).any (fun review =>
      review.subject == subject && review.lifecycleEpoch == value.lifecycleEpoch &&
        review.criteriaRevision == value.criteriaRevision &&
        review.branchPolicyRevision == value.branchPolicyRevision &&
        review.reviewRevision == value.completionReviewRevision &&
        review.finalization.any fun finalization =>
          finalization.eventID == value.validationFinalizedEventID &&
            finalization.reviewRevision == value.completionReviewRevision &&
            finalization.terminalStatus == .pass) &&
    (snapshot.acceptedEvents value.validationFinalizedEventID).any (fun event =>
      !event.quarantined && event.eventType == .completionReviewFinalized)

def criteriaCurrent (criteriaRevision : Nat) : Bool :=
  let required := snapshot.authorization.requirements.completionCriteriaRevision
  decide (0 < criteriaRevision) && (required == 0 || criteriaRevision == required)

def requestTaskCompletionPolicy :
    Payload → Except Refusal Unit
  | .requestCompletion value => do
    refuse (!payloadEvidenceMatches command) .invalidEvidence
    refuse (!criteriaCurrent snapshot value.criteriaRevision) .criteriaConflict
    refuse (!value.unresolvedExceptions.isEmpty) ⟨.rejectedPolicy, "UNRESOLVED_EXCEPTIONS"⟩
    refuse (!acceptedFinalizedReview value command.target snapshot)
      ⟨.rejectedPolicy, "REVIEW_NOT_FINALIZED"⟩
    refuse (command.authority.kind == .actor &&
      (snapshot.state.bind (·.ownership.ownerFQN)).any
        (fun owner => command.actorFQN != some owner)) .unauthorized
  | _ => .error .invalidEvidence

def requestStoryCompletionPolicy :
    Payload → Except Refusal Unit
  | .requestCompletion value => do
    refuse (!payloadEvidenceMatches command) .invalidEvidence
    refuse (!criteriaCurrent snapshot value.criteriaRevision) .criteriaConflict
    refuse (!acceptedFinalizedReview value command.target snapshot)
      ⟨.rejectedPolicy, "REVIEW_NOT_FINALIZED"⟩
    refuse (command.preconditions.any fun precondition =>
      precondition.aggregate.kind == .task &&
        !((snapshot.related.lookup precondition.aggregate).bind (·.state)).any
          (fun task => task.phase == .completed))
      ⟨.rejectedPolicy, "DEPENDENCY_NOT_READY"⟩
  | _ => .error .invalidEvidence

def variantSelectionBacks (review : CompletionReviewSnapshot) : Bool :=
  review.variantGroupID.all fun groupID =>
    let groupRef : AggregateRef := ⟨.variantGroup, groupID⟩
    (snapshot.variantGroups.lookup groupRef).any fun group =>
      group.state == .terminal && containsAggregatePrecondition command groupRef &&
        group.policy.workProfile == review.workProfile &&
        group.selection.any fun selection =>
          selection.outcome == .selectCandidate &&
            containsDagParent command selection.eventID .response &&
            selection.selectedCandidateID.any fun candidateID =>
              (group.candidates.lookup candidateID).any fun candidate =>
                candidate.artifactDigest == review.candidateArtifactDigest

def openReviewPolicy :
    Payload → Except Refusal Unit
  | .reviewOpen value => do
    refuse (command.authority.kind != .policy) .unauthorized
    refuse (!value.subject.valid || value.lifecycleEpoch == 0) .invalidPayload
    let state ← demand ((snapshot.related.lookup value.subject).bind (·.state)) .staleEpoch
    let review ← demand value.review .staleEpoch
    refuse (state.lifecycleEpoch != value.lifecycleEpoch || state.phase != .active ||
      !containsAggregatePrecondition command value.subject ||
      review.scopeRevision != state.scopeRevision) .staleEpoch
    refuse (value.subject.kind == .task &&
      !profileBound snapshot value.subject review.workProfile)
      ⟨.rejectedConflict, "STALE_WORK_PROFILE"⟩
    refuse (!variantSelectionBacks command snapshot review)
      ⟨.rejectedPolicy, "VALIDATION_INCOMPLETE"⟩
    let key ← demand value.key .invalidPayload
    refuse (snapshot.openReviews.lookup key).isSome
      ⟨.rejectedConflict, "REVIEW_ALREADY_OPEN"⟩
  | _ => .error .invalidPayload

def ReviewBranchResult.attributedTo (result : ReviewBranchResult) (command : KernelCommand)
    (context : DecisionContext) : ReviewBranchResult :=
  { result with
    authority := command.authority
    eventID := context.eventID
    decidedAt := context.decidedAt
    actorFQN := command.actorFQN
    execution := command.execution }

def recordReviewResultPolicy : Payload → Except Refusal Unit
  | .reviewResult value => do
    refuse (!payloadEvidenceMatches command) .invalidEvidence
    let (reviewID, policyRevision, branchResult) ← demand value.branchResult .criteriaConflict
    let review ← demand (snapshot.reviews.lookup command.target) .criteriaConflict
    refuse (reviewID != command.target.id || review.branchPolicyRevision != policyRevision)
      .criteriaConflict
    let result := branchResult.attributedTo command context
    if !review.branches.keys.isEmpty then
      match review.boundedReviewResultReason result with
      | some reason => .error ⟨.rejectedConflict, reason⟩
      | none => .ok ()
    else
      refuse (!(review.applyReviewBranchResult result).2)
        ⟨.rejectedConflict, "VALIDATION_INCOMPLETE"⟩
  | _ => .error .invalidEvidence

def finalizeReviewPolicy : Payload → Except Refusal Unit
  | .reviewFinalize value => do
    let incomplete : Refusal := ⟨.rejectedConflict, "VALIDATION_INCOMPLETE"⟩
    refuse (command.authority.kind != .policy || !payloadEvidenceMatches command) .unauthorized
    let review ← demand (snapshot.reviews.lookup command.target) incomplete
    refuse (value.reviewID != command.target.id) incomplete
    refuse (!(review.applyReviewFinalization context.eventID value).2) incomplete
  | _ => .error .invalidPayload

def reopenPolicy :
    Payload → Except Refusal Unit
  | .reopen value => do
    let closed : Refusal := ⟨.rejectedClosed, "STALE_LIFECYCLE_EPOCH"⟩
    refuse (!payloadEvidenceMatches command) .invalidEvidence
    let state ← demand snapshot.state closed
    refuse (value.priorEpoch == 0 || value.newScopeRevision == 0 ||
      value.priorEpoch != state.lifecycleEpoch ||
      decide (value.newScopeRevision ≤ state.scopeRevision)) closed
  | _ => .error .invalidEvidence

def createSuccessorPolicy :
    Payload → Except Refusal Unit
  | .createSuccessor ids =>
    refuse (!ids.all UUIDv7.valid || !canonicalSuccessorIDs ids ||
      containsUUID ids command.target.id ||
      !snapshot.state.any (fun state => terminalPhase state.phase))
      ⟨.rejectedPolicy, "INVALID_SUCCESSOR"⟩
  | _ => .error .invalidPayload

def correctRecordPolicy :
    Payload → Except Refusal Unit
  | .correction value => do
    refuse (!payloadEvidenceMatches command) .invalidEvidence
    refuse (!value.targetEventID.valid ||
      !(snapshot.acceptedEvents value.targetEventID).any (fun event => !event.quarantined))
      ⟨.rejectedPolicy, "CORRECTION_TARGET_NOT_FOUND"⟩
  | _ => .error .invalidEvidence

/-- The `switch` of `validateCommandPolicy`. -/
def commandTypePolicy : Except Refusal Unit :=
  match command.commandType with
  | .taskBindWorkProfile => bindWorkProfilePolicy command snapshot command.payload
  | .taskAuthorizeQualifiedAssignment =>
    authorizeAssignmentPolicy command snapshot context command.payload
  | .taskDispatch => dispatchPolicy command snapshot command.payload
  | .variantGroupOpen => openVariantGroupPolicy command snapshot context command.payload
  | .storyApproveRelease => approveReleasePolicy command snapshot command.payload
  | .releasePlanCreate => createReleasePlanPolicy command snapshot context command.payload
  | .escalationOpen => openEscalationPolicy command snapshot context command.payload
  | .escalationResolve => resolveEscalationPolicy command snapshot context command.payload
  | .taskRequestCompletion => requestTaskCompletionPolicy command snapshot command.payload
  | .storyRequestCompletion => requestStoryCompletionPolicy command snapshot command.payload
  | .storyRequestAcceptance => requestAcceptancePolicy command snapshot command.payload
  | .completionReviewOpen => openReviewPolicy command snapshot command.payload
  | .completionReviewRecordResult =>
    recordReviewResultPolicy command snapshot context command.payload
  | .completionReviewFinalize => finalizeReviewPolicy command snapshot context command.payload
  | .workReopen => reopenPolicy command snapshot command.payload
  | .workCreateSuccessor => createSuccessorPolicy command snapshot command.payload
  | .recordCorrect => correctRecordPolicy command snapshot command.payload
  | commandType =>
    match variantEventType commandType, releaseEventTypeForCommand commandType with
    | some eventType, _ => variantTransitionPolicy command snapshot context eventType
    | none, some eventType => releaseTransitionPolicy command snapshot context eventType
    | none, none => .ok ()

def validateCommandPolicy : Except Refusal Unit := do
  refuse command.payload.isMalformed .invalidPayload
  refuse (commandRequiresLifecycleEpoch command &&
    command.payload.lifecycleEpoch.any (fun epoch =>
      epoch == 0 || command.expectedLifecycleEpoch != some epoch)) .staleEpoch
  match validateOperatorHumanContinuityCommand command snapshot context with
  | some result => result
  | none => commandTypePolicy command snapshot context

section Accepted

variable {command : KernelCommand} {snapshot : Snapshot} {context : DecisionContext}
  {payload : Payload}

theorem validateCommandPolicy_ok
    (accepted : validateCommandPolicy command snapshot context = .ok ())
    (unhandled : validateOperatorHumanContinuityCommand command snapshot context = none) :
    commandTypePolicy command snapshot context = .ok () := by
  simp only [validateCommandPolicy, chain_ok, unhandled] at accepted
  exact accepted.2.2

theorem validateCommandPolicy_epoch {epoch : Nat}
    (accepted : validateCommandPolicy command snapshot context = .ok ())
    (required : commandRequiresLifecycleEpoch command = true)
    (carried : command.payload.lifecycleEpoch = some epoch) :
    command.expectedLifecycleEpoch = some epoch := by
  simp only [validateCommandPolicy, chain_ok, required, carried, Bool.true_and, Option.any_some,
    tests_iff] at accepted
  exact accepted.2.1.2

variable {eventType : EventType}

theorem commandTypePolicy_release
    (moves : releaseEventTypeForCommand command.commandType = some eventType) :
    operatorCommandType command.commandType = false ∧
      commandTypePolicy command snapshot context =
        releaseTransitionPolicy command snapshot context eventType := by
  unfold releaseEventTypeForCommand at moves
  split at moves <;> cases moves
  all_goals
    next type =>
    simp only [commandTypePolicy, type, variantEventType, releaseEventTypeForCommand]
    exact ⟨rfl, trivial⟩

theorem commandTypePolicy_variant (moves : variantEventType command.commandType = some eventType) :
    operatorCommandType command.commandType = false ∧
      commandTypePolicy command snapshot context =
        variantTransitionPolicy command snapshot context eventType := by
  unfold variantEventType at moves
  split at moves <;> cases moves
  all_goals
    next type =>
    simp only [commandTypePolicy, type, variantEventType]
    exact ⟨rfl, trivial⟩

theorem authorizeAssignmentPolicy_ok
    (accepted : authorizeAssignmentPolicy command snapshot context payload = .ok ()) :
    ∃ value authorization, payload = .qualifiedAssignment value ∧
      value.authorizedBy context.eventID = some authorization ∧
      authorization.taskID = command.target.id ∧
      authorization.expectedTaskRevision = snapshot.revision ∧
      snapshot.currentExecutions.lookup value.selectedActorFQN = some value.selectedExecution := by
  cases payload with
  | qualifiedAssignment value =>
    simp [authorizeAssignmentPolicy] at accepted
    obtain ⟨authorization, authorized, state, _, profile, _, checked, current⟩ := accepted
    refine ⟨value, authorization, rfl, authorized, checked.1.1.1.1.1.1, checked.1.1.1.1.1.2, ?_⟩
    simp only [QualifiedAssignmentAuthorization.authorizedBy] at authorized
    split at authorized
    · cases authorized; exact current
    · cases authorized
  | _ => simp [authorizeAssignmentPolicy] at accepted

theorem dispatchPolicy_ok (accepted : dispatchPolicy command snapshot payload = .ok ()) :
    ∃ authorization, snapshot.qualifiedAssignments.lookup command.target = some authorization ∧
      snapshot.currentExecutions.lookup authorization.selectedActorFQN =
        some authorization.selectedExecution := by
  cases payload <;> simp [dispatchPolicy] at accepted
  obtain ⟨authorization, found, state, _, _, current⟩ := accepted
  exact ⟨authorization, found, current⟩

theorem bindWorkProfilePolicy_ok
    (accepted : bindWorkProfilePolicy command snapshot payload = .ok ()) :
    ∃ value state profile, payload = .workProfile value ∧ snapshot.state = some state ∧
      value.checked = some profile ∧
      planWorkProfileBinding state profile (snapshot.workProfiles.lookup command.target) =
        none := by
  cases payload <;> simp [bindWorkProfilePolicy] at accepted
  obtain ⟨_, state, found, profile, checked, planned⟩ := accepted
  split at planned
  · cases planned
  · next bound => exact ⟨_, state, profile, rfl, found, checked, bound⟩

theorem openVariantGroupPolicy_ok
    (accepted : openVariantGroupPolicy command snapshot context payload = .ok ()) :
    ∃ value group, payload = .variantOpen value ∧
      value.snapshot context.eventID = some group ∧ value.variantGroupID = command.target.id ∧
      snapshot.variantGroupKeys.lookup group.key = none := by
  cases payload <;> simp [openVariantGroupPolicy] at accepted
  obtain ⟨_, group, opened, _, _, _, _, checked, absent⟩ := accepted
  exact ⟨_, group, rfl, opened, checked.1.1.1.1, by simpa [Option.isSome_iff_ne_none] using absent⟩

theorem variantTransitionPolicy_ok
    (accepted : variantTransitionPolicy command snapshot context eventType = .ok ()) :
    ∃ group, snapshot.variantGroups.lookup command.target = some group ∧
      group.revision = snapshot.revision ∧
      (group.applyVariantEvent (.trial eventType context.eventID command.target
        (snapshot.revision + 1) context.decidedAt command.payload)).isSome := by
  simp [variantTransitionPolicy] at accepted
  obtain ⟨group, found, ⟨revision, _⟩, _, moved⟩ := accepted
  exact ⟨group, found, revision, by simpa [Option.isSome_iff_ne_none] using moved⟩

theorem approveReleasePolicy_ok
    (accepted : approveReleasePolicy command snapshot payload = .ok ()) :
    ∃ state, snapshot.state = some state := by
  cases payload <;> simp [approveReleasePolicy] at accepted
  obtain ⟨state, found, _⟩ := accepted
  exact ⟨state, found⟩

theorem createReleasePlanPolicy_ok
    (accepted : createReleasePlanPolicy command snapshot context payload = .ok ()) :
    ∃ value plan story state approval, payload = .releaseCreate value ∧
      value.snapshot context.eventID = some plan ∧ value.releasePlanID = command.target.id ∧
      snapshot.related.lookup plan.story = some story ∧ story.state = some state ∧
      state.lifecycleEpoch = value.storyLifecycleEpoch ∧
      snapshot.acceptedEvents value.authorApprovalEventID = some approval ∧
      approval.eventType = .storyReleaseApproved ∧
      snapshot.releasePlanKeys.lookup value.key = none := by
  cases payload <;> simp [createReleasePlanPolicy] at accepted
  obtain ⟨plan, made, ⟨⟨_, id⟩, _⟩, story, related, state, found, checked, approval, approved,
    ⟨type, _⟩, absent⟩ := accepted
  exact ⟨_, plan, story, state, approval, rfl, made, id, related, found, checked.1.1.2, approved,
    type, by simpa [Option.isSome_iff_ne_none] using absent⟩

theorem releaseTransitionPolicy_ok
    (accepted : releaseTransitionPolicy command snapshot context eventType = .ok ()) :
    ∃ plan, snapshot.releasePlans.lookup command.target = some plan ∧
      plan.revision = snapshot.revision ∧
      (plan.applyReleaseEvent (.trial eventType context.eventID command.target
        (snapshot.revision + 1) context.decidedAt command.payload)).isSome := by
  simp [releaseTransitionPolicy] at accepted
  obtain ⟨plan, found, ⟨revision, _⟩, moved⟩ := accepted
  exact ⟨plan, found, revision, by simpa [Option.isSome_iff_ne_none] using moved⟩

theorem requestAcceptancePolicy_ok
    (accepted : requestAcceptancePolicy command snapshot payload = .ok ()) :
    ∃ value plan, payload = .requestAcceptance value ∧
      snapshot.releasePlans.lookup ⟨.releasePlan, value.releasePlanID⟩ = some plan ∧
      plan.story = command.target ∧
      containsAggregatePrecondition command ⟨.releasePlan, value.releasePlanID⟩ = true := by
  cases payload <;> simp [requestAcceptancePolicy] at accepted
  obtain ⟨_, plan, found, checked, _⟩ := accepted
  exact ⟨_, plan, rfl, found, checked.1.1.1.1.1, checked.1.2⟩

theorem openEscalationPolicy_ok
    (accepted : openEscalationPolicy command snapshot context payload = .ok ()) :
    ∃ value escalation, payload = .escalationOpen value ∧ value.snapshot = some escalation ∧
      escalation.escalationID = command.target.id ∧
      snapshot.escalationKeys.lookup escalation.key = none := by
  cases payload <;> simp [openEscalationPolicy] at accepted
  obtain ⟨_, escalation, opened, ⟨⟨id, _⟩, _⟩, _, _, _, _, _, absent⟩ := accepted
  exact ⟨_, escalation, rfl, opened, id, by simpa [Option.isSome_iff_ne_none] using absent⟩

theorem resolveEscalationPolicy_ok
    (accepted : resolveEscalationPolicy command snapshot context payload = .ok ()) :
    ∃ value escalation transition, payload = .escalationResolve value ∧
      snapshot.escalations.lookup command.target = some escalation ∧
      value.transition = some transition ∧ escalation.escalationID = command.target.id ∧
      escalation.revision = snapshot.revision ∧ transition.escalationID = command.target.id ∧
      transition.expectedRevision = snapshot.revision ∧
      transition.subject = escalation.subject ∧
      transition.subjectLifecycleEpoch = escalation.subjectLifecycleEpoch ∧
      evaluateEscalation escalation
        { transition with authority := command.authority, decidedAt := context.decidedAt } =
        none := by
  cases payload <;> simp [resolveEscalationPolicy] at accepted
  obtain ⟨_, escalation, found, transition, parsed, ⟨⟨⟨⟨⟨id, revision⟩, sameID⟩, expected⟩,
    subject⟩, epoch⟩, _, _, _, _, _, decided⟩ := accepted
  split at decided
  · cases decided
  · next resolved =>
    exact ⟨_, escalation, transition, rfl, found, parsed, id, revision, sameID, expected,
      subject, epoch, resolved⟩

theorem openReviewPolicy_ok
    (accepted : openReviewPolicy command snapshot payload = .ok ()) :
    ∃ value key review related state, payload = .reviewOpen value ∧ value.key = some key ∧
      snapshot.openReviews.lookup key = none ∧ value.review = some review ∧
      snapshot.related.lookup value.subject = some related ∧ related.state = some state ∧
      review.scopeRevision = state.scopeRevision := by
  cases payload with
  | reviewOpen value =>
    simp only [openReviewPolicy, chain_ok, Option.bind_eq_some_iff] at accepted
    obtain ⟨_, _, state, ⟨related, found, stored⟩, review, opened, checked, _, _, key, keyed,
      absent⟩ := accepted
    simp only [tests_iff] at checked
    exact ⟨value, key, review, related, state, rfl, keyed,
      by simpa [Option.isSome_iff_ne_none] using absent, opened, found, stored, checked.2⟩
  | _ => simp [openReviewPolicy] at accepted

theorem acceptedFinalizedReview_ok {value : RequestCompletionPayload} {subject : AggregateRef}
    (accepted : acceptedFinalizedReview value subject snapshot = true) :
    ∃ review finalization,
      snapshot.reviews.lookup ⟨.completionReview, value.completionReviewID⟩ = some review ∧
      review.subject = subject ∧ review.lifecycleEpoch = value.lifecycleEpoch ∧
      review.finalization = some finalization ∧ finalization.terminalStatus = .pass := by
  simp only [acceptedFinalizedReview, tests_iff, Option.any_eq_true] at accepted
  obtain ⟨⟨_, review, found, ⟨⟨⟨⟨subject, epoch⟩, _⟩, _⟩, _⟩, finalization, finalized, _,
    passed⟩, _⟩ := accepted
  exact ⟨review, finalization, found, subject, epoch, finalized, passed⟩

theorem requestCompletionPolicy_ok
    (type : command.commandType = .taskRequestCompletion ∨
      command.commandType = .storyRequestCompletion)
    (accepted : commandTypePolicy command snapshot context = .ok ()) :
    ∃ value, command.payload = .requestCompletion value ∧
      acceptedFinalizedReview value command.target snapshot = true := by
  rcases type with type | type
  · simp only [commandTypePolicy, type] at accepted
    cases payload : command.payload with
    | requestCompletion value =>
      simp only [payload, requestTaskCompletionPolicy, chain_ok] at accepted
      exact ⟨value, rfl, by simpa using accepted.2.2.2.1⟩
    | _ => simp [payload, requestTaskCompletionPolicy] at accepted
  · simp only [commandTypePolicy, type] at accepted
    cases payload : command.payload with
    | requestCompletion value =>
      simp only [payload, requestStoryCompletionPolicy, chain_ok] at accepted
      exact ⟨value, rfl, by simpa using accepted.2.2.1⟩
    | _ => simp [payload, requestStoryCompletionPolicy] at accepted

theorem reopenPolicy_ok (accepted : reopenPolicy command snapshot payload = .ok ()) :
    ∃ value state, payload = .reopen value ∧ snapshot.state = some state ∧
      state.scopeRevision < value.newScopeRevision := by
  cases payload <;> simp [reopenPolicy] at accepted
  obtain ⟨_, state, found, checked⟩ := accepted
  exact ⟨_, state, rfl, found, checked.2⟩

theorem recordReviewResultPolicy_ok
    (accepted : recordReviewResultPolicy command snapshot context payload = .ok ()) :
    ∃ value reviewID policyRevision result review, payload = .reviewResult value ∧
      value.branchResult = some (reviewID, policyRevision, result) ∧
      snapshot.reviews.lookup command.target = some review ∧ reviewID = command.target.id ∧
      review.branchPolicyRevision = policyRevision ∧
      if review.branches.keys.isEmpty then
        (review.applyReviewBranchResult (result.attributedTo command context)).2 = true
      else review.boundedReviewResultReason (result.attributedTo command context) = none := by
  cases payload with
  | reviewResult value =>
    simp only [recordReviewResultPolicy, chain_ok] at accepted
    obtain ⟨_, ⟨reviewID, policyRevision, result⟩, parsed, review, found, checked, decided⟩ :=
      accepted
    simp only [tests_iff] at checked
    refine ⟨value, reviewID, policyRevision, result, review, rfl, parsed, found, checked.1,
      checked.2, ?_⟩
    cases unbounded : review.branches.keys.isEmpty with
    | true => simpa [unbounded] using decided
    | false =>
      simp only [unbounded, Bool.not_false, if_true] at decided
      split at decided
      · cases decided
      · next accepted => simpa using accepted
  | _ => simp [recordReviewResultPolicy] at accepted

end Accepted

end Tekroo.Kernel
