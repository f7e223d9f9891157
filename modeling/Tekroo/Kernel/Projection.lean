import Tekroo.Kernel.Envelope

namespace Tekroo.Kernel

/-! # Applying events to the snapshots of one aggregate -/

namespace ReleasePlanSnapshot

variable {plan next : ReleasePlanSnapshot} (snapshot : ReleasePlanSnapshot) (event : DomainEvent)

def transition : Option ReleasePlanSnapshot :=
  match event.eventType, event.payload with
  | .releasePlanQualificationRecorded, .releaseQualification value =>
    snapshot.qualify value event.eventID
  | .releasePlanExecutionRequested, .releaseAttempt value =>
    snapshot.requestExecution value event.eventID
  | .releasePlanResultRecorded, .releaseResult value =>
    snapshot.recordResult value event.eventID
  | .releasePlanReconciliationRecorded, .releaseResult value =>
    snapshot.recordReconciliation value event.eventID
  | .releasePlanFinalized, .releaseFinalize value => snapshot.finalize value event.eventID
  | _, _ => none

def applyReleaseEvent : Option ReleasePlanSnapshot :=
  if !snapshot.valid || event.aggregate.id != snapshot.plan.releasePlanID ||
      event.aggregateRevision != snapshot.revision + 1 || !event.eventID.valid ||
      event.committedAt.isZero then
    none
  else
    match snapshot.transition event with
    | none => none
    | some next =>
      let next := { next with revision := next.revision + 1 }
      if next.valid then some next else none

theorem applyReleaseOutcome_plan (result : ReleaseResult) (round : Nat) :
    (snapshot.applyReleaseOutcome result round).plan = snapshot.plan ∧
      (snapshot.applyReleaseOutcome result round).openingEventID = snapshot.openingEventID ∧
      (snapshot.applyReleaseOutcome result round).revision = snapshot.revision := by
  unfold applyReleaseOutcome
  split
  case h_4 => split <;> exact ⟨rfl, rfl, rfl⟩
  all_goals exact ⟨rfl, rfl, rfl⟩

theorem transition_plan {event : DomainEvent} (moved : plan.transition event = some next) :
    next.plan = plan.plan ∧ next.openingEventID = plan.openingEventID ∧
      next.revision = plan.revision := by
  unfold transition at moved
  split at moved
  case h_3 =>
    simp only [recordResult] at moved
    split at moved
    · cases moved
    · simp only [tests_iff] at moved
      obtain ⟨_, rfl⟩ := moved
      exact applyReleaseOutcome_plan _ _ _
  case h_4 =>
    simp only [recordReconciliation] at moved
    split at moved
    · simp only [tests_iff] at moved
      obtain ⟨_, rfl⟩ := moved
      exact applyReleaseOutcome_plan _ _ _
    · cases moved
  case h_6 => cases moved
  all_goals
    simp only [qualify, requestExecution, finalize, tests_iff] at moved
    obtain ⟨_, rfl⟩ := moved
    exact ⟨rfl, rfl, rfl⟩

theorem applyReleaseEvent_plan {event : DomainEvent}
    (moved : plan.applyReleaseEvent event = some next) :
    next.plan = plan.plan ∧ next.openingEventID = plan.openingEventID ∧
      next.revision = plan.revision + 1 := by
  unfold applyReleaseEvent at moved
  split at moved
  · cases moved
  · split at moved
    · cases moved
    · next step =>
      dsimp only at moved
      split at moved
      · cases moved
        obtain ⟨plan, eventID, revision⟩ := transition_plan step
        exact ⟨plan, eventID, congrArg (· + 1) revision⟩
      · cases moved

end ReleasePlanSnapshot

namespace VariantGroupSnapshot

variable (snapshot : VariantGroupSnapshot) (event : DomainEvent) {group next : VariantGroupSnapshot}

def transition : Option VariantGroupSnapshot :=
  match event.eventType, event.payload with
  | .variantGroupCandidateSubmitted, .variantCandidate value =>
    snapshot.submitCandidate value event.eventID event.committedAt
  | .variantGroupComparisonRecorded, .variantComparison value =>
    snapshot.recordComparison value event.eventID event.committedAt
  | .variantGroupSelected, .variantSelection value =>
    snapshot.select value event.eventID event.committedAt
  | _, _ => none

def applyVariantEvent : Option VariantGroupSnapshot :=
  if !snapshot.valid || event.aggregate.kind != .variantGroup ||
      event.aggregate.id != snapshot.policy.variantGroupID ||
      event.aggregateRevision != snapshot.revision + 1 || !event.eventID.valid then
    none
  else
    match snapshot.transition event with
    | none => none
    | some next =>
      let next := { next with revision := next.revision + 1 }
      if next.valid then some next else none

theorem transition_revision {event : DomainEvent} (moved : group.transition event = some next) :
    next.revision = group.revision := by
  unfold transition at moved
  split at moved
  · next value _ _ =>
    unfold submitCandidate at moved
    generalize value.candidate event.eventID = parsed at moved
    cases parsed with
    | none => cases moved
    | some candidate =>
      simp only [tests_iff] at moved
      obtain ⟨_, rfl⟩ := moved
      rfl
  · next value _ _ =>
    unfold recordComparison at moved
    generalize value.recorded event.eventID = parsed at moved
    cases parsed with
    | none => cases moved
    | some comparison =>
      simp only [tests_iff] at moved
      obtain ⟨_, rfl⟩ := moved
      rfl
  · simp only [select] at moved
    split at moved
    · simp only [tests_iff] at moved
      obtain ⟨_, rfl⟩ := moved
      rfl
    · cases moved
  · cases moved

theorem applyVariantEvent_revision {event : DomainEvent}
    (moved : group.applyVariantEvent event = some next) : next.revision = group.revision + 1 := by
  unfold applyVariantEvent at moved
  split at moved
  · cases moved
  · split at moved
    · cases moved
    · next step =>
      dsimp only at moved
      split at moved
      · cases moved
        exact congrArg (· + 1) (transition_revision step)
      · cases moved

end VariantGroupSnapshot

namespace WorkInvocation

def transition (current : WorkInvocation) (event : DomainEvent) : Option WorkInvocation :=
  match event.eventType, event.payload with
  | .workInvocationClaimed, .invocationClaim value => current.claim value
  | .workInvocationStarted, .invocationStart value => current.start value
  | .workInvocationTerminalRecorded, .invocationTerminal value => current.recordTerminal value
  | .workInvocationCancellationRequested, .invocationCancel value =>
    current.requestCancellation value
  | .workInvocationExpired, .invocationExpire value => current.expire value
  | _, _ => none

def applyWorkInvocationEvent (current : WorkInvocation) (event : DomainEvent) :
    Option WorkInvocation :=
  if event.aggregate != current.ref || event.aggregateRevision != current.revision + 1 ||
      current.state.terminal then
    none
  else
    match current.transition event with
    | none => none
    | some next =>
      let next := { next with revision := event.aggregateRevision, lastEventID := event.eventID }
      if next.valid then some next else none

variable {current next : WorkInvocation} {event : DomainEvent}

theorem transition_permit
    (moved : current.transition event = some next) :
    next.permit = current.permit ∧ next.authorizationEventID = current.authorizationEventID := by
  unfold WorkInvocation.transition at moved
  split at moved
  all_goals first
    | cases moved
    | simp only [claim, start, recordTerminal, requestCancellation, expire, tests_iff] at moved
      obtain ⟨_, rfl⟩ := moved
      exact ⟨rfl, rfl⟩

theorem applyWorkInvocationEvent_ok
    (moved : current.applyWorkInvocationEvent event = some next) :
    current.state.terminal = false ∧ next.valid = true ∧ ∃ middle,
      current.transition event = some middle ∧
      next = { middle with revision := event.aggregateRevision, lastEventID := event.eventID } := by
  unfold applyWorkInvocationEvent at moved
  split at moved
  · cases moved
  split at moved
  · cases moved
  next middle step =>
  simp only [tests_iff] at moved
  exact ⟨by simp_all, moved.2 ▸ moved.1, middle, step, moved.2.symm⟩

theorem applyWorkInvocationEvent_permit
    (moved : current.applyWorkInvocationEvent event = some next) :
    next.permit = current.permit ∧ next.authorizationEventID = current.authorizationEventID := by
  obtain ⟨_, _, middle, step, rfl⟩ := applyWorkInvocationEvent_ok moved
  have kept := transition_permit step
  exact kept

end WorkInvocation

/-- `WorkInvocationFromAuthorizedEvent` -/
def DomainEvent.authorizedInvocation (event : DomainEvent) : Option WorkInvocation :=
  match event.payload with
  | .invocationAuthorization permit =>
    let invocation : WorkInvocation := {
      permit
      revision := event.aggregateRevision
      state := .authorized
      authorizationEventID := event.eventID
      lastEventID := event.eventID }
    if permit.valid && permit.globalDebitOrdinal != 0 && permit.purposeDebitOrdinal != 0 &&
        invocation.valid && invocation.id == event.aggregate.id then
      some invocation
    else none
  | _ => none

theorem DomainEvent.authorizedInvocation_ok {event : DomainEvent} {invocation : WorkInvocation}
    (authorized : event.authorizedInvocation = some invocation) :
    event.payload = .invocationAuthorization invocation.permit ∧
      invocation.authorizationEventID = event.eventID ∧ invocation.valid = true ∧
      invocation.state = .authorized ∧ invocation.claimID = none := by
  unfold DomainEvent.authorizedInvocation at authorized
  split at authorized
  · next permit payload =>
    simp only [tests_iff] at authorized
    obtain ⟨⟨⟨_, valid⟩, _⟩, rfl⟩ := authorized
    exact ⟨payload, rfl, valid, rfl, rfl⟩
  · cases authorized

namespace TeamContinuitySnapshot

variable (snapshot : TeamContinuitySnapshot) (event : DomainEvent)

def transition : Option TeamContinuitySnapshot :=
  match event.eventType, event.payload with
  | .systemQuiescenceRequested, .quiescence value => snapshot.requestQuiescence value
  | .systemSuspended, .suspended value => snapshot.recordSuspended value
  | .systemReconciliationStarted, .reconciliationStart value =>
    snapshot.beginReconciliation value
  | .systemUnexpectedOutageRecorded, .unexpectedOutage value =>
    snapshot.recordUnexpectedOutage value
  | .systemResumed, .resume value => snapshot.resume value
  | _, _ => none

def applyContinuityEvent : Option TeamContinuitySnapshot :=
  if !snapshot.valid || event.aggregate.kind != .system ||
      event.aggregateRevision != snapshot.revision + 1 then
    none
  else
    match snapshot.transition event with
    | none => none
    | some next =>
      let next :=
        { next with
          revision := next.revision + 1
          lastTransitionEventID := event.eventID }
      if next.valid then some next else none

end TeamContinuitySnapshot

namespace HumanInteractionSnapshot

variable (snapshot : HumanInteractionSnapshot) (event : DomainEvent)

def transition : Option HumanInteractionSnapshot :=
  match event.eventType, event.payload with
  | .humanInteractionDeliveryRecorded, .interactionDelivery value =>
    snapshot.recordDelivery value event.eventID
  | .humanInteractionResponseRecorded, .interactionResponse value =>
    snapshot.respond value event.eventID
  | .humanInteractionClosed, .interactionClose value => snapshot.close value
  | .humanInteractionExpired, .interactionExpire value => snapshot.expire value
  | _, _ => none

def applyHumanInteractionEvent : Option HumanInteractionSnapshot :=
  if !snapshot.valid || event.aggregate.kind != .humanInteraction ||
      event.aggregate.id != snapshot.interactionID ||
      event.aggregateRevision != snapshot.revision + 1 then
    none
  else
    match snapshot.transition event with
    | none => none
    | some next =>
      let next := { next with revision := next.revision + 1 }
      if next.valid then some next else none

end HumanInteractionSnapshot

end Tekroo.Kernel
