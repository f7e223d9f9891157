import Tekroo.Kernel.Projection

namespace Tekroo.Kernel

open DomainEvent

/-! # The moves of a code release

What one accepted release event does to a plan whose release mode is code.
-/

structure ReleaseReport where
  mergeID : UUIDv7
  attemptID : UUIDv7
  outcome : ReleaseOutcome
  /-- The event of the result; a reconciliation names the one it supersedes. -/
  resultEventID : UUIDv7
  reconciles : Bool

def DomainEvent.releaseReport (event : DomainEvent) : Option ReleaseReport :=
  match event.eventType, event.payload with
  | .releasePlanResultRecorded, .releaseResult value =>
    some ⟨value.mergeID, value.attemptID, value.outcome, event.eventID, false⟩
  | .releasePlanReconciliationRecorded, .releaseResult value =>
    some ⟨value.mergeID, value.attemptID, value.outcome, value.supersedesResultEventID, true⟩
  | _, _ => none

def DomainEvent.requestedRound (event : DomainEvent) (mergeID : UUIDv7) : Option Nat :=
  match event.eventType, event.payload with
  | .releasePlanExecutionRequested, .releaseAttempt value =>
    if value.mergeID == mergeID then some value.round else none
  | _, _ => none

structure ReleaseReport.Accepted (report : ReleaseReport) (event : DomainEvent)
    (before : ReleasePlanSnapshot) (attempt : ReleaseAttempt) (merge : ReleaseMergePlan)
    (result : ReleaseResult) : Prop where
  reports : event.releaseReport = some report
  unasked : ∀ mergeID, event.requestedRound mergeID = none
  known : report.outcome.known = true
  active : before.activeAttempt = some attempt
  next : before.plan.orderedMerges[before.nextMergeIndex]? = some merge
  same : report.mergeID = merge.mergeID
  attempted : attempt.attemptID = report.attemptID
  state : if report.reconciles then before.state = .reconciling ∧ ∃ prior,
      before.results.lookup report.mergeID = some prior ∧
        prior.resultEventID = report.resultEventID
    else before.state = .executing
  outcome : result.outcome = report.outcome
  identified : result.resultEventID = report.resultEventID
  effective : (if result.reconciled then result.reconciliationEventID
    else result.resultEventID) = event.eventID

/-- The move of an event, up to the revision that `ApplyReleaseEvent` counts. -/
inductive ReleaseMove (event : DomainEvent) (before : ReleasePlanSnapshot) :
    ReleasePlanSnapshot → Prop
  | qualified {qualification : ReleaseQualification} (silent : event.releaseReport = none)
      (unasked : ∀ mergeID, event.requestedRound mergeID = none)
      (state : before.state = .planned) :
      ReleaseMove event before { before with
        state := .qualified
        qualification := some qualification }
  | requested {attempt : ReleaseAttempt} {merge : ReleaseMergePlan}
      (silent : event.releaseReport = none)
      (asked : ∀ mergeID, event.requestedRound mergeID =
        if merge.mergeID = mergeID then some before.nextRound else none)
      (state : before.state = .qualified)
      (next : before.plan.orderedMerges[before.nextMergeIndex]? = some merge)
      (same : attempt.mergeID = merge.mergeID) (round : attempt.round = before.nextRound) :
      ReleaseMove event before { before with
        state := .executing
        activeAttempt := some attempt }
  | reported {report : ReleaseReport} {attempt : ReleaseAttempt} {merge : ReleaseMergePlan}
      {result : ReleaseResult} (accepted : report.Accepted event before attempt merge result) :
      ReleaseMove event before ({ before with
        results := before.results.insert report.mergeID result }.applyReleaseOutcome result
          attempt.round)
  | finalized (silent : event.releaseReport = none)
      (unasked : ∀ mergeID, event.requestedRound mergeID = none)
      (state : before.state = .qualified)
      (complete : before.nextMergeIndex = before.plan.orderedMerges.length) :
      ReleaseMove event before { before with
        state := .readyForAcceptance
        finalizationEventID := event.eventID
        providerTreeDigest := before.plan.expectedQualifiedTree }

namespace ReleasePlanSnapshot

variable {before moved next : ReleasePlanSnapshot} {event : DomainEvent}

theorem applyReleaseEvent_ok (applied : before.applyReleaseEvent event = some next) :
    before.valid = true ∧ event.eventID.valid = true ∧ next.valid = true ∧
      ∃ moved, before.transition event = some moved ∧
        next = { moved with revision := moved.revision + 1 } := by
  unfold applyReleaseEvent at applied
  split at applied
  · cases applied
  · next checked =>
    simp only [tests_iff, not_or, not_not, Bool.not_eq_false] at checked
    cases moves : before.transition event with
    | none => simp [moves] at applied
    | some moved =>
      simp only [moves, tests_iff] at applied
      obtain ⟨valid, rfl⟩ := applied
      exact ⟨checked.1.1.1.1, checked.1.2, valid, moved, rfl, rfl⟩

theorem applyReleaseEvent_isSome (valid : before.valid = true)
    (planned : event.aggregate.id = before.plan.releasePlanID)
    (following : event.aggregateRevision = before.revision + 1)
    (identified : event.eventID.valid = true) (dated : event.committedAt.isZero = false)
    (moves : before.transition event = some moved)
    (kept : ({ moved with revision := moved.revision + 1 } : ReleasePlanSnapshot).valid = true) :
    (before.applyReleaseEvent event).isSome = true := by
  simp [applyReleaseEvent, valid, planned, following, identified, dated, moves, kept]

variable {value : ReleaseResultPayload}

theorem releaseResultIdentityMatches_ok
    (matched : before.releaseResultIdentityMatches value = true) :
    ∃ merge, before.plan.orderedMerges[before.nextMergeIndex]? = some merge ∧
      value.mergeID = merge.mergeID := by
  unfold releaseResultIdentityMatches at matched
  split at matched
  · cases matched
  · next merge found =>
    simp only [tests_iff] at matched
    exact ⟨merge, found, matched.1⟩

theorem recordResult_move (type : event.eventType = .releasePlanResultRecorded)
    (payload : event.payload = .releaseResult value)
    (moves : before.recordResult value event.eventID = some moved) :
    ReleaseMove event before moved := by
  unfold recordResult at moves
  split at moves
  · cases moves
  · next attempt active =>
    simp only [tests_iff] at moves
    obtain ⟨⟨⟨⟨⟨⟨⟨⟨valid, _⟩, _⟩, _⟩, attempted⟩, _⟩, executing⟩, matched⟩, rfl⟩ := moves
    obtain ⟨merge, found, same⟩ := releaseResultIdentityMatches_ok matched
    simp only [ReleaseResultPayload.valid, tests_iff] at valid
    have reports : event.releaseReport =
        some ⟨value.mergeID, value.attemptID, value.outcome, event.eventID, false⟩ := by
      simp [releaseReport, type, payload]
    have unasked : ∀ mergeID, event.requestedRound mergeID = none := by
      simp [requestedRound, type]
    exact .reported ⟨reports, unasked, by simp [valid], active, found, same, attempted,
      executing, rfl, rfl, rfl⟩

theorem recordReconciliation_move (type : event.eventType = .releasePlanReconciliationRecorded)
    (payload : event.payload = .releaseResult value)
    (moves : before.recordReconciliation value event.eventID = some moved) :
    ReleaseMove event before moved := by
  unfold recordReconciliation at moves
  split at moves
  · next attempt prior active reported =>
    simp only [tests_iff] at moves
    obtain ⟨⟨⟨⟨⟨⟨⟨⟨⟨valid, _⟩, _⟩, _⟩, reconciling⟩, attempted⟩, supersedes⟩, _⟩, matched⟩,
      rfl⟩ := moves
    obtain ⟨merge, found, same⟩ := releaseResultIdentityMatches_ok matched
    simp only [ReleaseResultPayload.valid, tests_iff] at valid
    have reports : event.releaseReport = some ⟨value.mergeID, value.attemptID, value.outcome,
        value.supersedesResultEventID, true⟩ := by
      simp [releaseReport, type, payload]
    have unasked : ∀ mergeID, event.requestedRound mergeID = none := by
      simp [requestedRound, type]
    have accepted : ReleaseReport.Accepted ⟨value.mergeID, value.attemptID, value.outcome,
        value.supersedesResultEventID, true⟩ event before attempt merge
        ⟨value.mergeID, value.attemptID, value.outcome, prior.resultEventID,
          value.observedTree, true, event.eventID⟩ :=
      ⟨reports, unasked, by simp [valid], active, found, same, attempted,
        ⟨reconciling, prior, reported, supersedes⟩, rfl, supersedes, rfl⟩
    exact .reported accepted
  · cases moves

theorem transition_move (code : before.plan.mode = .code)
    (moves : before.transition event = some moved) : ReleaseMove event before moved := by
  unfold transition at moves
  split at moves
  · next value type payload =>
    have silent : event.releaseReport = none := by simp [releaseReport, type]
    have unasked : ∀ mergeID, event.requestedRound mergeID = none := by
      simp [requestedRound, type]
    simp only [qualify, tests_iff] at moves
    obtain ⟨⟨_, planned⟩, rfl⟩ := moves
    exact .qualified silent unasked planned
  · next value type payload =>
    have silent : event.releaseReport = none := by simp [releaseReport, type]
    simp only [requestExecution, tests_iff, Option.any_eq_true] at moves
    obtain ⟨⟨⟨⟨⟨_, qualified⟩, merge, found, same⟩, round⟩, _⟩, rfl⟩ := moves
    refine .requested silent (fun mergeID => ?_) qualified found same.symm round
    simp [requestedRound, type, payload, same, round]
  · next value type payload => exact recordResult_move type payload moves
  · next value type payload => exact recordReconciliation_move type payload moves
  · next value type payload =>
    have silent : event.releaseReport = none := by simp [releaseReport, type]
    have unasked : ∀ mergeID, event.requestedRound mergeID = none := by
      simp [requestedRound, type]
    simp only [finalize, code, tests_iff, bne_self_eq_false, Bool.false_or] at moves
    obtain ⟨⟨⟨_, ⟨⟨⟨⟨⟨⟨qualified, complete⟩, _⟩, _⟩, status⟩, tree⟩, _⟩, _⟩, _⟩, rfl⟩ := moves
    rw [status, tree]
    exact .finalized silent unasked qualified complete
  · cases moves

end ReleasePlanSnapshot

end Tekroo.Kernel
