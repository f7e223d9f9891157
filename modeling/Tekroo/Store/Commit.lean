import Tekroo.Store.Projection

namespace Tekroo.Kernel

open Checked
open Lib (insertAll)

/-! # Committing a decision

`Commit` first checks the whole decision and prepares its projections, then writes every
map.  It holds the store's lock all the while, so it is one step.
-/

def validDecisionTuple (expected : Snapshot) (decision : Decision) : Bool :=
  let receipt := decision.receipt
  receipt.commandID.valid && receipt.target.valid && decision.authority.principal.valid &&
    decision.attemptBudget.all (fun budget =>
      budget.valid && budget.key.subject == receipt.target) &&
    decision.workBudget.all (fun debit =>
      debit.valid && receipt.commandType == .workInvocationAuthorize) &&
    if decision.events.isEmpty then
      decision.nextState.isNone && receipt.resultingRevision.isNone &&
        receipt.eventIDs.isEmpty && decision.outbox.isEmpty &&
        receipt.outcomeCode != .applied
    else
      receipt.eventIDs == decision.events.map (·.eventID) &&
        decision.outbox.map (·.eventID) == decision.events.map (·.eventID) &&
        decision.events.zipIdx.all (fun (event, index) =>
          event.eventID.valid && event.aggregate == receipt.target &&
            event.aggregateRevision == expected.revision + index + 1 &&
            event.lifecycleEpoch != 0) &&
        decision.outbox.all (·.intentID.valid) &&
        decide (decision.events.map (·.eventID)).Nodup &&
        decide (decision.outbox.map (·.intentID)).Nodup

def AuthorityDecision.agreesWith (authority : AuthorityDecision) (basis : ProvenanceBasis) : Bool :=
  !authority.policyDigest.valid ||
    (authority.policyDigest == basis.policyDigest &&
      authority.policyRevision == basis.policyRevision &&
      authority.grantDigests == basis.grantDigests &&
      authority.delegationDigests == basis.delegationDigests)

def checkDecision (hashes : Hashes) (expected : Snapshot) (decision : Decision) :
    Except StoreError Unit := do
  refuse (!decision.commandFingerprint.valid || !decision.idempotencyScope.valid)
    .invalidDecision
  refuse (!validDecisionTuple expected decision) .invalidDecision
  let digest := decision.provenance.digest hashes
  refuse (!decision.provenance.valid hashes || !digest.valid ||
    digest != decision.receipt.provenanceDigest ||
    decision.provenance.commandID != decision.receipt.commandID ||
    decision.provenance.commandFingerprint != decision.commandFingerprint) .invalidDecision
  refuse (!decision.authority.agreesWith decision.provenance.basis) .invalidDecision
  refuse (!decision.events.all (·.provenanceDigest == digest)) .invalidDecision
  refuse (!decision.nextState.all fun state =>
    decision.receipt.resultingRevision == some state.revision) .invalidDecision
  refuse (decision.receipt.resultingRevision == some 0) .invalidDecision

namespace Store

variable (store : Store)

def checkIdentity (decision : Decision) : Except StoreError Unit :=
  let id := decision.receipt.commandID
  match store.receipts.lookup id with
  | some _ =>
    if (store.commandBindings.lookup id).any (fun binding =>
        binding.fingerprint == decision.commandFingerprint &&
          binding.scope == decision.idempotencyScope) then
      .error .decisionAlreadyCommitted
    else .error .receiptConflict
  | none =>
    match store.idempotency.lookup decision.idempotencyScope with
    | some prior =>
      if prior.fingerprint == decision.commandFingerprint then
        .error .decisionAlreadyCommitted
      else .error .idempotencyKeyConflict
    | none => .ok ()

def evidenceAvailable (reference : EvidenceRef) : Bool :=
  (store.evidence.lookup reference.evidenceID).any fun metadata =>
    metadata.available && metadata.sha256 == reference.sha256

def preconditionHolds (precondition : AggregatePrecondition) : Bool :=
  match store.revisions.lookup precondition.aggregate with
  | some revision =>
    !precondition.expected.mustNotExist && revision == precondition.expected.revision
  | none => precondition.expected.mustNotExist

/-- The aggregate is still at the revision of the snapshot, the event ids are new and the
guards of the decision hold. -/
def checkCurrent (expected : Snapshot) (decision : Decision) : Except StoreError Unit := do
  let guards := decision.guards
  let current := store.revisions.lookup decision.receipt.target
  refuse (expected.present != current.isSome || !current.all (· == expected.revision)) .conflict
  refuse (decision.events.any fun event => (store.event? event.eventID).isSome) .conflict
  refuse (!guards.executions.entries.all fun guarded =>
    store.executions.lookup guarded.1 == some guarded.2) .conflict
  refuse (guards.absentExecutions.any fun actor => (store.executions.lookup actor).isSome)
    .conflict
  refuse (!guards.parentIDs.all fun parentID => (store.event? parentID).isSome) .conflict
  refuse (!guards.evidenceRefs.all store.evidenceAvailable) .conflict
  refuse (!guards.preconditions.all store.preconditionHolds) .conflict
  refuse (guards.policyDigest.valid &&
    (store.authorizationPolicy.policyDigest != guards.policyDigest ||
      store.authorizationPolicy.revision != guards.policyRevision)) .conflict
  refuse (guards.absentReviewKeys.any fun key => (store.openReviews.lookup key).isSome)
    .conflict
  refuse (guards.absentEscalationKeys.any fun key => (store.escalationKeys.lookup key).isSome)
    .conflict
  refuse (guards.absentReleaseKeys.any fun key => (store.releasePlanKeys.lookup key).isSome)
    .conflict
  refuse (guards.absentVariantKeys.any fun key => (store.variantGroupKeys.lookup key).isSome)
    .conflict

def validateAttemptBudgetCommit (decision : AttemptBudgetDecision) : Except StoreError Unit := do
  refuse (!decision.valid) .invalidDecision
  match store.attemptBudgets.lookup decision.key with
  | none => refuse (decision.expectedUsed != 0) .conflict
  | some current => do
    refuse (current.limit != decision.limit || current.used != decision.expectedUsed) .conflict
    match current.attempts.lookup decision.attemptKey with
    | some prior =>
      if prior != decision.conditionDigest then .error .conflict
      else .error .decisionAlreadyCommitted
    | none => .ok ()

def validateWorkBudgetCommit (decision : WorkBudgetDebitDecision) : Except StoreError Unit := do
  refuse (!decision.valid) .invalidDecision
  let account ← demand (store.workBudgetAccounts.lookup decision.account) .conflict
  let binding ← demand (store.taskWorkBudgets.lookup decision.task) .conflict
  refuse (account.revision != decision.expectedAccountRevision ||
    account.modelInvocationsUsed != decision.expectedGlobalUsed ||
    account.purposeUsed.count decision.purpose != decision.expectedGlobalPurposeUsed ||
    binding.modelInvocationsUsed != decision.expectedTaskUsed ||
    binding.purposeUsed.count decision.purpose != decision.expectedTaskPurposeUsed) .conflict

def checkBudgets (decision : Decision) : Except StoreError Unit := do
  match decision.attemptBudget with
  | some attempt => store.validateAttemptBudgetCommit attempt
  | none => .ok ()
  match decision.workBudget with
  | some debit => store.validateWorkBudgetCommit debit
  | none => .ok ()

def prepare (hashes : Hashes) (store : Store) (expected : Snapshot) (decision : Decision) :
    Except StoreError Projections := do
  checkDecision hashes expected decision
  store.checkIdentity decision
  store.checkCurrent expected decision
  store.checkBudgets decision
  let projections ← store.prepareProjections decision
  refuse store.faultPoint.beforeWrite .injectedFault
  return projections

/-- `applyRegistryEvent`, on the execution map. -/
def registerExecution (executions : Table ActorFQN ExecutionTuple) (event : DomainEvent) :
    Table ActorFQN ExecutionTuple :=
  match event.eventType, event.payload with
  | .executionRegistered, .executionRegister value =>
    value.first.elim executions (executions.insert value.actorFQN)
  | .executionReplaced, .executionReplace value =>
    value.next.elim executions (executions.insert value.actorFQN)
  | _, _ => executions

/-- `applyRegistryEvent`, on the evidence map. -/
def registerEvidence (evidence : Table UUIDv7 EvidenceMetadata) (event : DomainEvent) :
    Table UUIDv7 EvidenceMetadata :=
  match event.eventType, event.payload with
  | .evidenceRegistered, .evidenceRegister sha256 =>
    evidence.insert event.aggregate.id ⟨sha256, true⟩
  | _, _ => evidence

end Store

/-- The maps that review events move. -/
structure ReviewBoard where
  openReviews : Table CompletionReviewKey AggregateRef
  reviews : Table AggregateRef CompletionReviewSnapshot
  eventQualifications : Table UUIDv7 JoinStatus

namespace ReviewBoard

def opened (board : ReviewBoard) (event : DomainEvent) (value : CompletionReviewOpenPayload) :
    ReviewBoard :=
  { board with
    openReviews :=
      match value.key with
      | some key => board.openReviews.insert key event.aggregate
      | none => board.openReviews
    reviews :=
      match value.review with
      | some review =>
        board.reviews.insert event.aggregate { review with reviewID := event.aggregate.id }
      | none => board.reviews }

/-- A change of a review is kept only when it is valid. -/
def moved (board : ReviewBoard) (event : DomainEvent) :
    CompletionReviewSnapshot × Bool → ReviewBoard
  | (next, true) =>
    { board with
      reviews := board.reviews.insert event.aggregate next
      eventQualifications := board.eventQualifications.insert event.eventID next.join.status }
  | (_, false) => board

end ReviewBoard

/-- The result as `applyReviewEvent` of the in-memory store completes it: neither the actor
nor the execution of the event is copied. -/
def ReviewBranchResult.recordedBy (result : ReviewBranchResult) (event : DomainEvent) :
    ReviewBranchResult :=
  { result with
    authority := event.authority
    eventID := event.eventID
    decidedAt := event.committedAt }

/-- `applyReviewEvent` of the in-memory store; an event that does not fit is skipped. -/
def ReviewBoard.applyReviewEvent (board : ReviewBoard) (event : DomainEvent) : ReviewBoard :=
  match event.eventType, event.payload, board.reviews.lookup event.aggregate with
  | .completionReviewOpened, .reviewOpen value, _ => board.opened event value
  | .completionReviewResultRecorded, .reviewResult value, some current =>
    match value.branchResult with
    | some (reviewID, policyRevision, result) =>
      if reviewID != event.aggregate.id || current.branchPolicyRevision != policyRevision then
        board
      else board.moved event (current.applyReviewBranchResult (result.recordedBy event))
    | none => board
  | .completionReviewFinalized, .reviewFinalize value, some current =>
    board.moved event (current.applyReviewFinalization event.eventID value)
  | _, _, _ => board

def applyAttemptBudget (budgets : Table AttemptBudgetKey AttemptBudgetSnapshot)
    (decision : AttemptBudgetDecision) : Table AttemptBudgetKey AttemptBudgetSnapshot :=
  let current := (budgets.lookup decision.key).getD ⟨decision.limit, 0, ∅⟩
  budgets.insert decision.key { current with
    attempts := current.attempts.insert decision.attemptKey decision.conditionDigest
    used := current.used + 1 }

namespace Store

def reviewBoard (store : Store) : ReviewBoard where
  openReviews := store.openReviews
  reviews := store.reviews
  eventQualifications := store.eventQualifications

def write (hashes : Hashes) (store : Store) (decision : Decision) (projections : Projections) :
    Store :=
  let receipt := decision.receipt
  let binding : DecisionIdentity :=
    ⟨receipt.commandID, decision.commandFingerprint, decision.idempotencyScope⟩
  let board := decision.events.foldl ReviewBoard.applyReviewEvent store.reviewBoard
  { store with
    states := insertAll store.states (decision.nextState.toList.map (receipt.target, ·))
    revisions :=
      insertAll store.revisions (receipt.resultingRevision.toList.map (receipt.target, ·))
    events := store.events ++ decision.events
    executions := decision.events.foldl registerExecution store.executions
    evidence := decision.events.foldl registerEvidence store.evidence
    openReviews := board.openReviews
    reviews := board.reviews
    eventQualifications := board.eventQualifications
    escalations := insertAll store.escalations
      (projections.escalations.map fun value => (value.reference, value.snapshot))
    escalationKeys := insertAll store.escalationKeys
      (projections.escalations.filterMap fun value => value.newKey.map (·, value.reference))
    releasePlans := insertAll store.releasePlans
      (projections.releases.map fun value => (value.reference, value.snapshot))
    releasePlanKeys := insertAll store.releasePlanKeys
      (projections.releases.filterMap fun value => value.newKey.map (·, value.reference))
    workProfiles := insertAll store.workProfiles
      (projections.capabilities.filterMap fun value => value.profile.map (value.reference, ·))
    workProfileHistory := insertAll store.workProfileHistory
      (projections.capabilities.filterMap fun value =>
        value.profile.map fun snapshot => (snapshot.profile.profileID, snapshot.profile))
    qualifiedAssignments := insertAll store.qualifiedAssignments
      (projections.capabilities.filterMap fun value =>
        value.authorization.map (value.reference, ·))
    variantGroups := insertAll store.variantGroups
      (projections.variants.map fun value => (value.reference, value.snapshot))
    variantGroupKeys := insertAll store.variantGroupKeys
      (projections.variants.filterMap fun value => value.newKey.map (·, value.reference))
    workBudgetAccounts := insertAll store.workBudgetAccounts
      (projections.phase4.filterMap (·.budget))
    taskWorkBudgets := insertAll store.taskWorkBudgets
      (projections.phase4.filterMap (·.binding))
    taskOperationalScopes := insertAll store.taskOperationalScopes
      (projections.phase4.filterMap (·.scope))
    workInvocations := insertAll store.workInvocations
      (projections.phase4.filterMap (·.invocation))
    attemptBudgets :=
      match decision.attemptBudget with
      | some attempt => applyAttemptBudget store.attemptBudgets attempt
      | none => store.attemptBudgets
    receipts := store.receipts.insert receipt.commandID receipt
    commandBindings := store.commandBindings.insert receipt.commandID binding
    idempotency := store.idempotency.insert decision.idempotencyScope binding
    authority := store.authority.insert receipt.commandID decision.authority
    provenance := store.provenance.insert (decision.provenance.digest hashes) decision.provenance
    outbox := insertAll store.outbox
      (decision.outbox.map fun intent => (intent.intentID, intent)) }

/-- `Commit`: the store afterwards and what is returned. -/
def commit (hashes : Hashes) (store : Store) (expected : Snapshot) (decision : Decision) :
    Store × CommitResult :=
  match store.prepare hashes expected decision with
  | .error reason => (store, .failed reason)
  | .ok projections =>
    (store.write hashes decision projections,
      if store.faultPoint == .afterCommitBeforeAck then .uncertain else .acknowledged)

end Store

/-- The decision was written, whether or not that was acknowledged. -/
def CommitResult.applied : CommitResult → Bool
  | .failed _ => false
  | .uncertain | .acknowledged => true

variable {hashes : Hashes} {store : Store} {expected : Snapshot} {decision : Decision}
  {projections : Store.Projections}

structure Decision.WellFormed (hashes : Hashes) (expected : Snapshot) (decision : Decision) :
    Prop where
  fingerprint : decision.commandFingerprint.valid = true
  scope : decision.idempotencyScope.valid = true
  tuple : validDecisionTuple expected decision = true
  provenance : decision.provenance.valid hashes = true
  provenanceDigest : decision.provenance.digest hashes = decision.receipt.provenanceDigest
  provenanceCommand : decision.provenance.commandID = decision.receipt.commandID
  provenanceFingerprint : decision.provenance.commandFingerprint = decision.commandFingerprint
  authority : decision.authority.agreesWith decision.provenance.basis = true
  eventDigests : ∀ event ∈ decision.events,
    event.provenanceDigest = decision.provenance.digest hashes
  stateRevision : ∀ state, decision.nextState = some state →
    decision.receipt.resultingRevision = some state.revision
  positive : decision.receipt.resultingRevision ≠ some 0

theorem checkDecision_ok :
    checkDecision hashes expected decision = .ok () ↔ decision.WellFormed hashes expected := by
  have digested : (decision.provenance.digest hashes).valid = true := rfl
  simp only [checkDecision, chain_ok, tests_iff, Option.all_eq_true, beq_eq_false_iff_ne, digested,
    Bool.not_true, and_true]
  constructor
  · rintro ⟨⟨fingerprint, scope⟩, tuple, ⟨⟨⟨provenance, digest⟩, commandID⟩, same⟩, authority,
      eventDigests, stateRevision, positive⟩
    exact ⟨fingerprint, scope, tuple, provenance, digest, commandID, same, authority,
      eventDigests, stateRevision, positive⟩
  · intro formed
    exact ⟨⟨formed.fingerprint, formed.scope⟩, formed.tuple,
      ⟨⟨⟨formed.provenance, formed.provenanceDigest⟩, formed.provenanceCommand⟩,
        formed.provenanceFingerprint⟩, formed.authority, formed.eventDigests,
      formed.stateRevision, formed.positive⟩

theorem Decision.WellFormed.not_applied (formed : decision.WellFormed hashes expected)
    (events : decision.events = []) : decision.receipt.outcomeCode ≠ .applied := by
  have tuple := formed.tuple
  simp only [validDecisionTuple, events, List.isEmpty_nil, if_true, tests_iff] at tuple
  exact tuple.2.2

namespace Store

structure Current (store : Store) (expected : Snapshot) (decision : Decision) : Prop where
  present : expected.present = (store.revisions.lookup decision.receipt.target).isSome
  revision : ∀ revision, store.revisions.lookup decision.receipt.target = some revision →
    revision = expected.revision
  fresh : ∀ event ∈ decision.events, store.event? event.eventID = none
  executions : ∀ guarded ∈ decision.guards.executions.entries,
    store.executions.lookup guarded.1 = some guarded.2
  absentExecutions : ∀ actor ∈ decision.guards.absentExecutions,
    store.executions.lookup actor = none
  parents : ∀ id ∈ decision.guards.parentIDs, (store.event? id).isSome
  evidence : ∀ reference ∈ decision.guards.evidenceRefs, store.evidenceAvailable reference
  preconditions : ∀ precondition ∈ decision.guards.preconditions,
    store.preconditionHolds precondition
  policy : decision.guards.policyDigest.valid →
    store.authorizationPolicy.policyDigest = decision.guards.policyDigest ∧
      store.authorizationPolicy.revision = decision.guards.policyRevision
  reviewKeys : ∀ key ∈ decision.guards.absentReviewKeys, store.openReviews.lookup key = none
  escalationKeys : ∀ key ∈ decision.guards.absentEscalationKeys,
    store.escalationKeys.lookup key = none
  releaseKeys : ∀ key ∈ decision.guards.absentReleaseKeys,
    store.releasePlanKeys.lookup key = none
  variantKeys : ∀ key ∈ decision.guards.absentVariantKeys,
    store.variantGroupKeys.lookup key = none

theorem checkCurrent_ok :
    store.checkCurrent expected decision = .ok () ↔ store.Current expected decision := by
  simp only [checkCurrent, chain_ok, tests_iff, Option.all_eq_true, List.any_eq_false,
    Option.isSome_iff_ne_none, ne_eq, not_not, Bool.and_eq_false_imp]
  constructor
  · rintro ⟨⟨present, revision⟩, fresh, executions, absentExecutions, parents, evidence,
      preconditions, policy, reviewKeys, escalationKeys, releaseKeys, variantKeys⟩
    exact {
      present, revision, fresh, executions, absentExecutions, evidence, preconditions, policy,
      reviewKeys, escalationKeys, releaseKeys, variantKeys
      parents := by simpa [Option.isSome_iff_ne_none] using parents }
  · intro current
    exact ⟨⟨current.present, current.revision⟩, current.fresh, current.executions,
      current.absentExecutions, by simpa [Option.isSome_iff_ne_none] using current.parents,
      current.evidence, current.preconditions, current.policy, current.reviewKeys,
      current.escalationKeys, current.releaseKeys, current.variantKeys⟩

theorem checkIdentity_ok :
    store.checkIdentity decision = .ok () ↔
      store.receipts.lookup decision.receipt.commandID = none ∧
        store.idempotency.lookup decision.idempotencyScope = none := by
  simp only [checkIdentity]
  cases known : store.receipts.lookup decision.receipt.commandID with
  | some receipt => simp only [reduceCtorEq, false_and, iff_false]; split <;> simp
  | none =>
    cases prior : store.idempotency.lookup decision.idempotencyScope with
    | some prior => simp only [reduceCtorEq, and_false, iff_false]; split <;> simp
    | none => simp

theorem checkBudgets_ok :
    store.checkBudgets decision = .ok () ↔
      (∀ attempt, decision.attemptBudget = some attempt →
        store.validateAttemptBudgetCommit attempt = .ok ()) ∧
      ∀ debit, decision.workBudget = some debit →
        store.validateWorkBudgetCommit debit = .ok () := by
  unfold checkBudgets
  cases decision.attemptBudget <;> cases decision.workBudget <;> simp

structure Prepared (hashes : Hashes) (store : Store) (expected : Snapshot)
    (decision : Decision) (projections : Projections) : Prop where
  formed : decision.WellFormed hashes expected
  newCommand : store.receipts.lookup decision.receipt.commandID = none
  newScope : store.idempotency.lookup decision.idempotencyScope = none
  current : store.Current expected decision
  budgets : store.checkBudgets decision = .ok ()
  prepared : store.prepareProjections decision = .ok projections
  noFault : store.faultPoint.beforeWrite = false

theorem prepare_ok :
    store.prepare hashes expected decision = .ok projections ↔
      store.Prepared hashes expected decision projections := by
  simp only [prepare, chain_ok, checkDecision_ok, checkIdentity_ok, checkCurrent_ok]
  constructor
  · rintro ⟨formed, ⟨newCommand, newScope⟩, current, budgets, _, prepared, noFault, rfl⟩
    exact ⟨formed, newCommand, newScope, current, budgets, prepared, noFault⟩
  · intro ready
    exact ⟨ready.formed, ⟨ready.newCommand, ready.newScope⟩, ready.current, ready.budgets,
      projections, ready.prepared, ready.noFault, rfl⟩

theorem commit_applied_iff :
    (store.commit hashes expected decision).2.applied = true ↔
      ∃ projections, store.Prepared hashes expected decision projections := by
  simp only [← prepare_ok]
  unfold commit
  cases result : store.prepare hashes expected decision with
  | error reason => simp [CommitResult.applied]
  | ok projections => simp only [Except.ok.injEq, exists_eq', iff_true]; split <;> rfl

theorem commit_receipt (applied : (store.commit hashes expected decision).2.applied = true) :
    (store.commit hashes expected decision).1.receipts.lookup decision.receipt.commandID =
      some decision.receipt := by
  unfold commit at applied ⊢
  cases result : store.prepare hashes expected decision with
  | error reason => simp [result, CommitResult.applied] at applied
  | ok projections => exact AList.lookup_insert _

theorem commit_unapplied (unapplied : (store.commit hashes expected decision).2.applied = false) :
    (store.commit hashes expected decision).1 = store := by
  unfold commit at unapplied ⊢
  cases result : store.prepare hashes expected decision with
  | error reason => rfl
  | ok projections =>
    simp only [result] at unapplied
    split at unapplied <;> cases unapplied

end Store

end Tekroo.Kernel
