import Tekroo.Store.Intact

namespace Tekroo.Kernel

open Lib Checked

/-! # Accepted commands pass the commit

What `Commit` asks of an accepted command the evaluation has established, or the stored records
keep it.
-/

theorem mem_canonicalParents {parents : List DagParent} {parent : DagParent} :
    parent ∈ canonicalParents parents ↔ parent ∈ parents :=
  (List.perm_insertionSort _ parents).mem_iff

variable {command : KernelCommand} {context : DecisionContext}

theorem decisionProvenance_valid {hashes : Hashes} {fingerprint : Digest}
    (envelope : command.Enveloped) (digested : fingerprint.valid = true)
    (basis : basisAndContextValid hashes context = true) :
    (decisionProvenance command fingerprint context).valid hashes = true ↔
      (command.execution.isSome → command.actorFQN.isSome) := by
  simp only [basisAndContextValid, tests_iff] at basis
  obtain ⟨⟨⟨basis, received⟩, decided⟩, ordered⟩ := basis
  have parents : ((canonicalParents command.causation).all fun parent =>
      parent.parentEventID.valid && parent.edgeKind.valid) = true :=
    List.all_eq_true.mpr fun parent member =>
      envelope.parents parent (mem_canonicalParents.mp member)
  have evidence : (command.evidenceRefs.all fun evidence =>
      evidence.evidenceID.valid && evidence.sha256.valid) = true :=
    List.all_eq_true.mpr envelope.evidence
  simp only [DecisionProvenance.valid, decisionProvenance, envelope.contract, beq_self_eq_true,
    envelope.commandID, digested, envelope.authority, basis, received, decided, ordered,
    envelope.actor, parents, evidence, Bool.and_true, Bool.true_and]
  have execution := envelope.execution
  cases executing : command.execution with
  | none => simp
  | some tuple =>
    rw [executing] at execution
    simpa using fun _ => execution

theorem authorityDecision_agrees {snapshot : Snapshot} {authorization : AuthorizationResult}
    (digest : snapshot.authorization.policyDigest = context.provenance.policyDigest)
    (revision : snapshot.authorization.revision = context.provenance.policyRevision) :
    (authorityDecision command snapshot authorization).agreesWith
      (context.authorizedBy authorization).provenance = true := by
  simp [AuthorityDecision.agreesWith, authorityDecision, DecisionContext.authorizedBy,
    DecisionContext.attributed, digest, revision]

theorem Store.preconditionsMatch_iff {store : Store} :
    preconditionsMatch command.preconditions (store.loadDecision command).related = true ↔
      ∀ precondition ∈ command.preconditions, store.preconditionHolds precondition = true := by
  unfold preconditionsMatch
  rw [List.all_eq_true]
  refine forall₂_congr fun precondition member => ?_
  have listed := lookup_insertAll_map ∅ AggregatePrecondition.aggregate store.relatedSnapshot
    command.preconditions precondition.aggregate
  rw [if_pos ⟨precondition, member, rfl⟩] at listed
  rw [show (store.loadDecision command).related.lookup precondition.aggregate = _ from listed]
  cases found : store.revisions.lookup precondition.aggregate <;>
    simp [preconditionHolds, relatedSnapshot, found]

namespace AcceptedCommand

variable {evaluator : Evaluator} {store : Store} (accepted : AcceptedCommand evaluator store)

theorem envelope : accepted.command.Enveloped :=
  validateEnvelope_ok (Evaluator.resolve_ok accepted.resolved).1

theorem attributed : accepted.command.execution.isSome → accepted.command.actorFQN.isSome := by
  have attribution := accepted.admitted.attribution
  simp only [actorAttributionValid, tests_iff] at attribution
  intro executing
  obtain ⟨tuple, execution⟩ := Option.isSome_iff_exists.mp executing
  cases actor : accepted.command.actorFQN with
  | none => simp [execution, actor] at attribution
  | some _ => rfl

theorem creates_absent (creates : commandCreatesAggregate accepted.command = true) :
    store.revisions.lookup accepted.target = none := by
  have present : (store.revisions.lookup accepted.target).isSome =
    !commandCreatesAggregate accepted.command := accepted.admitted.present
  simpa [creates] using present

theorem advances (intact : store.Intact) :
    accepted.acceptance.nextRevision = accepted.snapshot.revision + 1 ∧
      ∀ next, accepted.acceptance.nextState = some next →
        next.revision = accepted.acceptance.nextRevision ∧ 0 < next.lifecycleEpoch := by
  refine evolveState_advances accepted.admitted.evolved (fun creates => ?_) fun state loaded => ?_
  · exact congrArg (·.getD 0) (accepted.creates_absent creates)
  · exact intact.epochs _ _ (Option.ite_none_right_eq_some.mp loaded).2

theorem epoch_positive (intact : store.Intact) : 0 < accepted.acceptance.lifecycleEpoch := by
  obtain ⟨phase4, contributed, _, _, epoch⟩ := accepted.admitted.phase4
  rw [epoch]
  cases next : accepted.acceptance.nextState with
  | none => exact (phase4Contribution_ok contributed).1
  | some state => exact ((accepted.advances intact).2 state next).2

theorem event_revision (intact : store.Intact) :
    accepted.event.aggregateRevision = accepted.snapshot.revision + 1 :=
  (accepted.advances intact).1

theorem eventID_valid : accepted.event.eventID.valid = true := by
  have valid := accepted.contextValid
  simp only [validateDecisionContext, tests_iff] at valid
  exact valid.1.1.2

variable {actor : ActorFQN} {debit : WorkBudgetDebitDecision} {attempt : AttemptBudgetDecision}

theorem attempt_valid (attempted : accepted.acceptance.attemptBudget = some attempt) :
    (attempt.valid && attempt.key.subject == accepted.target) = true := by
  have planned := evaluateAttemptPolicy_ok (attempted ▸ accepted.admitted.attempt)
  have envelope := accepted.envelope
  have limit : attempt.limit ≠ 0 := (Nat.zero_lt_of_lt planned.within).ne'
  simp [AttemptBudgetDecision.valid, planned.key, limit, planned.within, planned.named,
    planned.digest, target, envelope.target, envelope.commandType]

theorem debit_valid (debited : accepted.acceptance.workBudget = some debit) :
    (debit.valid && accepted.command.commandType == .workInvocationAuthorize) = true := by
  have type : accepted.command.commandType = .workInvocationAuthorize := by
    by_contra other
    have none_ := accepted.workBudget_none other
    rw [show accepted.decision.workBudget = some debit from debited] at none_
    cases none_
  obtain ⟨_, _, _, charged, _, _, planned, _, same⟩ :=
    accepted.authorizes (accepted.eventType_of type rfl)
  cases same.symm.trans debited
  simp [type, planned.debit_valid]

theorem tuple (intact : store.Intact) :
    validDecisionTuple accepted.snapshot accepted.decision = true := by
  have envelope := accepted.envelope
  have intentID : accepted.granted.intentID.valid = true := by
    have valid := accepted.contextValid
    simp only [validateDecisionContext, tests_iff] at valid
    exact valid.1.2
  have attempts : accepted.decision.attemptBudget.all (fun budget =>
      budget.valid && budget.key.subject == accepted.decision.receipt.target) = true :=
    (Option.all_eq_true _ _).mpr fun _ attempted => accepted.attempt_valid attempted
  have debits : accepted.decision.workBudget.all (fun debit =>
      debit.valid && accepted.decision.receipt.commandType == .workInvocationAuthorize) = true :=
    (Option.all_eq_true _ _).mpr fun _ debited => accepted.debit_valid debited
  have epoch : accepted.event.lifecycleEpoch ≠ 0 := Nat.ne_of_gt (accepted.epoch_positive intact)
  have revision := accepted.event_revision intact
  have eventID := accepted.eventID_valid
  have commandID : accepted.decision.receipt.commandID.valid = true := envelope.commandID
  have target : accepted.decision.receipt.target.valid = true := envelope.target
  have principal : accepted.decision.authority.principal.valid = true := envelope.authority
  simp only [validDecisionTuple, attempts, debits, commandID, target, principal, decision_events,
    Bool.and_true, List.isEmpty_cons, Bool.false_eq_true, if_false, List.map_cons, List.map_nil,
    List.zipIdx_cons, List.zipIdx_nil, List.all_cons, List.all_nil, revision, eventID]
  have eventIDs : accepted.decision.receipt.eventIDs = [accepted.event.eventID] := rfl
  have outbox : accepted.decision.outbox = [⟨accepted.granted.intentID, accepted.event.eventID,
    outboxKindForCommand accepted.command.commandType⟩] := rfl
  have aggregate : accepted.decision.receipt.target = accepted.target := rfl
  simp [eventIDs, outbox, aggregate, intentID, epoch]

theorem wellFormed (intact : store.Intact) :
    accepted.decision.WellFormed evaluator.hashes accepted.snapshot := by
  obtain ⟨revision, states⟩ := accepted.advances intact
  exact {
    fingerprint := rfl
    scope := rfl
    tuple := accepted.tuple intact
    provenance := (decisionProvenance_valid accepted.envelope rfl accepted.basis).mpr
      accepted.attributed
    provenanceDigest := rfl
    provenanceCommand := rfl
    provenanceFingerprint := rfl
    authority := authorityDecision_agrees accepted.admitted.policyDigest
      accepted.admitted.policyBasis
    eventDigests := by
      intro event member
      rw [List.mem_singleton.mp member]
      rfl
    stateRevision := fun state next => congrArg some (states state next).1.symm
    positive := by
      intro zero
      have := (Option.some.inj zero).symm.trans revision
      omega }

theorem guarded_execution {execution : ExecutionTuple}
    (guarded : (executionGuards accepted.command).lookup actor = some execution) :
    store.executions.lookup actor = some execution := by
  rcases executionGuards_lookup guarded with ⟨named, running⟩ | expected
  · have attribution := accepted.admitted.attribution
    simp only [actorAttributionValid, named, running, tests_iff] at attribution
    exact attribution.2
  · have registry := accepted.admitted.registry
    simp only [validateExecutionRegistryCommand, expected, chain_ok, tests_iff] at registry
    exact registry

theorem parents_logged {parent : DagParent} (member : parent ∈ accepted.command.causation) :
    (store.event? parent.parentEventID).isSome := by
  have parents := accepted.admitted.parents
  unfold validDAGParents at parents
  split at parents
  · next empty =>
    rw [List.isEmpty_iff.mp empty] at member
    cases member
  · have valid := List.all_eq_true.mp parents parent member
    simp only [tests_iff, Store.loadDecision] at valid
    cases logged : store.event? parent.parentEventID with
    | none => simp [logged] at valid
    | some event => rfl

theorem reviewKeys_absent {key : CompletionReviewKey}
    (guarded : key ∈ accepted.decision.guards.absentReviewKeys) :
    store.openReviews.lookup key = none := by
  simp only [decision, acceptedDecision, decisionGuards] at guarded
  split at guarded
  · next value type payload =>
    have policy := accepted.commandTypePolicy_of type rfl
    simp only [commandTypePolicy, type, payload] at policy
    obtain ⟨_, opened, _, _, _, ⟨⟩, keyed, absent, _⟩ := openReviewPolicy_ok policy
    rw [keyed] at guarded
    rwa [List.mem_singleton.mp guarded]
  · cases guarded

theorem escalationKeys_absent {key : EscalationKey}
    (guarded : key ∈ accepted.decision.guards.absentEscalationKeys) :
    store.escalationKeys.lookup key = none := by
  simp only [decision, acceptedDecision, decisionGuards] at guarded
  split at guarded
  · next value type payload =>
    have policy := accepted.commandTypePolicy_of type rfl
    simp only [commandTypePolicy, type, payload] at policy
    obtain ⟨_, escalation, ⟨⟩, opened, _, absent⟩ := openEscalationPolicy_ok policy
    rw [opened] at guarded
    rwa [List.mem_singleton.mp guarded]
  · cases guarded

theorem releaseKeys_absent {key : ReleasePlanKey}
    (guarded : key ∈ accepted.decision.guards.absentReleaseKeys) :
    store.releasePlanKeys.lookup key = none := by
  simp only [decision, acceptedDecision, decisionGuards] at guarded
  split at guarded
  · next value type payload =>
    have policy := accepted.commandTypePolicy_of type rfl
    simp only [commandTypePolicy, type, payload] at policy
    obtain ⟨_, _, _, _, _, ⟨⟩, _, _, _, _, _, _, _, absent⟩ := createReleasePlanPolicy_ok policy
    simp only [ReleasePlanCreatePayload.validKey, Option.mem_toList, tests_iff] at guarded
    rwa [← guarded.2]
  · cases guarded

theorem variantKeys_absent {key : VariantGroupKey}
    (guarded : key ∈ accepted.decision.guards.absentVariantKeys) :
    store.variantGroupKeys.lookup key = none := by
  simp only [decision, acceptedDecision, decisionGuards] at guarded
  split at guarded
  · next value type payload =>
    have policy := accepted.commandTypePolicy_of type rfl
    simp only [commandTypePolicy, type, payload] at policy
    obtain ⟨_, group, ⟨⟩, opened, _, absent⟩ := openVariantGroupPolicy_ok policy
    simp only [Option.mem_toList, Option.map_eq_some_iff] at guarded
    obtain ⟨same, keyed, rfl⟩ := guarded
    rw [VariantGroupOpenPayload.snapshot_key opened] at absent
    rwa [VariantGroupOpenPayload.snapshot_key keyed]
  · cases guarded

theorem absentExecutions (guarded : actor ∈ accepted.decision.guards.absentExecutions) :
    store.executions.lookup actor = none := by
  simp only [decision, acceptedDecision, decisionGuards] at guarded
  split at guarded
  · next newcomer expected =>
    have registry := accepted.admitted.registry
    simp only [validateExecutionRegistryCommand, expected, refuse_ok,
      Option.isSome_eq_false_iff, Option.isNone_iff_eq_none] at registry
    rwa [List.mem_singleton.mp guarded]
  · cases guarded

theorem current (fresh : store.event? accepted.context.eventID = none) :
    store.Current accepted.snapshot accepted.decision where
  present := rfl
  revision := by
    intro revision found
    change revision = (store.revisions.lookup accepted.target).getD 0
    rw [show store.revisions.lookup accepted.target = some revision from found]
    rfl
  fresh := by
    intro event member
    rwa [List.mem_singleton.mp member]
  executions := fun guarded member =>
    accepted.guarded_execution (AList.mem_lookup_iff.mpr member)
  absentExecutions := fun _ => accepted.absentExecutions
  parents := by
    intro id member
    obtain ⟨parent, listed, rfl⟩ := List.mem_map.mp member
    exact accepted.parents_logged (mem_canonicalParents.mp listed)
  evidence := List.all_eq_true.mp accepted.admitted.evidence
  preconditions := Store.preconditionsMatch_iff.mp accepted.admitted.preconditions
  policy := fun _ => ⟨rfl, rfl⟩
  reviewKeys := fun _ => accepted.reviewKeys_absent
  escalationKeys := fun _ => accepted.escalationKeys_absent
  releaseKeys := fun _ => accepted.releaseKeys_absent
  variantKeys := fun _ => accepted.variantKeys_absent

theorem attempt_current (attempted : accepted.acceptance.attemptBudget = some attempt) :
    store.validateAttemptBudgetCommit attempt = .ok () := by
  have valid := accepted.attempt_valid attempted
  rw [Bool.and_eq_true] at valid
  obtain ⟨_, _, _, _, _, _, limit, used, _, unused, _⟩ :=
    evaluateAttemptPolicy_ok (attempted ▸ accepted.admitted.attempt)
  simp only [Store.loadDecision, AttemptBudgetDecision.budget] at limit used unused
  simp only [Store.validateAttemptBudgetCommit, valid.1, chain_ok, Bool.not_true, true_and]
  cases found : store.attemptBudgets.lookup attempt.key with
  | none => simpa [found] using used.symm
  | some current =>
    simp only [found, Option.getD_some] at limit used unused
    simp [limit, used, unused]

theorem debit_current (debited : accepted.acceptance.workBudget = some debit) :
    store.validateWorkBudgetCommit debit = .ok () := by
  have valid := accepted.debit_valid debited
  rw [Bool.and_eq_true, beq_iff_eq] at valid
  obtain ⟨value, admission, _, charged, _, admits, planned, _, same⟩ :=
    accepted.authorizes (accepted.eventType_of valid.2 rfl)
  cases same.symm.trans debited
  obtain ⟨account, binding⟩ : store.workBudgetAccounts.lookup debit.account = _ ∧
      store.taskWorkBudgets.lookup debit.task = _ := admits.debited planned
  simp only [Store.validateWorkBudgetCommit, valid.1, account, binding]
  rw [planned.debit]
  simp [InvocationAdmission.debit]

theorem budgets_current : store.checkBudgets accepted.decision = .ok () :=
  Store.checkBudgets_ok.mpr
    ⟨fun _ => accepted.attempt_current, fun _ => accepted.debit_current⟩

end AcceptedCommand

end Tekroo.Kernel
