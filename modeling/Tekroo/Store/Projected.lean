import Tekroo.Store.Ready

namespace Tekroo.Kernel

open Lib Checked Store

/-! # Accepted commands have their projections

The commit applies the event of a command to the records of the store once more.  Each policy
has tried the same transition on the same record.
-/

abbrev Projects {π : Type} (result : Except StoreError (Option π)) : Prop :=
  ∃ projection, result = .ok projection

variable {eventType : EventType}

theorem Store.movesReleasePlan_command (moves : movesReleasePlan eventType = true) :
    ∃ commandType, eventType.source = some commandType ∧
      releaseEventTypeForCommand commandType = some eventType := by
  cases eventType <;> first | exact ⟨_, rfl, rfl⟩ | cases moves

theorem Store.movesVariantGroup_command (moves : movesVariantGroup eventType = true) :
    ∃ commandType, eventType.source = some commandType ∧
      variantEventType commandType = some eventType := by
  cases eventType <;> first | exact ⟨_, rfl, rfl⟩ | cases moves

theorem Store.movesInvocation_command (moves : movesInvocation eventType = true) :
    ∃ commandType, eventType.source = some commandType ∧
      invocationEventType commandType = some eventType := by
  cases eventType <;> first | exact ⟨_, rfl, rfl⟩ | cases moves

theorem Store.carryCounters_allowed {initial : TaskWorkBudgetBinding}
    {previous : Option TaskWorkBudgetBinding} (valid : initial.valid = true)
    (complete : ∀ binding, previous = some binding → binding.purposeUsed.Complete)
    (allowed : rebindingAllowed initial previous = .ok ()) :
    ∃ binding, carryCounters initial previous = .ok binding := by
  cases previous with
  | none => exact ⟨initial, rfl⟩
  | some current =>
    simp only [rebindingAllowed, chain_ok, tests_iff, decide_eq_false_iff_not,
      Nat.not_lt] at allowed
    obtain ⟨account, within, fits⟩ := allowed
    have counted : ∀ purpose ∈ allWorkPurposes,
        current.purposeUsed.count purpose ≤ initial.purposeLimits.count purpose := by
      simpa [List.any_eq_false] using fits
    simp only [TaskWorkBudgetBinding.valid, purposesWithinLimits, tests_iff] at valid
    obtain ⟨⟨⟨⟨⟨⟨⟨⟨⟨⟨⟨taskID, accountID⟩, taskRevision⟩, epoch⟩, scope⟩, positive⟩, small⟩, _⟩,
      limits⟩, _⟩, bound⟩, limited⟩ := valid
    have used : current.purposeUsed.valid = true :=
      PurposeCounters.valid_iff.mpr ⟨complete current rfl, fun purpose member =>
        (counted purpose member).trans ((PurposeCounters.valid_iff.mp limits).2 purpose member)⟩
    have carried : { initial with
        modelInvocationsUsed := current.modelInvocationsUsed
        purposeUsed := current.purposeUsed }.valid = true := by
      simp only [TaskWorkBudgetBinding.valid, purposesWithinLimits, tests_iff]
      exact ⟨⟨⟨⟨⟨⟨⟨⟨⟨⟨⟨taskID, accountID⟩, taskRevision⟩, epoch⟩, scope⟩, positive⟩, small⟩,
        within⟩, limits⟩, used⟩, bound⟩,
        fun purpose member => ⟨counted purpose member, (limited purpose member).2⟩⟩
    refine ⟨{ initial with
      modelInvocationsUsed := current.modelInvocationsUsed
      purposeUsed := current.purposeUsed }, ?_⟩
    simp only [carryCounters, chain_ok, carried, Bool.or_eq_false_iff, bne_eq_false_iff_eq,
      decide_eq_false_iff_not, Nat.not_lt, fits]
    exact ⟨⟨account, within⟩, trivial, rfl, trivial⟩

namespace AcceptedCommand

variable {evaluator : Evaluator} {store : Store} (accepted : AcceptedCommand evaluator store)
  (intact : store.Intact) {eventType : EventType}

theorem committed : accepted.event.committedAt.isZero = false := by
  have valid := accepted.contextValid
  simp only [validateDecisionContext, tests_iff] at valid
  exact valid.1.1.1.1.2

theorem decided {commandType : CommandType} (type : accepted.event.eventType = eventType)
    (from_ : eventType.source = some commandType) (other : operatorCommandType commandType = false)
    (unpaid : commandType ≠ .workInvocationAuthorize) :
    accepted.command.commandType = commandType ∧
      accepted.event.payload = accepted.command.payload ∧
      commandTypePolicy accepted.command accepted.snapshot accepted.granted = .ok () ∧
      ∃ phase4, phase4Contribution accepted.command accepted.snapshot accepted.granted =
        .ok phase4 := by
  obtain rfl := accepted.commandType_of type from_
  obtain ⟨phase4, contributed, _⟩ := accepted.admitted.phase4
  exact ⟨rfl, accepted.event_payload unpaid, accepted.commandTypePolicy_of rfl other, phase4,
    contributed⟩

include intact

theorem first_revision
    (creates : commandCreatesAggregate accepted.command = true) :
    accepted.event.aggregateRevision = 1 := by
  rw [accepted.event_revision intact]
  exact congrArg (·.getD 0 + 1) (accepted.creates_absent creates)

section Keyed

variable {κ σ : Type} {value next : σ}

theorem record_opened [DecidableEq κ] {kind : AggregateKind} {id : UUIDv7} {opened : Option σ}
    {key : σ → κ} {keys : Table κ AggregateRef} (typed : accepted.target.kind = kind)
    (creates : commandCreatesAggregate accepted.command = true) (opens : opened = some value)
    (named : id = accepted.target.id) (absent : keys.lookup (key value) = none) :
    Projects (openRecord accepted.event kind id opened key keys) := by
  refine ⟨some ⟨accepted.target, value, some (key value)⟩, ?_⟩
  simp only [openRecord, accepted.first_revision intact creates, chain_ok, event_aggregate, typed]
  exact ⟨by simp, value, opens, by simp [named], by simp [absent], rfl⟩

theorem record_moved {records : Table AggregateRef σ} {revision : σ → Nat} {move : σ → Option σ}
    (found : records.lookup accepted.target = some value)
    (current : revision value = accepted.snapshot.revision) (moved : move value = some next)
    (advanced : revision next = revision value + 1) :
    ∃ projection : Option (KeyedProjection κ σ),
      moveRecord accepted.event records revision move = .ok projection := by
  have numbered := accepted.event_revision intact
  refine ⟨some ⟨accepted.target, next, none⟩, ?_⟩
  simp only [moveRecord, chain_ok, event_aggregate]
  exact ⟨value, found, by simp [numbered, current], next, moved,
    by simp [numbered, advanced, current], rfl⟩

end Keyed

theorem escalation_opened (eventType : accepted.event.eventType = .escalationOpened) :
    Projects (store.escalationProjection accepted.event) := by
  obtain ⟨type, carried, policy, _⟩ := accepted.decided eventType rfl rfl nofun
  simp only [commandTypePolicy, type] at policy
  obtain ⟨value, escalation, payload, opened, id, absent⟩ := openEscalationPolicy_ok policy
  have kind := accepted.target_kind type rfl
  have first := accepted.first_revision intact (by simp [commandCreatesAggregate, type])
  rw [payload] at carried
  have valid := EscalationSnapshot.valid_opened (EscalationOpenPayload.snapshot_valid opened)
    accepted.eventID_valid Nat.one_pos
  have absent : store.escalationKeys.lookup escalation.key = none := absent
  have id : escalation.escalationID = accepted.target.id := id
  refine ⟨some ⟨accepted.target, { escalation with
    openingEventID := accepted.event.eventID
    revision := 1 }, some escalation.key⟩, ?_⟩
  simp only [escalationProjection, eventType, carried, first, opened, chain_ok, event_aggregate,
    kind]
  refine ⟨by simp, escalation, rfl, by simp [id], ?_, ?_, rfl⟩
  · simpa using valid
  · simpa [EscalationSnapshot.key] using absent

theorem escalation_resolved (eventType : accepted.event.eventType = .escalationResolved) :
    Projects (store.escalationProjection accepted.event) := by
  obtain ⟨type, carried, policy, _⟩ := accepted.decided eventType rfl rfl nofun
  simp only [commandTypePolicy, type] at policy
  obtain ⟨value, escalation, transition, payload, found, parsed, id, revision, sameID, expected,
    subject, epoch, resolved⟩ := resolveEscalationPolicy_ok policy
  rw [payload] at carried
  obtain ⟨next, applied, advanced⟩ := EscalationSnapshot.applyResolution_ok parsed
    (intact.escalations _ _ found) (sameID.trans id.symm) subject epoch
    (expected.trans revision.symm) accepted.eventID_valid accepted.committed resolved
  simp only [escalationProjection, eventType, carried]
  exact accepted.record_moved intact found revision applied advanced

theorem escalation_projected : Projects (store.escalationProjection accepted.event) := by
  by_cases opened : accepted.event.eventType = .escalationOpened
  · exact accepted.escalation_opened intact opened
  by_cases resolved : accepted.event.eventType = .escalationResolved
  · exact accepted.escalation_resolved intact resolved
  refine ⟨none, ?_⟩
  unfold escalationProjection
  split <;> first | contradiction | rfl

theorem tried {α : Type} {apply : DomainEvent → Option α} {committedAt : Time}
    (unpaid : accepted.command.commandType ≠ .workInvocationAuthorize)
    (same : apply (.trial accepted.event.eventType accepted.event.eventID accepted.target
      accepted.event.aggregateRevision committedAt accepted.event.payload) = apply accepted.event)
    (moved : (apply (.trial accepted.event.eventType accepted.granted.eventID
      accepted.command.target (accepted.snapshot.revision + 1) committedAt
      accepted.command.payload)).isSome) : ∃ next, apply accepted.event = some next := by
  rw [accepted.event_revision intact, accepted.event_payload unpaid] at same
  exact Option.isSome_iff_exists.mp (same ▸ moved)

theorem releasePlan_created (eventType : accepted.event.eventType = .releasePlanCreated) :
    Projects (store.releaseProjection accepted.event) := by
  obtain ⟨type, carried, policy, _⟩ := accepted.decided eventType rfl rfl nofun
  simp only [commandTypePolicy, type] at policy
  obtain ⟨value, plan, _, _, _, payload, created, id, _, _, _, _, _, absent⟩ :=
    createReleasePlanPolicy_ok policy
  rw [payload] at carried
  simp only [releaseProjection, eventType, beq_self_eq_true, if_true, carried]
  exact accepted.record_opened intact (accepted.target_kind type rfl)
    (by simp [commandCreatesAggregate, type]) created id absent

theorem releasePlan_moved (moves : movesReleasePlan accepted.event.eventType = true) :
    ∃ projection : Option ReleaseProjection, moveRecord accepted.event store.releasePlans
      (·.revision) (·.applyReleaseEvent accepted.event) = .ok projection := by
  obtain ⟨commandType, from_, produces⟩ := movesReleasePlan_command moves
  have type := accepted.commandType_of rfl from_
  rw [← type] at produces
  obtain ⟨other, same⟩ := commandTypePolicy_release produces
  have policy := same.symm.trans (accepted.commandTypePolicy_of rfl other)
  obtain ⟨plan, found, revision, moved⟩ := releaseTransitionPolicy_ok policy
  obtain ⟨next, moved⟩ := accepted.tried intact (fun authorize => by cases authorize ▸ produces)
    rfl moved
  exact accepted.record_moved intact found revision moved
    (ReleasePlanSnapshot.applyReleaseEvent_plan moved).2.2

theorem releasePlan_projected : Projects (store.releaseProjection accepted.event) := by
  by_cases created : accepted.event.eventType = .releasePlanCreated
  · exact accepted.releasePlan_created intact created
  rw [releaseProjection, if_neg (by simpa using created)]
  split
  · next moves => exact accepted.releasePlan_moved intact moves
  · exact ⟨none, rfl⟩

theorem workProfile_bound (eventType : accepted.event.eventType = .taskWorkProfileBound) :
    Projects (capabilityProjection accepted.event) := by
  obtain ⟨type, carried, policy, _⟩ := accepted.decided eventType rfl rfl nofun
  simp only [commandTypePolicy, type] at policy
  obtain ⟨value, state, profile, payload, found, checked, planned⟩ :=
    bindWorkProfilePolicy_ok policy
  have kind := accepted.target_kind type rfl
  rw [payload] at carried
  have task : profile.taskID = accepted.target.id :=
    (planWorkProfileBinding_none planned).trans (evolveState_target accepted.admitted.evolved
      (by simp [commandCreatesAggregate, type]) found)
  have valid : profile.valid = true := by
    simp only [WorkRiskProfile.checked, tests_iff] at checked
    exact checked.2 ▸ checked.1
  have numbered := accepted.event_revision intact
  let snapshot : WorkProfileSnapshot :=
    ⟨profile, accepted.event.eventID, accepted.event.aggregateRevision⟩
  refine ⟨some { reference := accepted.target, profile := some snapshot }, ?_⟩
  simp only [capabilityProjection, eventType, carried, chain_ok, event_aggregate, kind]
  refine ⟨by simp, profile, checked, by simp [task], ?_, rfl⟩
  have identified := accepted.eventID_valid
  simp only [WorkProfileSnapshot.valid, valid, identified, numbered]
  simp

theorem assignment_authorized
    (eventType : accepted.event.eventType = .taskQualifiedAssignmentAuthorized) :
    Projects (capabilityProjection accepted.event) := by
  obtain ⟨type, carried, policy, _⟩ := accepted.decided eventType rfl rfl nofun
  simp only [commandTypePolicy, type] at policy
  obtain ⟨value, authorization, payload, authorized, task, revision, _⟩ :=
    authorizeAssignmentPolicy_ok policy
  have kind := accepted.target_kind type rfl
  rw [payload] at carried
  have numbered := accepted.event_revision intact
  have task : authorization.taskID = accepted.target.id := task
  refine ⟨some { reference := accepted.target, authorization := some authorization }, ?_⟩
  simp only [capabilityProjection, eventType, carried, chain_ok, event_aggregate, kind]
  exact ⟨by simp, authorization, authorized, by simp [task, revision, numbered], rfl⟩

theorem capability_projected : Projects (capabilityProjection accepted.event) := by
  by_cases bound : accepted.event.eventType = .taskWorkProfileBound
  · exact accepted.workProfile_bound intact bound
  by_cases authorized : accepted.event.eventType = .taskQualifiedAssignmentAuthorized
  · exact accepted.assignment_authorized intact authorized
  refine ⟨none, ?_⟩
  unfold capabilityProjection
  split <;> first | contradiction | rfl

theorem variantGroup_opened (eventType : accepted.event.eventType = .variantGroupOpened) :
    Projects (store.variantProjection accepted.event) := by
  obtain ⟨type, carried, policy, _⟩ := accepted.decided eventType rfl rfl nofun
  simp only [commandTypePolicy, type] at policy
  obtain ⟨value, group, payload, opened, id, absent⟩ := openVariantGroupPolicy_ok policy
  rw [payload] at carried
  simp only [variantProjection, eventType, beq_self_eq_true, if_true, carried]
  exact accepted.record_opened intact (accepted.target_kind type rfl)
    (by simp [commandCreatesAggregate, type]) opened id absent

theorem variantGroup_moved (moves : movesVariantGroup accepted.event.eventType = true) :
    ∃ projection : Option VariantProjection, moveRecord accepted.event store.variantGroups
      (·.revision) (·.applyVariantEvent accepted.event) = .ok projection := by
  obtain ⟨commandType, from_, produces⟩ := movesVariantGroup_command moves
  have type := accepted.commandType_of rfl from_
  rw [← type] at produces
  obtain ⟨other, same⟩ := commandTypePolicy_variant produces
  have policy := same.symm.trans (accepted.commandTypePolicy_of rfl other)
  obtain ⟨group, found, revision, moved⟩ := variantTransitionPolicy_ok policy
  obtain ⟨next, moved⟩ := accepted.tried intact (fun authorize => by cases authorize ▸ produces)
    rfl moved
  exact accepted.record_moved intact found revision moved
    (VariantGroupSnapshot.applyVariantEvent_revision moved)

theorem variantGroup_projected : Projects (store.variantProjection accepted.event) := by
  by_cases opened : accepted.event.eventType = .variantGroupOpened
  · exact accepted.variantGroup_opened intact opened
  rw [variantProjection, if_neg (by simpa using opened)]
  split
  · next moves => exact accepted.variantGroup_moved intact moves
  · exact ⟨none, rfl⟩

theorem workBudget_created (eventType : accepted.event.eventType = .workBudgetCreated) :
    Projects (store.phase4Projection accepted.decision.workBudget accepted.event) := by
  obtain ⟨type, carried, _, _, contributed⟩ := accepted.decided eventType rfl rfl nofun
  simp only [phase4Contribution, evaluatePhase4Command, type] at contributed
  obtain ⟨value, account, payload, opened, id, _⟩ := createBudgetPolicy_ok contributed
  have kind := accepted.target_kind type rfl
  have reference : accepted.target = account.ref := by
    rw [WorkBudgetAccount.ref, id, ← kind]
    rfl
  have creates : commandCreatesAggregate accepted.command = true := by
    simp [commandCreatesAggregate, type]
  have first := accepted.first_revision intact creates
  rw [payload] at carried
  have absent : store.workBudgetAccounts.lookup accepted.target = none := by
    cases found : store.workBudgetAccounts.lookup accepted.target with
    | none => rfl
    | some other =>
      cases (accepted.creates_absent creates).symm.trans (intact.accounts _ _ found).2
  refine ⟨some { budget := some (accepted.target, account) }, ?_⟩
  simp only [phase4Projection, eventType, carried, first, chain_ok, event_aggregate]
  exact ⟨account, opened, by simp [reference], by simp [absent], rfl⟩

theorem workBudget_amended (eventType : accepted.event.eventType = .workBudgetAmended) :
    Projects (store.phase4Projection accepted.decision.workBudget accepted.event) := by
  obtain ⟨type, carried, _, _, contributed⟩ := accepted.decided eventType rfl rfl nofun
  simp only [phase4Contribution, evaluatePhase4Command, type] at contributed
  obtain ⟨value, account, payload, found, _, amended, _⟩ := amendBudgetPolicy_ok contributed
  obtain ⟨next, amended⟩ := Option.isSome_iff_exists.mp amended
  have found : store.workBudgetAccounts.lookup accepted.target = some account := found
  rw [payload] at carried
  have numbered : accepted.event.aggregateRevision = account.revision + 1 := by
    rw [accepted.event_revision intact]
    change (store.revisions.lookup accepted.target).getD 0 + 1 = _
    rw [(intact.accounts _ _ found).2]
    rfl
  have advanced : next.revision = account.revision + 1 := by
    simp only [WorkBudgetAccount.applyAmendment, tests_iff] at amended
    obtain ⟨_, rfl⟩ := amended
    rfl
  refine ⟨some { budget := some (accepted.target, next) }, ?_⟩
  simp only [phase4Projection, eventType, carried, chain_ok, event_aggregate]
  exact ⟨account, found, by simp [numbered], next, amended, by simp [numbered, advanced], rfl⟩

theorem workBudget_bound (eventType : accepted.event.eventType = .taskWorkBudgetBound) :
    Projects (store.phase4Projection accepted.decision.workBudget accepted.event) := by
  obtain ⟨type, carried, _, _, contributed⟩ := accepted.decided eventType rfl rfl nofun
  simp only [phase4Contribution, evaluatePhase4Command, type] at contributed
  obtain ⟨value, binding, payload, parsed, task, revision, allowed, _⟩ :=
    bindBudgetPolicy_ok contributed
  have kind := accepted.target_kind type rfl
  rw [payload] at carried
  have numbered := (accepted.event_revision intact).trans revision.symm
  have task : binding.taskID = accepted.target.id := task
  obtain ⟨next, counted⟩ := carryCounters_allowed
    (TaskWorkBudgetPayload.binding_valid parsed)
    (fun current found => intact.bindings accepted.target current found) allowed
  refine ⟨some { binding := some (accepted.target, next) }, ?_⟩
  simp only [phase4Projection, eventType, carried, chain_ok, event_aggregate, kind]
  exact ⟨binding, parsed, by simp [task, numbered], next, counted, rfl⟩

theorem operationalScope_bound (eventType : accepted.event.eventType = .taskOperationalScopeBound) :
    Projects (store.phase4Projection accepted.decision.workBudget accepted.event) := by
  obtain ⟨type, carried, _, _, contributed⟩ := accepted.decided eventType rfl rfl nofun
  simp only [phase4Contribution, evaluatePhase4Command, type] at contributed
  obtain ⟨value, scope, payload, parsed, task, revision, _⟩ :=
    bindOperationalScopePolicy_ok contributed
  have kind := accepted.target_kind type rfl
  rw [payload] at carried
  have numbered := (accepted.event_revision intact).trans revision.symm
  have task : scope.taskID = accepted.target.id := task
  refine ⟨some { scope := some (accepted.target, scope) }, ?_⟩
  simp only [phase4Projection, eventType, carried, chain_ok, event_aggregate, kind]
  exact ⟨scope, parsed, by simp [task, numbered], rfl⟩

theorem invocation_authorized (eventType : accepted.event.eventType = .workInvocationAuthorized) :
    Projects (store.phase4Projection accepted.decision.workBudget accepted.event) := by
  have type := accepted.commandType_of eventType rfl
  obtain ⟨value, admission, invocation, debit, id, admits, planned, carried, debited⟩ :=
    accepted.authorizes eventType
  have kind := accepted.target_kind type rfl
  have first := accepted.first_revision intact (by simp [commandCreatesAggregate, type])
  have permit : invocation.permit = admission.charged value :=
    congrArg WorkInvocation.permit planned.invocation
  have reference : accepted.target = invocation.ref := by
    have named : invocation.id = accepted.target.id :=
      (congrArg InvocationAuthorizationPayload.invocationID permit).trans id
    rw [WorkInvocation.ref, named, ← kind]
  have authorized : accepted.event.authorizedInvocation = some invocation := by
    have same : { permit := invocation.permit
                  revision := accepted.event.aggregateRevision
                  state := .authorized
                  authorizationEventID := accepted.event.eventID
                  lastEventID := accepted.event.eventID : WorkInvocation } = invocation := by
      rw [first, permit]
      exact planned.invocation.symm
    have filled : invocation.permit.valid = true := by
      rw [permit]
      exact planned.payload
    simp only [DomainEvent.authorizedInvocation, carried, same]
    have globalOrdinal : invocation.permit.globalDebitOrdinal ≠ 0 := by
      rw [permit]
      exact Nat.succ_ne_zero _
    have purposeOrdinal : invocation.permit.purposeDebitOrdinal ≠ 0 := by
      rw [permit]
      exact Nat.succ_ne_zero _
    simp [filled, planned.valid, globalOrdinal, purposeOrdinal, reference, WorkInvocation.ref]
  obtain ⟨account, binding⟩ : store.workBudgetAccounts.lookup debit.account = _ ∧
      store.taskWorkBudgets.lookup debit.task = _ := admits.debited planned
  refine ⟨some {
    budget := some (debit.account,
      chargedAccount admission.account debit accepted.event.eventID)
    binding := some (debit.task, chargedBinding admission.binding debit)
    invocation := some (accepted.target, invocation) }, ?_⟩
  simp only [phase4Projection, eventType, map_ok, authorizedProjection, debited, chain_ok,
    event_aggregate]
  refine ⟨_, ⟨debit, rfl, by simp [planned.debit_valid], invocation, authorized, ?_,
    admission.account, account, admission.binding, binding, ?_, rfl⟩, rfl⟩
  · simp [reference, permit, planned.debit, InvocationAdmission.charged, InvocationAdmission.debit]
  · simp [permit, planned.debit, InvocationAdmission.charged, InvocationAdmission.debit]

theorem invocation_moved
    (moves : movesInvocation accepted.event.eventType = true) :
    Projects (store.phase4Projection accepted.decision.workBudget accepted.event) := by
  obtain ⟨commandType, from_, produces⟩ := movesInvocation_command moves
  have type := accepted.commandType_of rfl from_
  rw [← type] at produces
  obtain ⟨_, contributed, _⟩ := accepted.admitted.phase4
  rw [phase4Contribution, evaluatePhase4Command_invocation produces] at contributed
  obtain ⟨invocation, found, _, moved, _⟩ := invocationTransitionPolicy_ok contributed
  obtain ⟨next, moved⟩ := accepted.tried intact (fun authorize => by cases authorize ▸ produces)
    rfl moved
  refine ⟨some { invocation := some (accepted.target, next) }, ?_⟩
  unfold phase4Projection
  split
  case h_6 =>
    simp only [moves, if_true, chain_ok, event_aggregate]
    exact ⟨invocation, found, next, moved, rfl⟩
  all_goals
    next eventType =>
    rw [eventType] at moves
    cases moves

theorem phase4_projected :
    Projects (store.phase4Projection accepted.decision.workBudget accepted.event) := by
  by_cases moves : movesInvocation accepted.event.eventType = true
  · exact accepted.invocation_moved intact moves
  cases eventType : accepted.event.eventType
  case workBudgetCreated => exact accepted.workBudget_created intact eventType
  case workBudgetAmended => exact accepted.workBudget_amended intact eventType
  case taskWorkBudgetBound => exact accepted.workBudget_bound intact eventType
  case taskOperationalScopeBound => exact accepted.operationalScope_bound intact eventType
  case workInvocationAuthorized => exact accepted.invocation_authorized intact eventType
  all_goals
    rw [eventType] at moves
    exact ⟨none, by simp only [phase4Projection, eventType, if_neg moves]⟩

theorem prepared
    (fresh : store.event? accepted.context.eventID = none)
    (newCommand : store.receipts.lookup accepted.command.commandID = none)
    (newScope : store.idempotency.lookup
      (idempotencyScopeDigest evaluator.hashes accepted.command) = none)
    (noFault : store.faultPoint.beforeWrite = false) :
    ∃ projections, store.Prepared evaluator.hashes accepted.snapshot accepted.decision
      projections := by
  obtain ⟨escalation, escalated⟩ := accepted.escalation_projected intact
  obtain ⟨release, released⟩ := accepted.releasePlan_projected intact
  obtain ⟨capability, qualified⟩ := accepted.capability_projected intact
  obtain ⟨variant, varied⟩ := accepted.variantGroup_projected intact
  obtain ⟨phase4, budgeted⟩ := accepted.phase4_projected intact
  refine ⟨{
    escalations := escalation.toList
    releases := release.toList
    capabilities := capability.toList
    variants := variant.toList
    phase4 := phase4.toList }, {
    formed := accepted.wellFormed intact
    newCommand, newScope, noFault
    current := accepted.current fresh
    budgets := accepted.budgets_current
    prepared := ?_ }⟩
  simp only [prepareProjections, accepted.decision_events, chain_ok, prepareEach_single]
  exact ⟨_, ⟨escalation, escalated, rfl⟩, _, ⟨release, released, rfl⟩, _,
    ⟨capability, qualified, rfl⟩, _, ⟨variant, varied, rfl⟩, _, ⟨phase4, budgeted, rfl⟩, rfl⟩

end AcceptedCommand

end Tekroo.Kernel
