import Tekroo.Store.State

namespace Tekroo.Kernel

open Checked

/-! # The projections that a commit prepares

Each family of projections is computed from the store as it is before the commit; any
failure refuses the whole decision.
-/

structure KeyedProjection (κ σ : Type) where
  reference : AggregateRef
  snapshot : σ
  newKey : Option κ := none

abbrev EscalationProjection := KeyedProjection EscalationKey EscalationSnapshot

abbrev ReleaseProjection := KeyedProjection ReleasePlanKey ReleasePlanSnapshot

abbrev VariantProjection := KeyedProjection VariantGroupKey VariantGroupSnapshot

structure CapabilityProjection where
  reference : AggregateRef
  profile : Option WorkProfileSnapshot := none
  authorization : Option QualifiedAssignmentAuthorization := none

structure Phase4Projection where
  budget : Option (AggregateRef × WorkBudgetAccount) := none
  binding : Option (AggregateRef × TaskWorkBudgetBinding) := none
  scope : Option (AggregateRef × TaskOperationalScope) := none
  invocation : Option (AggregateRef × WorkInvocation) := none

namespace Store

variable (store : Store) (event : DomainEvent)

section Keyed

variable {κ σ : Type} [DecidableEq κ]

/-- The event opens a record of its aggregate, under a key that is still free. -/
def openRecord (kind : AggregateKind) (id : UUIDv7) (opened : Option σ) (key : σ → κ)
    (keys : Table κ AggregateRef) : Except StoreError (Option (KeyedProjection κ σ)) := do
  refuse (event.aggregate.kind != kind || event.aggregateRevision != 1) .invalidDecision
  let value ← demand opened .invalidDecision
  refuse (id != event.aggregate.id) .invalidDecision
  refuse (keys.lookup (key value)).isSome .conflict
  return some ⟨event.aggregate, value, some (key value)⟩

/-- The event moves the record of its aggregate to the next revision. -/
def moveRecord (records : Table AggregateRef σ) (revision : σ → Nat) (move : σ → Option σ) :
    Except StoreError (Option (KeyedProjection κ σ)) := do
  let current ← demand (records.lookup event.aggregate) .invalidDecision
  refuse (revision current + 1 != event.aggregateRevision) .invalidDecision
  let next ← demand (move current) .invalidDecision
  refuse (revision next != event.aggregateRevision) .invalidDecision
  return some ⟨event.aggregate, next, none⟩

end Keyed

def escalationProjection : Except StoreError (Option EscalationProjection) :=
  match event.eventType with
  | .escalationOpened =>
    match event.payload with
    | .escalationOpen payload => do
      refuse (event.aggregate.kind != .escalation || event.aggregateRevision != 1)
        .invalidDecision
      let value ← demand payload.snapshot .invalidDecision
      refuse (value.escalationID != event.aggregate.id) .invalidDecision
      let value := { value with
        openingEventID := event.eventID
        revision := event.aggregateRevision }
      refuse (!value.valid) .invalidDecision
      refuse (store.escalationKeys.lookup value.key).isSome .conflict
      return some ⟨event.aggregate, value, some value.key⟩
    | _ => .error .invalidDecision
  | .escalationResolved =>
    match event.payload with
    | .escalationResolve payload =>
      moveRecord event store.escalations (·.revision)
        (·.applyResolution event.authority event.eventID event.committedAt payload)
    | _ => .error .invalidDecision
  | _ => .ok none

def movesReleasePlan : EventType → Bool
  | .releasePlanQualificationRecorded | .releasePlanExecutionRequested
  | .releasePlanResultRecorded | .releasePlanReconciliationRecorded
  | .releasePlanFinalized => true
  | _ => false

def releaseProjection : Except StoreError (Option ReleaseProjection) :=
  if event.eventType == .releasePlanCreated then
    match event.payload with
    | .releaseCreate payload =>
      openRecord event .releasePlan payload.releasePlanID (payload.snapshot event.eventID)
        (fun _ => payload.key) store.releasePlanKeys
    | _ => .error .invalidDecision
  else if movesReleasePlan event.eventType then
    moveRecord event store.releasePlans (·.revision) (·.applyReleaseEvent event)
  else .ok none

def capabilityProjection : Except StoreError (Option CapabilityProjection) :=
  match event.eventType with
  | .taskWorkProfileBound =>
    match event.payload with
    | .workProfile payload => do
      refuse (event.aggregate.kind != .task) .invalidDecision
      let profile ← demand payload.checked .invalidDecision
      refuse (profile.taskID != event.aggregate.id) .invalidDecision
      let snapshot : WorkProfileSnapshot := ⟨profile, event.eventID, event.aggregateRevision⟩
      refuse (!snapshot.valid) .invalidDecision
      return some { reference := event.aggregate, profile := some snapshot }
    | _ => .error .invalidDecision
  | .taskQualifiedAssignmentAuthorized =>
    match event.payload with
    | .qualifiedAssignment payload => do
      refuse (event.aggregate.kind != .task) .invalidDecision
      let authorization ← demand (payload.authorizedBy event.eventID) .invalidDecision
      refuse (authorization.taskID != event.aggregate.id ||
        authorization.expectedTaskRevision + 1 != event.aggregateRevision)
        .invalidDecision
      return some { reference := event.aggregate, authorization := some authorization }
    | _ => .error .invalidDecision
  | _ => .ok none

def movesVariantGroup : EventType → Bool
  | .variantGroupCandidateSubmitted | .variantGroupComparisonRecorded
  | .variantGroupSelected => true
  | _ => false

def variantProjection : Except StoreError (Option VariantProjection) :=
  if event.eventType == .variantGroupOpened then
    match event.payload with
    | .variantOpen payload =>
      openRecord event .variantGroup payload.variantGroupID (payload.snapshot event.eventID)
        (·.key) store.variantGroupKeys
    | _ => .error .invalidDecision
  else if movesVariantGroup event.eventType then
    moveRecord event store.variantGroups (·.revision) (·.applyVariantEvent event)
  else .ok none

variable (binding : TaskWorkBudgetBinding) (debit : Option WorkBudgetDebitDecision)

/-- A new binding of a task that has one already: it keeps the account and takes over the
counters. -/
def carryCounters :
    Option TaskWorkBudgetBinding → Except StoreError TaskWorkBudgetBinding
  | none => .ok binding
  | some current => do
    refuse (current.budgetAccountID != binding.budgetAccountID ||
      decide (binding.modelInvocationLimit < current.modelInvocationsUsed)) .conflict
    refuse (allWorkPurposes.any (fun purpose =>
      decide (binding.purposeLimits.count purpose < current.purposeUsed.count purpose)))
      .conflict
    let binding := { binding with
      modelInvocationsUsed := current.modelInvocationsUsed
      purposeUsed := current.purposeUsed }
    refuse (!binding.valid) .conflict
    return binding

def chargedAccount (account : WorkBudgetAccount) (debit : WorkBudgetDebitDecision)
    (eventID : UUIDv7) : WorkBudgetAccount :=
  { account with
    modelInvocationsUsed := debit.nextGlobalUsed
    purposeUsed := account.purposeUsed.insert debit.purpose debit.nextGlobalPurposeUsed
    lastEventID := eventID }

def chargedBinding (debit : WorkBudgetDebitDecision) : TaskWorkBudgetBinding :=
  { binding with
    modelInvocationsUsed := debit.nextTaskUsed
    purposeUsed := binding.purposeUsed.insert debit.purpose debit.nextTaskPurposeUsed }

def authorizedProjection : Except StoreError Phase4Projection := do
  let debit ← demand debit .invalidDecision
  refuse (!debit.valid) .invalidDecision
  let invocation ← demand event.authorizedInvocation .invalidDecision
  refuse (event.aggregate != invocation.ref ||
    invocation.permit.globalDebitOrdinal != debit.nextGlobalUsed ||
    invocation.permit.purposeDebitOrdinal != debit.nextGlobalPurposeUsed) .invalidDecision
  let account ← demand (store.workBudgetAccounts.lookup debit.account) .invalidDecision
  let binding ← demand (store.taskWorkBudgets.lookup debit.task) .invalidDecision
  refuse (invocation.permit.remainingGlobalBudget !=
      account.modelInvocationLimit - debit.nextGlobalUsed ||
    invocation.permit.remainingPurposeBudget !=
      account.purposeLimits.count debit.purpose - debit.nextGlobalPurposeUsed)
    .invalidDecision
  return {
    budget := some (debit.account, chargedAccount account debit event.eventID)
    binding := some (debit.task, chargedBinding binding debit)
    invocation := some (event.aggregate, invocation) }

def movesInvocation : EventType → Bool
  | .workInvocationClaimed | .workInvocationStarted | .workInvocationTerminalRecorded
  | .workInvocationCancellationRequested | .workInvocationExpired => true
  | _ => false

def phase4Projection (event : DomainEvent) : Except StoreError (Option Phase4Projection) :=
  match event.eventType with
  | .workBudgetCreated =>
    match event.payload with
    | .workBudget payload => do
      let account ← demand (payload.account event.eventID) .invalidDecision
      refuse (event.aggregate != account.ref || event.aggregateRevision != 1)
        .invalidDecision
      refuse (store.workBudgetAccounts.lookup event.aggregate).isSome .conflict
      return some { budget := some (event.aggregate, account) }
    | _ => .error .invalidDecision
  | .workBudgetAmended =>
    match event.payload with
    | .workBudget payload => do
      let current ← demand (store.workBudgetAccounts.lookup event.aggregate)
        .invalidDecision
      refuse (event.aggregateRevision != current.revision + 1) .invalidDecision
      let next ← demand (current.applyAmendment payload event.eventID) .invalidDecision
      refuse (next.revision != event.aggregateRevision) .invalidDecision
      return some { budget := some (event.aggregate, next) }
    | _ => .error .invalidDecision
  | .taskWorkBudgetBound =>
    match event.payload with
    | .taskWorkBudget payload => do
      let binding ← demand (payload.binding event.eventID) .invalidDecision
      refuse (event.aggregate.kind != .task || event.aggregate.id != binding.taskID ||
        event.aggregateRevision != binding.taskRevision) .invalidDecision
      let binding ← carryCounters binding (store.taskWorkBudgets.lookup event.aggregate)
      return some { binding := some (event.aggregate, binding) }
    | _ => .error .invalidDecision
  | .taskOperationalScopeBound =>
    match event.payload with
    | .operationalScope payload => do
      let scope ← demand (payload.scope event.eventID) .invalidDecision
      refuse (event.aggregate.kind != .task || event.aggregate.id != scope.taskID ||
        event.aggregateRevision != scope.taskRevision) .invalidDecision
      return some { scope := some (event.aggregate, scope) }
    | _ => .error .invalidDecision
  | .workInvocationAuthorized => some <$> store.authorizedProjection event debit
  | eventType =>
    if movesInvocation eventType then do
      let current ← demand (store.workInvocations.lookup event.aggregate) .invalidDecision
      let next ← demand (current.applyWorkInvocationEvent event) .invalidDecision
      return some { invocation := some (event.aggregate, next) }
    else .ok none

structure Projections where
  escalations : List EscalationProjection
  releases : List ReleaseProjection
  capabilities : List CapabilityProjection
  variants : List VariantProjection
  phase4 : List Phase4Projection

/-- Prepare one family: the projections of the events that have one, or the first failure. -/
def prepareEach {π : Type} (project : DomainEvent → Except StoreError (Option π)) :
    List DomainEvent → Except StoreError (List π)
  | [] => .ok []
  | event :: rest => do
    let projection ← project event
    let others ← prepareEach project rest
    return projection.toList ++ others

def prepareProjections (decision : Decision) : Except StoreError Projections := do
  let escalations ← prepareEach store.escalationProjection decision.events
  let releases ← prepareEach store.releaseProjection decision.events
  let capabilities ← prepareEach capabilityProjection decision.events
  let variants ← prepareEach store.variantProjection decision.events
  let phase4 ← prepareEach (store.phase4Projection decision.workBudget) decision.events
  return { escalations, releases, capabilities, variants, phase4 }

section Inversion

variable {store : Store} {event : DomainEvent} {debit : Option WorkBudgetDebitDecision}

theorem releaseProjection_ok {projection : ReleaseProjection}
    (projected : store.releaseProjection event = .ok (some projection)) :
    projection.reference = event.aggregate ∧
      ((event.eventType = .releasePlanCreated ∧ ∃ payload,
          event.payload = .releaseCreate payload ∧
          payload.snapshot event.eventID = some projection.snapshot) ∨
        ∃ plan, store.releasePlans.lookup event.aggregate = some plan ∧
          plan.applyReleaseEvent event = some projection.snapshot) := by
  unfold releaseProjection at projected
  split at projected
  · next created =>
    cases payload : event.payload <;> simp [payload, openRecord] at projected
    obtain ⟨_, value, found, _, _, rfl⟩ := projected
    exact ⟨rfl, .inl ⟨by simpa using created, _, rfl, found⟩⟩
  · split at projected
    · simp [moveRecord] at projected
      obtain ⟨plan, found, _, next, moved, _, rfl⟩ := projected
      exact ⟨rfl, .inr ⟨plan, found, moved⟩⟩
    · simp at projected

theorem escalationProjection_ok {projection : EscalationProjection}
    (projected : store.escalationProjection event = .ok (some projection)) :
    projection.snapshot.valid = true := by
  unfold escalationProjection at projected
  split at projected
  · cases payload : event.payload <;> simp [payload] at projected
    obtain ⟨_, value, _, _, valid, _, rfl⟩ := projected
    exact valid
  · cases payload : event.payload <;> simp [payload, moveRecord] at projected
    obtain ⟨current, _, _, next, resolved, _, rfl⟩ := projected
    exact EscalationSnapshot.applyResolution_valid resolved
  · cases projected

/-- The changes of budgets, scopes and invocations that an event can stand for. -/
inductive Phase4Change (store : Store) (debit : Option WorkBudgetDebitDecision)
    (event : DomainEvent) : Phase4Projection → Prop
  | created {payload : WorkBudgetPayload} {account : WorkBudgetAccount}
      (eventType : event.eventType = .workBudgetCreated)
      (carried : event.payload = .workBudget payload)
      (opened : payload.account event.eventID = some account)
      (reference : event.aggregate = account.ref) (first : event.aggregateRevision = 1)
      (absent : store.workBudgetAccounts.lookup event.aggregate = none) :
      Phase4Change store debit event { budget := some (event.aggregate, account) }
  | amended {payload : WorkBudgetPayload} {account next : WorkBudgetAccount}
      (eventType : event.eventType = .workBudgetAmended)
      (carried : event.payload = .workBudget payload)
      (found : store.workBudgetAccounts.lookup event.aggregate = some account)
      (amendment : account.applyAmendment payload event.eventID = some next)
      (revision : next.revision = event.aggregateRevision) :
      Phase4Change store debit event { budget := some (event.aggregate, next) }
  | bound {payload : TaskWorkBudgetPayload} {initial binding : TaskWorkBudgetBinding}
      (eventType : event.eventType = .taskWorkBudgetBound)
      (carried : event.payload = .taskWorkBudget payload)
      (parsed : payload.binding event.eventID = some initial)
      (reference : event.aggregate = ⟨.task, initial.taskID⟩)
      (counted : carryCounters initial (store.taskWorkBudgets.lookup event.aggregate) =
        .ok binding) :
      Phase4Change store debit event { binding := some (event.aggregate, binding) }
  | rescoped {payload : TaskOperationalScopePayload} {scope : TaskOperationalScope}
      (eventType : event.eventType = .taskOperationalScopeBound)
      (carried : event.payload = .operationalScope payload)
      (parsed : payload.scope event.eventID = some scope) :
      Phase4Change store debit event { scope := some (event.aggregate, scope) }
  | authorized {charge : WorkBudgetDebitDecision} {invocation : WorkInvocation}
      {account : WorkBudgetAccount} {binding : TaskWorkBudgetBinding}
      (eventType : event.eventType = .workInvocationAuthorized) (charged : debit = some charge)
      (valid : charge.valid = true)
      (authorized : event.authorizedInvocation = some invocation)
      (reference : event.aggregate = invocation.ref)
      (globalOrdinal : invocation.permit.globalDebitOrdinal = charge.nextGlobalUsed)
      (foundAccount : store.workBudgetAccounts.lookup charge.account = some account)
      (foundBinding : store.taskWorkBudgets.lookup charge.task = some binding) :
      Phase4Change store debit event {
        budget := some (charge.account, chargedAccount account charge event.eventID)
        binding := some (charge.task, chargedBinding binding charge)
        invocation := some (event.aggregate, invocation) }
  | moved {invocation next : WorkInvocation} (eventType : movesInvocation event.eventType)
      (found : store.workInvocations.lookup event.aggregate = some invocation)
      (move : invocation.applyWorkInvocationEvent event = some next) :
      Phase4Change store debit event { invocation := some (event.aggregate, next) }

theorem phase4Projection_ok {projection : Phase4Projection}
    (projected : store.phase4Projection debit event = .ok (some projection)) :
    store.Phase4Change debit event projection := by
  unfold phase4Projection at projected
  split at projected
  · next eventType =>
    cases payload : event.payload <;> simp [payload] at projected
    obtain ⟨account, opened, ⟨reference, first⟩, absent, rfl⟩ := projected
    exact .created eventType payload opened reference first
      (by simpa [Option.isSome_iff_ne_none] using absent)
  · next eventType =>
    cases payload : event.payload <;> simp [payload] at projected
    obtain ⟨account, found, _, next, amendment, revision, rfl⟩ := projected
    exact .amended eventType payload found amendment revision
  · next eventType =>
    cases payload : event.payload <;> simp [payload] at projected
    obtain ⟨initial, parsed, ⟨⟨kind, id⟩, _⟩, binding, counted, rfl⟩ := projected
    exact .bound eventType payload parsed (by rw [← kind, ← id]) counted
  · next eventType =>
    cases payload : event.payload <;> simp [payload] at projected
    obtain ⟨scope, parsed, _, rfl⟩ := projected
    exact .rescoped eventType payload parsed
  · next eventType =>
    simp [authorizedProjection] at projected
    obtain ⟨charge, charged, valid, invocation, authorized, ⟨⟨reference, ordinal⟩, _⟩, account,
      foundAccount, binding, foundBinding, _, rfl⟩ := projected
    exact .authorized eventType charged valid authorized reference ordinal foundAccount
      foundBinding
  · split at projected
    · next eventType =>
      simp at projected
      obtain ⟨invocation, found, next, move, rfl⟩ := projected
      exact .moved eventType found move
    · simp at projected

theorem phase4Projection_none (projected : store.phase4Projection debit event = .ok none) :
    event.eventType ≠ .workInvocationAuthorized ∧ event.eventType ≠ .workBudgetCreated ∧
      event.eventType ≠ .workBudgetAmended := by
  refine ⟨?_, ?_, ?_⟩ <;> intro eventType <;> simp only [phase4Projection, eventType] at projected
  · simp at projected
  all_goals cases payload : event.payload <;> simp [payload] at projected

theorem prepareEach_single {π : Type} {project : DomainEvent → Except StoreError (Option π)}
    {projections : List π} :
    prepareEach project [event] = .ok projections ↔
      ∃ projection, project event = .ok projection ∧ projections = projection.toList := by
  simp only [prepareEach, chain_ok, Except.ok.injEq, exists_eq_left', List.append_nil,
    eq_comm (a := projections)]

end Inversion

end Store

end Tekroo.Kernel
