import Tekroo.Kernel.Policy.Common

namespace Tekroo.Kernel

open Checked

/-! # Policy of budgets, operational scopes and invocations -/

/-- `phase4PolicyDecision`: what an accepted command of this group contributes to its
event. -/
structure Phase4PolicyDecision where
  eventPayload : Payload
  workBudget : Option WorkBudgetDebitDecision := none
  lifecycleEpoch : Nat

variable (command : KernelCommand) (snapshot : Snapshot) (context : DecisionContext)

/-- Reading a missing entry of the execution map gives the zero tuple. -/
def Snapshot.currentExecution (actor : ActorFQN) : ExecutionTuple :=
  (snapshot.currentExecutions.lookup actor).getD ⟨.text "", 0⟩

def createBudgetPolicy : Payload → Except Refusal Phase4PolicyDecision
  | .workBudget value => do
    let account ← demand (value.account context.eventID) .invalidPayload
    refuse (account.id != command.target.id || !payloadEvidenceMatches command ||
      value.authority != command.authority) .invalidPayload
    refuse (!((snapshot.related.lookup account.rootWork).any fun root =>
        root.present && root.state.any fun state =>
          state.lifecycleEpoch == account.lifecycleEpoch) ||
      !containsAggregatePrecondition command account.rootWork ||
      !decide (context.decidedAt < account.deadlineAt))
      ⟨.rejectedConflict, "INVALID_ROOT_BUDGET"⟩
    return { eventPayload := command.payload, lifecycleEpoch := account.lifecycleEpoch }
  | _ => .error .invalidPayload

def amendBudgetPolicy : Payload → Except Refusal Phase4PolicyDecision
  | .workBudget value => do
    let current ← demand (snapshot.workBudgetAccounts.lookup command.target)
      ⟨.rejectedConflict, "MISSING_BUDGET"⟩
    refuse (!current.valid) ⟨.rejectedConflict, "MISSING_BUDGET"⟩
    refuse ((current.applyAmendment value context.eventID).isNone ||
      !payloadEvidenceMatches command || value.authority != command.authority)
      ⟨.rejectedPolicy, "INVALID_BUDGET_AMENDMENT"⟩
    return { eventPayload := command.payload, lifecycleEpoch := current.lifecycleEpoch }
  | _ => .error ⟨.rejectedPolicy, "INVALID_BUDGET_AMENDMENT"⟩

def rebindingAllowed (binding : TaskWorkBudgetBinding) :
    Option TaskWorkBudgetBinding → Except Refusal Unit
  | none => .ok ()
  | some current => do
    refuse (current.budgetAccountID != binding.budgetAccountID)
      ⟨.rejectedPolicy, "BUDGET_RESET_PROHIBITED"⟩
    refuse (decide (binding.modelInvocationLimit < current.modelInvocationsUsed) ||
      allWorkPurposes.any (fun purpose =>
        decide (binding.purposeLimits.count purpose < current.purposeUsed.count purpose)))
      ⟨.rejectedPolicy, "CAPACITY_MINT_PROHIBITED"⟩

def bindBudgetPolicy : Payload → Except Refusal Phase4PolicyDecision
  | .taskWorkBudget value => do
    let conflict : Refusal := ⟨.rejectedConflict, "INVALID_BUDGET_BINDING"⟩
    let binding ← demand (value.binding context.eventID) conflict
    let state ← demand snapshot.state conflict
    let accountRef : AggregateRef := ⟨.workBudget, binding.budgetAccountID⟩
    let account ← demand (snapshot.workBudgetAccounts.lookup accountRef) conflict
    refuse (binding.taskID != command.target.id ||
      binding.taskRevision != snapshot.revision + 1 ||
      binding.lifecycleEpoch != state.lifecycleEpoch ||
      binding.scopeRevision != state.scopeRevision || !account.valid ||
      !containsAggregatePrecondition command accountRef || !payloadEvidenceMatches command)
      conflict
    rebindingAllowed binding (snapshot.taskWorkBudgets.lookup command.target)
    refuse (decide (account.modelInvocationLimit < binding.modelInvocationLimit) ||
      allWorkPurposes.any (fun purpose =>
        decide (account.purposeLimits.count purpose < binding.purposeLimits.count purpose)))
      ⟨.rejectedPolicy, "CAPACITY_MINT_PROHIBITED"⟩
    return { eventPayload := command.payload, lifecycleEpoch := binding.lifecycleEpoch }
  | _ => .error ⟨.rejectedConflict, "INVALID_BUDGET_BINDING"⟩

def bindOperationalScopePolicy : Payload → Except Refusal Phase4PolicyDecision
  | .operationalScope value => do
    let conflict : Refusal := ⟨.rejectedConflict, "INVALID_OPERATIONAL_SCOPE"⟩
    let scope ← demand (value.scope context.eventID) conflict
    let state ← demand snapshot.state conflict
    refuse (scope.taskID != command.target.id ||
      scope.taskRevision != snapshot.revision + 1 ||
      scope.lifecycleEpoch != state.lifecycleEpoch ||
      scope.scopeRevision != state.scopeRevision ||
      state.ownership.ownerFQN != some scope.ownerFQN ||
      snapshot.currentExecution scope.ownerFQN != scope.execution ||
      !evidenceFieldMatches value.interfaceEvidenceIDs command.evidenceRefs) conflict
    return { eventPayload := command.payload, lifecycleEpoch := scope.lifecycleEpoch }
  | _ => .error ⟨.rejectedConflict, "INVALID_OPERATIONAL_SCOPE"⟩

def invocationAdmission (value : InvocationAuthorizationPayload) :
    Except Refusal InvocationAdmission := do
  let missing : Refusal := ⟨.rejectedPolicy, "MISSING_BUDGET"⟩
  let taskRef : AggregateRef := ⟨.task, value.taskID⟩
  let budgetRef : AggregateRef := ⟨.workBudget, value.budgetAccountID⟩
  let task ← demand ((snapshot.related.lookup taskRef).bind (·.state)) missing
  let account ← demand (snapshot.workBudgetAccounts.lookup budgetRef) missing
  let binding ← demand (snapshot.taskWorkBudgets.lookup taskRef) missing
  let scope ← demand (snapshot.taskOperationalScopes.lookup taskRef) missing
  let profile ← demand (snapshot.workProfiles.lookup taskRef) missing
  let assignment ← demand (snapshot.qualifiedAssignments.lookup taskRef) missing
  refuse (!containsAggregatePrecondition command taskRef ||
    !containsAggregatePrecondition command budgetRef) missing
  return {
    task, account, binding, scope, profile, assignment
    currentExecution := snapshot.currentExecution value.actorFQN
    invocations := snapshot.workInvocations.entries.map (·.2) }

def authorizeInvocationPolicy : Payload → Except Refusal Phase4PolicyDecision
  | .invocationAuthorization value => do
    refuse (!value.valid || value.invocationID != command.target.id ||
      command.idempotencyKey != value.idempotencyKey ||
      !containsDagParent command value.parentEventID .causal)
      ⟨.rejectedInvalid, "INVALID_INVOCATION"⟩
    let admission ← invocationAdmission command snapshot value
    match admission.plan value context.decidedAt context.eventID with
    | .error reason => .error ⟨.rejectedPolicy, reason⟩
    | .ok (invocation, debit) =>
      return {
        eventPayload := .invocationAuthorization invocation.permit
        workBudget := some debit
        lifecycleEpoch := invocation.permit.lifecycleEpoch }
  | _ => .error ⟨.rejectedInvalid, "INVALID_INVOCATION"⟩

def invocationEventType : CommandType → Option EventType
  | .workInvocationClaim => some .workInvocationClaimed
  | .workInvocationRecordStarted => some .workInvocationStarted
  | .workInvocationRecordTerminal => some .workInvocationTerminalRecorded
  | .workInvocationRequestCancellation => some .workInvocationCancellationRequested
  | .workInvocationExpire => some .workInvocationExpired
  | _ => none

def invocationStepRefusal (current : WorkInvocation) : Refusal :=
  if command.commandType == .workInvocationClaim && current.state != .authorized then
    ⟨.rejectedConflict, "PERMIT_ALREADY_CONSUMED"⟩
  else if command.commandType == .workInvocationRecordTerminal then
    ⟨.rejectedPolicy, "TERMINAL_EVIDENCE_REQUIRED"⟩
  else ⟨.rejectedConflict, "INVALID_INVOCATION_TRANSITION"⟩

def invocationTransitionPolicy (eventType : EventType) : Except Refusal Phase4PolicyDecision := do
  let notFound : Refusal := ⟨.rejectedNotFound, "TARGET_NOT_FOUND"⟩
  let current ← demand (snapshot.workInvocations.lookup command.target) notFound
  refuse (!current.valid) notFound
  refuse (current.applyWorkInvocationEvent (.trial eventType context.eventID command.target
    (snapshot.revision + 1) 0 command.payload)).isNone (invocationStepRefusal command current)
  return { eventPayload := command.payload, lifecycleEpoch := current.permit.lifecycleEpoch }

/-- `evaluatePhase4Command`; `none` for the commands it does not handle. -/
def evaluatePhase4Command : Option (Except Refusal Phase4PolicyDecision) :=
  match command.commandType with
  | .workBudgetCreate => some (createBudgetPolicy command snapshot context command.payload)
  | .workBudgetAmend => some (amendBudgetPolicy command snapshot context command.payload)
  | .taskBindWorkBudget => some (bindBudgetPolicy command snapshot context command.payload)
  | .taskBindOperationalScope =>
    some (bindOperationalScopePolicy command snapshot context command.payload)
  | .workInvocationAuthorize =>
    some (authorizeInvocationPolicy command snapshot context command.payload)
  | commandType =>
    (invocationEventType commandType).map
      (invocationTransitionPolicy command snapshot context)

section Accepted

variable {command : KernelCommand} {snapshot : Snapshot} {context : DecisionContext}
  {payload : Payload} {result : Phase4PolicyDecision} {eventType : EventType}
  {admission : InvocationAdmission} {value : InvocationAuthorizationPayload}

theorem evaluatePhase4Command_invocation
    (moves : invocationEventType command.commandType = some eventType) :
    evaluatePhase4Command command snapshot context =
      some (invocationTransitionPolicy command snapshot context eventType) := by
  unfold invocationEventType at moves
  split at moves <;> cases moves
  all_goals
    next type =>
    simp only [evaluatePhase4Command, type, invocationEventType, Option.map_some]

theorem createBudgetPolicy_ok
    (accepted : createBudgetPolicy command snapshot context payload = .ok result) :
    ∃ value account, payload = .workBudget value ∧
      value.account context.eventID = some account ∧ account.id = command.target.id ∧
      result = { eventPayload := command.payload, lifecycleEpoch := account.lifecycleEpoch } := by
  cases payload <;> simp [createBudgetPolicy] at accepted
  obtain ⟨account, found, ⟨⟨same, _⟩, _⟩, _, rfl⟩ := accepted
  exact ⟨_, account, rfl, found, same, rfl⟩

theorem amendBudgetPolicy_ok
    (accepted : amendBudgetPolicy command snapshot context payload = .ok result) :
    ∃ value account, payload = .workBudget value ∧
      snapshot.workBudgetAccounts.lookup command.target = some account ∧
      account.valid = true ∧ (account.applyAmendment value context.eventID).isSome ∧
      result = { eventPayload := command.payload, lifecycleEpoch := account.lifecycleEpoch } := by
  cases payload <;> simp [amendBudgetPolicy] at accepted
  obtain ⟨account, found, valid, ⟨⟨amended, _⟩, _⟩, rfl⟩ := accepted
  exact ⟨_, account, rfl, found, valid, by simpa [Option.isSome_iff_ne_none] using amended, rfl⟩

theorem bindBudgetPolicy_ok
    (accepted : bindBudgetPolicy command snapshot context payload = .ok result) :
    ∃ value binding, payload = .taskWorkBudget value ∧
      value.binding context.eventID = some binding ∧ binding.taskID = command.target.id ∧
      binding.taskRevision = snapshot.revision + 1 ∧
      rebindingAllowed binding (snapshot.taskWorkBudgets.lookup command.target) = .ok () ∧
      result = { eventPayload := command.payload, lifecycleEpoch := binding.lifecycleEpoch } := by
  cases payload <;> simp [bindBudgetPolicy] at accepted
  obtain ⟨binding, found, state, _, account, _, checked, allowed, _, rfl⟩ := accepted
  exact ⟨_, binding, rfl, found, checked.1.1.1.1.1.1, checked.1.1.1.1.1.2, allowed, rfl⟩

theorem bindOperationalScopePolicy_ok
    (accepted : bindOperationalScopePolicy command snapshot context payload = .ok result) :
    ∃ value scope, payload = .operationalScope value ∧
      value.scope context.eventID = some scope ∧ scope.taskID = command.target.id ∧
      scope.taskRevision = snapshot.revision + 1 ∧
      snapshot.currentExecution scope.ownerFQN = scope.execution ∧
      result = { eventPayload := command.payload, lifecycleEpoch := scope.lifecycleEpoch } := by
  cases payload <;> simp [bindOperationalScopePolicy] at accepted
  obtain ⟨scope, found, state, _, checked, rfl⟩ := accepted
  exact ⟨_, scope, rfl, found, checked.1.1.1.1.1.1, checked.1.1.1.1.1.2, checked.1.2, rfl⟩

structure Admits (command : KernelCommand) (snapshot : Snapshot)
    (value : InvocationAuthorizationPayload) (admission : InvocationAdmission) : Prop where
  task : (snapshot.related.lookup ⟨.task, value.taskID⟩).bind (·.state) = some admission.task
  account : snapshot.workBudgetAccounts.lookup ⟨.workBudget, value.budgetAccountID⟩ =
    some admission.account
  binding : snapshot.taskWorkBudgets.lookup ⟨.task, value.taskID⟩ = some admission.binding
  taskPinned : containsAggregatePrecondition command ⟨.task, value.taskID⟩ = true
  accountPinned :
    containsAggregatePrecondition command ⟨.workBudget, value.budgetAccountID⟩ = true
  execution : admission.currentExecution = snapshot.currentExecution value.actorFQN
  invocations : admission.invocations = snapshot.workInvocations.entries.map (·.2)

theorem invocationAdmission_ok
    (admitted : invocationAdmission command snapshot value = .ok admission) :
    Admits command snapshot value admission := by
  simp only [invocationAdmission, chain_ok, tests_iff] at admitted
  obtain ⟨task, foundTask, account, foundAccount, binding, foundBinding, scope, _, profile, _,
    assignment, _, ⟨taskPinned, accountPinned⟩, rfl⟩ := admitted
  exact ⟨foundTask, foundAccount, foundBinding, taskPinned, accountPinned, rfl, rfl⟩

theorem Admits.debited {eventID : UUIDv7} {invocation : WorkInvocation}
    {debit : WorkBudgetDebitDecision} (admits : Admits command snapshot value admission)
    (planned : admission.Planned value eventID invocation debit) :
    snapshot.workBudgetAccounts.lookup debit.account = some admission.account ∧
      snapshot.taskWorkBudgets.lookup debit.task = some admission.binding := by
  have account := admits.account
  have binding := admits.binding
  rw [← planned.account] at account
  rw [← planned.task] at binding
  rw [planned.debit]
  exact ⟨account, binding⟩

theorem authorizeInvocationPolicy_ok
    (accepted : authorizeInvocationPolicy command snapshot context payload = .ok result) :
    ∃ value admission invocation debit, payload = .invocationAuthorization value ∧
      value.invocationID = command.target.id ∧ Admits command snapshot value admission ∧
      admission.Planned value context.eventID invocation debit ∧
      result = {
        eventPayload := .invocationAuthorization invocation.permit
        workBudget := some debit
        lifecycleEpoch := invocation.permit.lifecycleEpoch } := by
  cases payload <;> simp [authorizeInvocationPolicy] at accepted
  obtain ⟨checked, admission, admitted, planned⟩ := accepted
  split at planned
  · cases planned
  · next invocation debit plan =>
    cases planned
    exact ⟨_, admission, invocation, debit, rfl, checked.1.1.2,
      invocationAdmission_ok admitted, InvocationAdmission.plan_ok plan, rfl⟩

theorem invocationTransitionPolicy_ok
    (accepted : invocationTransitionPolicy command snapshot context eventType = .ok result) :
    ∃ current, snapshot.workInvocations.lookup command.target = some current ∧
      current.valid = true ∧
      (current.applyWorkInvocationEvent (.trial eventType context.eventID command.target
        (snapshot.revision + 1) 0 command.payload)).isSome ∧
      result = {
        eventPayload := command.payload
        lifecycleEpoch := current.permit.lifecycleEpoch } := by
  simp [invocationTransitionPolicy] at accepted
  obtain ⟨current, found, valid, moved, rfl⟩ := accepted
  exact ⟨current, found, valid, by simpa [Option.isSome_iff_ne_none] using moved, rfl⟩

end Accepted

variable (hashes : Hashes)

inductive BudgetOutcome where
  | consumed | duplicate | exhausted | rejected

/-- The outcome of `AttemptBudget.Consume` on a copy of the stored budget. -/
def AttemptBudgetSnapshot.consume (budget : AttemptBudgetSnapshot) (attemptKey : UUIDv7)
    (conditionDigest : Digest) (changed override : Bool) : BudgetOutcome :=
  match budget.attempts.lookup attemptKey with
  | some prior => if prior == conditionDigest then .duplicate else .rejected
  | none =>
    if attemptKey == .text "" || !conditionDigest.valid || (!changed && !override) then
      .rejected
    else if budget.limit == 0 || decide (budget.limit ≤ budget.used) then .exhausted
    else .consumed

def evaluateAttemptPolicy (command : KernelCommand) (snapshot : Snapshot) :
    Except Refusal (Option AttemptBudgetDecision) :=
  match snapshot.authorization.requirements.attemptLimits.lookup command.commandType with
  | none => .ok none
  | some limit => do
    refuse (limit == 0) ⟨.rejectedPolicy, "RETRY_BUDGET_EXHAUSTED"⟩
    let key : AttemptBudgetKey := ⟨command.target, command.commandType⟩
    let current := (snapshot.attemptBudgets.lookup key).getD ⟨limit, 0, ∅⟩
    refuse (current.limit != limit || decide (current.limit < current.used))
      ⟨.rejectedConflict, "POLICY_REVISION_CONFLICT"⟩
    let conditionDigest := commandFingerprint hashes { command with causation := [] }
    let changed := !(current.attempts.entries.any fun prior => prior.2 == conditionDigest)
    match current.consume command.commandID conditionDigest changed
        snapshot.authorization.requirements.allowUnchangedRetry with
    | .consumed =>
      .ok (some ⟨key, current.used, limit, command.commandID, conditionDigest⟩)
    | .exhausted => .error ⟨.rejectedPolicy, "RETRY_BUDGET_EXHAUSTED"⟩
    | .duplicate => .error ⟨.rejectedConflict, "DOMAIN_ATTEMPT_REPLAY"⟩
    | .rejected => .error ⟨.rejectedPolicy, "RETRY_CONDITION_UNCHANGED"⟩

def AttemptBudgetDecision.valid (value : AttemptBudgetDecision) : Bool :=
  value.key.subject.valid && value.key.operation != .other "" && value.limit != 0 &&
    decide (value.expectedUsed < value.limit) && value.attemptKey != .text "" &&
    value.conditionDigest.valid

def AttemptBudgetDecision.budget (attempt : AttemptBudgetDecision)
    (budgets : Table AttemptBudgetKey AttemptBudgetSnapshot) : AttemptBudgetSnapshot :=
  (budgets.lookup attempt.key).getD ⟨attempt.limit, 0, ∅⟩

structure AttemptBudgetDecision.Planned (attempt : AttemptBudgetDecision)
    (command : KernelCommand) (snapshot : Snapshot) : Prop where
  governed : snapshot.authorization.requirements.attemptLimits.lookup command.commandType =
    some attempt.limit
  key : attempt.key = ⟨command.target, command.commandType⟩
  attemptKey : attempt.attemptKey = command.commandID
  condition : attempt.conditionDigest = commandFingerprint hashes { command with causation := [] }
  named : attempt.attemptKey ≠ .text ""
  digest : attempt.conditionDigest.valid = true
  limit : (attempt.budget snapshot.attemptBudgets).limit = attempt.limit
  used : (attempt.budget snapshot.attemptBudgets).used = attempt.expectedUsed
  within : attempt.expectedUsed < attempt.limit
  fresh : (attempt.budget snapshot.attemptBudgets).attempts.lookup attempt.attemptKey = none
  changed : snapshot.authorization.requirements.allowUnchangedRetry = false →
    ∀ prior ∈ (attempt.budget snapshot.attemptBudgets).attempts.entries,
      prior.2 ≠ attempt.conditionDigest

section Attempts

variable {hashes : Hashes} {command : KernelCommand} {snapshot : Snapshot}
  {attempt : AttemptBudgetDecision}

theorem AttemptBudgetSnapshot.consume_ok {budget : AttemptBudgetSnapshot}
    {attemptKey : UUIDv7} {conditionDigest : Digest} {changed override : Bool}
    (consumed : budget.consume attemptKey conditionDigest changed override = .consumed) :
    budget.attempts.lookup attemptKey = none ∧ attemptKey ≠ .text "" ∧
      conditionDigest.valid = true ∧ (override = false → changed = true) ∧
      budget.used < budget.limit := by
  unfold consume at consumed
  split at consumed
  · split at consumed <;> cases consumed
  · next absent =>
    split at consumed
    · cases consumed
    · next fit =>
      split at consumed
      · cases consumed
      · next left =>
        simp only [tests_iff, not_or, Bool.not_eq_false, not_and, Nat.not_le] at fit left
        exact ⟨absent, fit.1.1, fit.1.2, fun strict => by simpa [strict] using fit.2, left.2⟩

theorem evaluateAttemptPolicy_ok
    (consumed : evaluateAttemptPolicy hashes command snapshot = .ok (some attempt)) :
    attempt.Planned hashes command snapshot := by
  unfold evaluateAttemptPolicy at consumed
  split at consumed
  · cases consumed
  · next limit governed =>
    simp only [chain_ok, tests_iff] at consumed
    obtain ⟨_, ⟨same, _⟩, consumed⟩ := consumed
    split at consumed <;> cases consumed
    next taken =>
    obtain ⟨fresh, named, digest, changed, left⟩ := AttemptBudgetSnapshot.consume_ok taken
    refine ⟨governed, rfl, rfl, rfl, named, digest, same, rfl, left.trans_eq same, fresh, ?_⟩
    intro strict prior member
    have differs := changed strict
    simp only [tests_iff, List.any_eq_false] at differs
    exact differs prior member

theorem evaluateAttemptPolicy_none
    (skipped : evaluateAttemptPolicy hashes command snapshot = .ok none) :
    snapshot.authorization.requirements.attemptLimits.lookup command.commandType = none := by
  unfold evaluateAttemptPolicy at skipped
  split at skipped
  · assumption
  · simp only [bind_ok] at skipped
    obtain ⟨_, _, _, _, skipped⟩ := skipped
    split at skipped <;> cases skipped

end Attempts

end Tekroo.Kernel
