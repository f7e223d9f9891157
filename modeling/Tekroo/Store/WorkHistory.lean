import Tekroo.Kernel.WorkItem
import Tekroo.Lib.Log
import Tekroo.Store.Growth

namespace Tekroo.Kernel

open Lib Checked

variable {evaluator : Evaluator} {copy current : Store}
  (applied : AppliedCommand evaluator copy current) {eventID : UUIDv7} {item : AggregateRef}

/-! # The history of stories and tasks -/

def Store.StatesCurrent (store : Store) : Prop :=
  ∀ reference state, store.states.lookup reference = some state →
    store.revisions.lookup reference = some state.revision

namespace AppliedCommand

theorem forWork (work : applied.target.kind = .story ∨ applied.target.kind = .task) :
    applied.command.commandType.forWork = true := by
  have kind := applied.targetKind
  rw [CommandType.forWork, applied.entry]
  rcases work with work | work <;> rw [work] at kind <;> simp [kind]

variable (grown : copy.Extends current) (held : current.StatesCurrent)

include grown held

theorem snapshot_state :
    applied.snapshot.state = current.states.lookup applied.target := by
  have loaded : applied.snapshot.state =
    if (copy.revisions.lookup applied.target).isSome then copy.states.lookup applied.target
    else none := rfl
  rw [loaded, (grown.unmoved _ applied.target_revision).states, applied.target_revision]
  split
  · rfl
  · next absent =>
    cases found : current.states.lookup applied.target with
    | none => rfl
    | some state => simp [held _ _ found] at absent

theorem evolves {state : AggregateState}
    (found : current.states.lookup applied.target = some state) :
    ∃ next, applied.acceptance.nextState = some next ∧
      evolveExisting applied.command state applied.snapshot.revision applied.event.eventID =
        .ok next := by
  have existing : commandCreatesAggregate applied.command = false := by
    have present := applied.target_present
    simpa [held _ _ found] using present
  have stored := (applied.snapshot_state grown held).trans found
  obtain ⟨creates, _⟩ | ⟨_, ⟨absent, _⟩ | ⟨_, next, loaded, made, moved⟩⟩ :=
    evolveState_cases applied.admitted.evolved
  · cases existing.symm.trans creates
  · cases absent.symm.trans stored
  · cases loaded.symm.trans stored
    exact ⟨next, made, moved⟩

theorem created (work : applied.target.kind = .story ∨ applied.target.kind = .task)
    (absent : current.states.lookup applied.target = none) :
    applied.acceptance.nextState = some (createdWork applied.target) := by
  have stored := (applied.snapshot_state grown held).trans absent
  obtain ⟨_, _, _, made, rfl | created⟩ | ⟨_, ⟨_, _, story, task⟩ | ⟨_, _, loaded, _⟩⟩ :=
    evolveState_cases applied.admitted.evolved
  · exact made
  · cases (createOperatorState_forWork created).symm.trans (applied.forWork work)
  · exact (work.elim story task).elim
  · cases loaded.symm.trans stored

theorem statesCurrent : applied.after.StatesCurrent := by
  intro reference state found
  rw [applied.after_states] at found
  rw [applied.after_revisions]
  split at found
  · next target =>
    subst target
    rw [if_pos rfl]
    cases next : applied.acceptance.nextState with
    | some moved =>
      rw [next, Option.some_or] at found
      cases found
      exact applied.prepared.formed.stateRevision _ next
    | none =>
      -- A target without a next state had none before.
      rw [next, Option.none_or] at found
      obtain ⟨moved, same, _⟩ := applied.evolves grown held found
      simp [next] at same
  · next other =>
    rw [if_neg other]
    exact held _ _ found

end AppliedCommand

theorem Evaluator.Reaches.statesCurrent {allowed : Store → Store → StoreInput → Prop}
    {shared : Shared Store} (reached : evaluator.Reaches allowed shared) :
    shared.current.StatesCurrent := by
  refine reached.holds (fun _ _ => by simp [Store.StatesCurrent, Store.new])
    (fun same held => ?_)
    (fun applied reached taken _ _ held => applied.statesCurrent (reached.growth taken) held)
  rwa [Store.StatesCurrent, same.states, same.revisions]

def DomainEvent.reopens (event : DomainEvent) (item : AggregateRef) : Bool :=
  event.eventType == .workReopened && event.aggregate == item

/-- The item was reopened after the event. -/
def Store.reopenedSince (store : Store) (eventID : UUIDv7) (item : AggregateRef) : Bool :=
  (since (fun event => event.eventID == eventID) store.events).any fun event =>
    event.reopens item

/-- At the event the item was in the given epoch and scope, which it has left exactly when it
was reopened since. -/
structure Store.Stamped (store : Store) (eventID : UUIDv7) (item : AggregateRef)
    (epoch scope : Nat) : Prop where
  work : item.kind = .story ∨ item.kind = .task
  logged : ∃ event ∈ store.events, event.eventID = eventID
  state : ∃ state, store.states.lookup item = some state ∧
    if store.reopenedSince eventID item then epoch < state.lifecycleEpoch
    else state.lifecycleEpoch = epoch ∧ state.scopeRevision = scope

theorem Store.Stamped.congr {before after : Store} {epoch scope : Nat}
    (same : before.SameWork after) (stamped : before.Stamped eventID item epoch scope) :
    after.Stamped eventID item epoch scope where
  work := stamped.work
  logged := same.events ▸ stamped.logged
  state := by
    unfold Store.reopenedSince
    rw [same.states, same.events]
    exact stamped.state

namespace AppliedCommand

theorem event_reopens (item : AggregateRef) :
    applied.event.reopens item =
      (applied.command.commandType == .workReopen && applied.target == item) := by
  unfold DomainEvent.reopens
  congr 1
  rw [Bool.eq_iff_iff, beq_iff_eq, beq_iff_eq]
  exact ⟨fun type => applied.commandType_of type rfl, fun type => applied.eventType_of type rfl⟩

theorem after_reopenedSince (logged : ∃ event ∈ current.events, event.eventID = eventID) :
    applied.after.reopenedSince eventID item =
      (current.reopenedSince eventID item || applied.event.reopens item) := by
  unfold Store.reopenedSince
  rw [applied.after_events, since_append _ (by simpa using logged), List.any_append,
    List.any_cons, List.any_nil, Bool.or_false]

theorem stamped {epoch scope : Nat} (grown : copy.Extends current) (held : current.StatesCurrent)
    (stamp : current.Stamped eventID item epoch scope) :
    applied.after.Stamped eventID item epoch scope where
  work := stamp.work
  logged := by
    obtain ⟨event, member, same⟩ := stamp.logged
    exact ⟨event, by simp [member], same⟩
  state := by
    obtain ⟨state, found, age⟩ := stamp.state
    rw [applied.after_reopenedSince stamp.logged, applied.event_reopens, applied.after_states]
    by_cases target : item = applied.target
    · subst target
      obtain ⟨next, moved, evolved⟩ := applied.evolves grown held found
      have epochs := evolveExisting_epoch (applied.forWork stamp.work) evolved
      refine ⟨next, by simp [moved], ?_⟩
      by_cases reopening : applied.command.commandType = .workReopen
      · simp only [reopening, if_true] at epochs
        simp only [reopening, beq_self_eq_true, Bool.and_self, Bool.or_true, if_true]
        split at age <;> omega
      · simp only [reopening, if_false] at epochs
        simp only [beq_eq_false_iff_ne.mpr reopening, Bool.false_and, Bool.or_false]
        rwa [epochs.1, epochs.2]
    · refine ⟨state, by simpa [target] using found, ?_⟩
      simp only [beq_eq_false_iff_ne.mpr (Ne.symm target), Bool.and_false, Bool.or_false]
      exact age

theorem stamps {state : AggregateState} (work : item.kind = .story ∨ item.kind = .task)
    (found : applied.after.states.lookup item = some state) :
    applied.after.Stamped applied.event.eventID item state.lifecycleEpoch
      state.scopeRevision where
  work
  logged := ⟨applied.event, by simp, rfl⟩
  state := by
    refine ⟨state, found, ?_⟩
    have unseen : since (fun event => event.eventID == applied.event.eventID)
        applied.after.events = [] :=
      since_append_start (fun event member => by simpa using applied.event_notMem member)
        (beq_self_eq_true applied.event.eventID)
    rw [Store.reopenedSince, unseen]
    exact ⟨rfl, rfl⟩

end AppliedCommand

section Stamped

variable {store : Store} {epoch scope : Nat} (stamped : store.Stamped eventID item epoch scope)

include stamped

/-- A stamped epoch is the item's current one exactly when it was not reopened since. -/
theorem Store.Stamped.epoch_iff :
    (∃ state, store.states.lookup item = some state ∧ state.lifecycleEpoch = epoch) ↔
      store.reopenedSince eventID item = false := by
  obtain ⟨state, found, age⟩ := stamped.state
  simp only [found, Option.some.injEq, exists_eq_left']
  cases reopened : store.reopenedSince eventID item <;> simp [reopened] at age ⊢ <;> omega

theorem Store.Stamped.scope_iff :
    (∃ state, store.states.lookup item = some state ∧ state.lifecycleEpoch = epoch ∧
        state.scopeRevision = scope) ↔
      store.reopenedSince eventID item = false := by
  obtain ⟨state, found, age⟩ := stamped.state
  grind

end Stamped

/-! # Authorized invocations

The preconditions of an authorization pin the task and the account, so their revisions are those
the commit finds.
-/

namespace InvocationAuthorizationPayload

variable (permit : InvocationAuthorizationPayload)

def accountRef : AggregateRef :=
  ⟨.workBudget, permit.budgetAccountID⟩

def taskRef : AggregateRef := ⟨.task, permit.taskID⟩

end InvocationAuthorizationPayload

theorem Store.validateWorkBudgetCommit_ok {store : Store} {debit : WorkBudgetDebitDecision}
    {account : WorkBudgetAccount} {binding : TaskWorkBudgetBinding}
    (foundAccount : store.workBudgetAccounts.lookup debit.account = some account)
    (foundBinding : store.taskWorkBudgets.lookup debit.task = some binding)
    (checked : store.validateWorkBudgetCommit debit = .ok ()) :
    debit.expectedGlobalUsed = account.modelInvocationsUsed ∧
      debit.expectedGlobalPurposeUsed = account.purposeUsed.count debit.purpose ∧
      debit.expectedTaskUsed = binding.modelInvocationsUsed ∧
      debit.expectedTaskPurposeUsed = binding.purposeUsed.count debit.purpose := by
  simp [validateWorkBudgetCommit, foundAccount, foundBinding] at checked
  obtain ⟨_, ⟨⟨⟨_, used⟩, purposeUsed⟩, taskUsed⟩, taskPurposeUsed⟩ := checked
  exact ⟨used.symm, purposeUsed.symm, taskUsed.symm, taskPurposeUsed.symm⟩

/-- An authorization takes one invocation from an account and from the binding of a task, both
as the store holds them, and logs its permit. -/
structure AppliedCommand.Charges {evaluator : Evaluator} {copy current : Store}
    (applied : AppliedCommand evaluator copy current) (permit : InvocationAuthorizationPayload)
    (debit : WorkBudgetDebitDecision) (account : WorkBudgetAccount)
    (binding : TaskWorkBudgetBinding) (invocation : WorkInvocation) : Prop where
  payload : applied.event.payload = .invocationAuthorization permit
  debited : applied.decision.workBudget = some debit
  purposeValid : permit.purpose.valid = true
  accountRef : debit.account = permit.accountRef
  taskRef : debit.task = permit.taskRef
  purpose : debit.purpose = permit.purpose
  foundAccount : current.workBudgetAccounts.lookup permit.accountRef = some account
  foundBinding : current.taskWorkBudgets.lookup permit.taskRef = some binding
  within : account.modelInvocationsUsed < account.modelInvocationLimit
  purposeWithin : account.purposeUsed.count permit.purpose <
    account.purposeLimits.count permit.purpose
  ordinal : permit.globalDebitOrdinal = account.modelInvocationsUsed + 1
  globalUsed : debit.nextGlobalUsed = account.modelInvocationsUsed + 1
  globalPurposeUsed :
    debit.nextGlobalPurposeUsed = account.purposeUsed.count permit.purpose + 1
  taskUsed : debit.nextTaskUsed = binding.modelInvocationsUsed + 1
  taskPurposeUsed : debit.nextTaskPurposeUsed = binding.purposeUsed.count permit.purpose + 1
  kept : invocation.permit = permit
  accounts : applied.after.workBudgetAccounts = current.workBudgetAccounts.insert
    permit.accountRef (Store.chargedAccount account debit applied.event.eventID)
  bindings : applied.after.taskWorkBudgets = current.taskWorkBudgets.insert permit.taskRef
    (Store.chargedBinding binding debit)
  invocations :
    applied.after.workInvocations = current.workInvocations.insert applied.target invocation

namespace AppliedCommand

theorem pinned_limits (grown : copy.Extends current) {reference : AggregateRef}
    {loaded account : WorkBudgetAccount}
    (named : containsAggregatePrecondition applied.command reference = true)
    (before : applied.snapshot.workBudgetAccounts.lookup reference = some loaded)
    (found : current.workBudgetAccounts.lookup reference = some account) :
    loaded.limits = account.limits := by
  have same := (grown.unmoved reference (applied.pinned named)).limits
  rw [show copy.workBudgetAccounts.lookup reference = some loaded from before, found] at same
  exact Option.some.inj same

theorem charges (grown : copy.Extends current)
    (eventType : applied.event.eventType = .workInvocationAuthorized) :
    ∃ permit debit account binding invocation,
      applied.Charges permit debit account binding invocation := by
  obtain ⟨value, admission, planned, debit, _, admits, plan, payload, debited⟩ :=
    applied.authorizes eventType
  obtain ⟨change, changed, some_, accounts, bindings, invocations⟩ := applied.after_phase4
  cases change with
  | none => exact absurd eventType (some_ rfl).1
  | some projection =>
    cases changed projection rfl with
    | authorized _ charged valid authorized target ordinal foundAccount foundBinding =>
      rw [debited] at charged
      cases charged
      obtain ⟨carried, _⟩ := DomainEvent.authorizedInvocation_ok authorized
      have permit := (Payload.invocationAuthorization.inj (carried.symm.trans payload)).trans
        (congrArg WorkInvocation.permit plan.invocation)
      obtain ⟨used, purposeUsed, taskUsed, taskPurposeUsed⟩ :=
        Store.validateWorkBudgetCommit_ok foundAccount foundBinding
          ((Store.checkBudgets_ok.mp applied.prepared.budgets).2 debit debited)
      have accountRef : debit.account = (admission.charged value).accountRef := by
        rw [plan.debit]
        exact congrArg _ plan.account
      have taskRef : debit.task = (admission.charged value).taskRef := by
        rw [plan.debit]
        exact congrArg _ plan.task
      rw [accountRef] at foundAccount
      rw [taskRef] at foundBinding
      have limits := applied.pinned_limits grown admits.accountPinned admits.account
        foundAccount
      obtain ⟨limit, purposeLimits⟩ := Prod.mk.inj limits
      have valid := plan.payload
      simp only [InvocationAuthorizationPayload.valid, tests_iff] at valid
      rw [plan.debit] at used purposeUsed taskUsed taskPurposeUsed
      exact ⟨admission.charged value, debit, _, _, _, {
        payload := carried.trans (congrArg _ permit)
        purposeValid := by simp [InvocationAdmission.charged, valid]
        debited, accountRef, taskRef, foundAccount, foundBinding
        purpose := by rw [plan.debit]; rfl
        within := used ▸ limit ▸ plan.within
        purposeWithin := purposeLimits ▸ purposeUsed ▸ plan.purposeWithin
        ordinal := congrArg Nat.succ used
        globalUsed := by rw [plan.debit]; exact congrArg Nat.succ used
        globalPurposeUsed := by rw [plan.debit]; exact congrArg Nat.succ purposeUsed
        taskUsed := by rw [plan.debit]; exact congrArg Nat.succ taskUsed
        taskPurposeUsed := by rw [plan.debit]; exact congrArg Nat.succ taskPurposeUsed
        kept := permit
        accounts := by rw [accounts, ← accountRef]; rfl
        bindings := by rw [bindings, ← taskRef]; rfl
        invocations := invocations }⟩
    | created other | amended other | bound other | rescoped other | moved other =>
      rw [eventType] at other
      cases other

end AppliedCommand

end Tekroo.Kernel
