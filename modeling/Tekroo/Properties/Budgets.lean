import Tekroo.Properties.Invocations

namespace Tekroo.Kernel

open Lib Checked PurposeCounters

section

variable {binding : TaskWorkBudgetBinding} {account : WorkBudgetAccount}

/-! # Conservation of invocation budgets

The permits in the log are what was charged; the counters of an account and of a task binding stay
those of the log.
-/

def DomainEvent.authorizedPermit (event : DomainEvent) : Option InvocationAuthorizationPayload :=
  match event.eventType, event.payload with
  | .workInvocationAuthorized, .invocationAuthorization permit => some permit
  | _, _ => none

namespace Store

def permits (store : Store) : List InvocationAuthorizationPayload :=
  store.events.filterMap DomainEvent.authorizedPermit

def permitsOfAccount (store : Store) (id : UUIDv7) : List InvocationAuthorizationPayload :=
  store.permits.filter fun permit => permit.budgetAccountID == id

def permitsOfTask (store : Store) (id : UUIDv7) : List InvocationAuthorizationPayload :=
  store.permits.filter fun permit => permit.taskID == id

end Store

def PurposeCounters.Tallies (purposeUsed : PurposeCounters) (used : Nat)
    (permits : List InvocationAuthorizationPayload) : Prop :=
  Tally InvocationAuthorizationPayload.purpose permits used purposeUsed.count

/-- The account counts the permits, within its limits, and numbers them. -/
structure WorkBudgetAccount.Kept (account : WorkBudgetAccount)
    (permits : List InvocationAuthorizationPayload) : Prop where
  known : ∀ permit ∈ permits, permit.purpose.valid = true
  tally : account.purposeUsed.Tallies account.modelInvocationsUsed permits
  ordinals : permits.map (·.globalDebitOrdinal) = List.range' 1 permits.length
  within : account.modelInvocationsUsed ≤ account.modelInvocationLimit
  purposesWithin : ∀ purpose, account.purposeUsed.count purpose ≤
    account.purposeLimits.count purpose

theorem PurposeCounters.count_zero (purpose : WorkPurpose) : zero.count purpose = 0 := by
  have zeroes : ∀ (purposes : List WorkPurpose) (counters : PurposeCounters),
      (∀ purpose, counters.count purpose = 0) → ∀ purpose, count
        (purposes.foldl (fun counters purpose => counters.insert purpose 0) counters)
        purpose = 0 := by
    intro purposes
    induction purposes with
    | nil => exact fun _ zero => zero
    | cons first rest induction =>
      intro counters zero
      refine induction _ fun purpose => ?_
      simp only [count, lookup_insert_eq_ite]
      split
      · rfl
      · exact zero purpose
  exact zeroes _ _ (fun _ => rfl) purpose

theorem PurposeCounters.count_insert (counters : PurposeCounters) (purpose wanted : WorkPurpose)
    (value : Nat) : count (counters.insert purpose value) wanted =
      if wanted = purpose then value else counters.count wanted := by
  simp only [count, lookup_insert_eq_ite]
  split <;> rfl

theorem PurposeCounters.Tallies.zero : zero.Tallies 0 [] :=
  Tally.nil count_zero

variable {counters : PurposeCounters} {used : Nat} {permits : List InvocationAuthorizationPayload}

theorem PurposeCounters.Tallies.charge (tally : counters.Tallies used permits)
    (permit : InvocationAuthorizationPayload) :
    PurposeCounters.Tallies
      (counters.insert permit.purpose (counters.count permit.purpose + 1)) (used + 1)
      (permits ++ [permit]) := by
  refine Tally.append tally fun wanted => ?_
  rw [count_insert]
  split
  · next same => rw [same]
  · rfl

theorem PurposeCounters.Tallies.unused {purpose : WorkPurpose}
    (tally : counters.Tallies used permits)
    (valid : ∀ permit ∈ permits, permit.purpose.valid = true) (unknown : purpose.valid = false) :
    counters.count purpose = 0 := by
  rw [tally.per, List.countP_eq_zero]
  intro permit member same
  rw [← beq_iff_eq.mp same, valid permit member] at unknown
  cases unknown

theorem TaskWorkBudgetPayload.binding_unused {payload : TaskWorkBudgetPayload} {eventID : UUIDv7}
    (parsed : payload.binding eventID = some binding) :
    binding.modelInvocationsUsed = 0 ∧ binding.purposeUsed = .zero := by
  simp only [TaskWorkBudgetPayload.binding, tests_iff] at parsed
  obtain ⟨_, rfl⟩ := parsed
  exact ⟨rfl, rfl⟩

theorem Store.carryCounters_ok {initial : TaskWorkBudgetBinding}
    {previous : Option TaskWorkBudgetBinding}
    (counted : Store.carryCounters initial previous = .ok binding) :
    binding.taskID = initial.taskID ∧ (previous = none → binding = initial) ∧
      ∀ current, previous = some current →
        binding.modelInvocationsUsed = current.modelInvocationsUsed ∧
          binding.purposeUsed = current.purposeUsed := by
  cases previous with
  | none => cases counted; simp
  | some current =>
    simp only [Store.carryCounters, chain_ok] at counted
    obtain ⟨_, _, _, rfl⟩ := counted
    simp

namespace WorkBudgetAccount.Kept

variable {permits : List InvocationAuthorizationPayload} {eventID : UUIDv7}
  {payload : WorkBudgetPayload} {binding : TaskWorkBudgetBinding}

theorem created (opened : payload.account eventID = some account) : account.Kept [] := by
  simp only [WorkBudgetPayload.account, tests_iff] at opened
  obtain ⟨_, rfl⟩ := opened
  exact ⟨List.forall_mem_nil _, .zero, rfl, Nat.zero_le _, fun purpose => by simp [count_zero]⟩

theorem amended {next : WorkBudgetAccount} (kept : account.Kept permits)
    (amendment : account.applyAmendment payload eventID = some next) :
    next.id = account.id ∧ next.Kept permits := by
  simp only [WorkBudgetAccount.applyAmendment, tests_iff] at amendment
  obtain ⟨checked, rfl⟩ := amendment
  refine ⟨rfl, kept.known, kept.tally, kept.ordinals, checked.1.1.1.1.1.2, fun purpose => ?_⟩
  cases known : purpose.valid with
  | true => exact checked.1.2 purpose (by simpa [WorkPurpose.valid] using known)
  | false => exact (kept.tally.unused kept.known known).le.trans (Nat.zero_le _)

theorem charged {evaluator : Evaluator} {copy current : Store}
    {applied : AppliedCommand evaluator copy current} {permit : InvocationAuthorizationPayload}
    {debit : WorkBudgetDebitDecision} {invocation : WorkInvocation} (kept : account.Kept permits)
    (charges : applied.Charges permit debit account binding invocation) (eventID : UUIDv7) :
    (Store.chargedAccount account debit eventID).Kept (permits ++ [permit]) := by
  have tally := kept.tally.charge permit
  simp only [Store.chargedAccount, charges.globalUsed, charges.globalPurposeUsed, charges.purpose]
  refine ⟨?_, tally, ?_, charges.within, fun purpose => ?_⟩
  · simpa [or_imp, forall_and, charges.purposeValid] using kept.known
  · rw [List.map_append, kept.ordinals, List.length_append, List.length_singleton,
      List.range'_1_concat, List.map_singleton, charges.ordinal, kept.tally.total, Nat.add_comm 1]
  · rw [count_insert]
    split
    · next same => exact same ▸ charges.purposeWithin
    · exact kept.purposesWithin purpose

end WorkBudgetAccount.Kept

namespace Store

def AccountsKept (store : Store) : Prop :=
  Accounted InvocationAuthorizationPayload.accountRef
    (fun reference account permits => reference = account.ref ∧ account.Kept permits)
    store.workBudgetAccounts store.permits

def BindingsTallied (store : Store) : Prop :=
  Accounted InvocationAuthorizationPayload.taskRef
    (fun reference binding permits => reference = ⟨.task, binding.taskID⟩ ∧
      binding.purposeUsed.Tallies binding.modelInvocationsUsed permits)
    store.taskWorkBudgets store.permits

variable {store : Store} {reference : AggregateRef}

theorem AccountsKept.found (kept : store.AccountsKept)
    (found : store.workBudgetAccounts.lookup reference = some account) :
    account.Kept (store.permitsOfAccount account.id) := by
  obtain ⟨rfl, kept⟩ := kept.get found
  simpa [entriesOf, permitsOfAccount, InvocationAuthorizationPayload.accountRef,
    WorkBudgetAccount.ref, beq_eq_decide] using kept

theorem BindingsTallied.found (tallied : store.BindingsTallied)
    (found : store.taskWorkBudgets.lookup reference = some binding) :
    reference = ⟨.task, binding.taskID⟩ ∧
      binding.purposeUsed.Tallies binding.modelInvocationsUsed
        (store.permitsOfTask binding.taskID) := by
  obtain ⟨rfl, tally⟩ := tallied.get found
  refine ⟨rfl, ?_⟩
  simpa [entriesOf, permitsOfTask, InvocationAuthorizationPayload.taskRef, beq_eq_decide] using
    tally

structure InvocationsLogged (store : Store) : Prop where
  permits : (store.workInvocations.entries.map fun entry => entry.2.permit).Perm store.permits
  revised : ∀ reference, (store.workInvocations.lookup reference).isSome →
    (store.revisions.lookup reference).isSome

end Store

namespace AppliedCommand

variable {evaluator : Evaluator} {copy current : Store}
  (applied : AppliedCommand evaluator copy current)

theorem after_permits : applied.after.permits =
    current.permits ++ applied.event.authorizedPermit.toList := by
  simp only [Store.permits, applied.after_events, List.filterMap_append, List.filterMap_cons,
    List.filterMap_nil]
  cases applied.event.authorizedPermit <;> rfl

theorem after_permits_same (other : applied.event.eventType ≠ .workInvocationAuthorized) :
    applied.after.permits = current.permits := by
  have none : applied.event.authorizedPermit = none := by
    unfold DomainEvent.authorizedPermit
    split
    · contradiction
    · rfl
  rw [applied.after_permits, none, Option.toList_none, List.append_nil]

theorem authorized_fresh (logged : current.InvocationsLogged)
    (eventType : applied.event.eventType = .workInvocationAuthorized) :
    current.workInvocations.lookup applied.target = none := by
  have type := applied.commandType_of eventType rfl
  have absent : current.revisions.lookup applied.target = none := by
    simpa [commandCreatesAggregate, type] using applied.target_present
  cases found : current.workInvocations.lookup applied.target with
  | none => rfl
  | some invocation =>
    have revised := logged.revised applied.target (by simp [found])
    simp [absent] at revised

section Charged

variable {permit : InvocationAuthorizationPayload} {debit : WorkBudgetDebitDecision}
  {invocation : WorkInvocation} (charges : applied.Charges permit debit account binding invocation)
  (eventType : applied.event.eventType = .workInvocationAuthorized)

include charges eventType

theorem after_permits_charged : applied.after.permits = current.permits ++ [permit] := by
  simp [applied.after_permits, DomainEvent.authorizedPermit, eventType, charges.payload]

theorem accountsKept_charged (kept : current.AccountsKept) : applied.after.AccountsKept := by
  rw [Store.AccountsKept, charges.accounts, applied.after_permits_charged charges eventType]
  exact kept.charge charges.foundAccount fun ⟨same, kept⟩ => ⟨same, kept.charged charges _⟩

theorem bindingsTallied_charged (tallied : current.BindingsTallied) :
    applied.after.BindingsTallied := by
  rw [Store.BindingsTallied, charges.bindings, applied.after_permits_charged charges eventType]
  refine tallied.charge charges.foundBinding fun ⟨same, tally⟩ => ⟨same, ?_⟩
  simpa [Store.chargedBinding, charges.taskUsed, charges.taskPurposeUsed, charges.purpose] using
    tally.charge permit

theorem invocationsLogged_charged (logged : current.InvocationsLogged) :
    applied.after.InvocationsLogged := by
  have fresh := applied.authorized_fresh logged eventType
  constructor
  · rw [applied.after_permits_charged charges eventType, charges.invocations,
      entries_insert_new WorkInvocation.permit fresh, charges.kept]
    exact (logged.permits.cons permit).trans (List.perm_append_singleton _ _).symm
  · intro reference found
    rw [applied.after_revisions]
    split
    · rfl
    · next different =>
      rw [charges.invocations, lookup_insert_eq_ite, if_neg different] at found
      exact logged.revised reference found

end Charged

section Uncharged

variable (other : applied.event.eventType ≠ .workInvocationAuthorized)

include other

theorem accountsKept_uncharged (kept : current.AccountsKept) : applied.after.AccountsKept := by
  obtain ⟨change, changed, _, written, _⟩ := applied.after_phase4
  rw [Store.AccountsKept, written, applied.after_permits_same other]
  cases change with
  | none => exact kept
  | some projection =>
    cases changed projection rfl with
    | created eventType carried opened target first absent =>
      have unused := kept applied.event.aggregate
      rw [absent] at unused
      exact kept.write ⟨target, unused ▸ .created opened⟩
    | amended eventType carried before amendment revision =>
      obtain ⟨target, earlier⟩ := kept.get before
      obtain ⟨id, amended⟩ := earlier.amended amendment
      exact kept.write ⟨by rwa [WorkBudgetAccount.ref, id], amended⟩
    | authorized eventType => exact absurd eventType other
    | bound | rescoped | moved => exact kept

theorem bindingsTallied_uncharged (tallied : current.BindingsTallied) :
    applied.after.BindingsTallied := by
  obtain ⟨change, changed, _, _, written, _⟩ := applied.after_phase4
  rw [Store.BindingsTallied, written, applied.after_permits_same other]
  cases change with
  | none => exact tallied
  | some projection =>
    cases changed projection rfl with
    | @bound _ initial _ eventType carried parsed target counted =>
      obtain ⟨id, fresh, carriedOver⟩ := Store.carryCounters_ok counted
      refine tallied.write ⟨by rw [target, id], ?_⟩
      cases earlier : current.taskWorkBudgets.lookup applied.event.aggregate with
      | none =>
        have unused := tallied applied.event.aggregate
        rw [earlier] at unused
        obtain ⟨used, purposeUsed⟩ := TaskWorkBudgetPayload.binding_unused parsed
        rw [unused, fresh earlier, used, purposeUsed]
        exact .zero
      | some before =>
        obtain ⟨used, purposeUsed⟩ := carriedOver before earlier
        rw [used, purposeUsed]
        exact (tallied.get earlier).2
    | authorized eventType => exact absurd eventType other
    | created | amended | rescoped | moved => exact tallied

theorem invocationsLogged_uncharged (logged : current.InvocationsLogged) :
    applied.after.InvocationsLogged := by
  obtain ⟨change, changed, _, _, _, written⟩ := applied.after_phase4
  have revised : ∀ reference, (current.workInvocations.lookup reference).isSome →
      (applied.after.revisions.lookup reference).isSome := fun reference found => by
    rw [applied.after_revisions]
    split
    · rfl
    · exact logged.revised reference found
  cases change with
  | none =>
    exact ⟨by rw [written, applied.after_permits_same other]; exact logged.permits,
      by rw [written]; exact revised⟩
  | some projection =>
    cases changed projection rfl with
    | moved eventType before move =>
      obtain ⟨permit, _⟩ := WorkInvocation.applyWorkInvocationEvent_permit move
      have replaced := entries_insert_same WorkInvocation.permit before permit
      rw [Option.bind_some, Option.toList_some, insertAll_cons, insertAll_nil] at written
      refine ⟨?_, fun reference found => ?_⟩
      · rw [written, applied.after_permits_same other]
        exact replaced.trans logged.permits
      · rw [written, lookup_insert_eq_ite] at found
        split at found
        · next same => simp [same, applied.after_revisions]
        · exact revised reference found
    | authorized eventType => exact absurd eventType other
    | created | amended | bound | rescoped =>
      exact ⟨by rw [written, applied.after_permits_same other]; exact logged.permits,
        by rw [written]; exact revised⟩

end Uncharged

end AppliedCommand

/-- The budgets agree with the permits in the log. -/
structure Store.Budgeted (store : Store) : Prop where
  accounts : store.AccountsKept
  bindings : store.BindingsTallied
  invocations : store.InvocationsLogged

namespace Store.Budgeted

theorem new (policy : AuthorizationPolicy) (faultPoint : FaultPoint) :
    (Store.new policy faultPoint).Budgeted where
  accounts := fun _ => rfl
  bindings := fun _ => rfl
  invocations := ⟨.refl _, fun _ found => absurd found (by simp [Store.new])⟩

theorem of_sameWork {before after : Store} (same : before.SameWork after)
    (budgeted : before.Budgeted) : after.Budgeted := by
  obtain ⟨accounts, bindings, permits, revised⟩ := budgeted
  constructor
  · simpa only [AccountsKept, Store.permits, same.events, same.workBudgetAccounts] using accounts
  · simpa only [BindingsTallied, Store.permits, same.events, same.taskWorkBudgets] using bindings
  · constructor
    · simpa only [Store.permits, same.events, same.workInvocations] using permits
    · simpa only [same.workInvocations, same.revisions] using revised

theorem applied {evaluator : Evaluator} {copy current : Store}
    (budgeted : current.Budgeted) (applied : AppliedCommand evaluator copy current)
    (grown : copy.Extends current) : applied.after.Budgeted := by
  obtain ⟨accounts, bindings, invocations⟩ := budgeted
  by_cases eventType : applied.event.eventType = .workInvocationAuthorized
  · obtain ⟨permit, debit, account, binding, invocation, charges⟩ :=
      applied.charges grown eventType
    exact ⟨applied.accountsKept_charged charges eventType accounts,
      applied.bindingsTallied_charged charges eventType bindings,
      applied.invocationsLogged_charged charges eventType invocations⟩
  · exact ⟨applied.accountsKept_uncharged eventType accounts,
      applied.bindingsTallied_uncharged eventType bindings,
      applied.invocationsLogged_uncharged eventType invocations⟩

end Store.Budgeted

theorem Evaluator.Reaches.budgeted {evaluator : Evaluator}
    {allowed : Store → Store → StoreInput → Prop} {shared : Shared Store}
    (reached : evaluator.Reaches allowed shared) : shared.current.Budgeted :=
  reached.holds Store.Budgeted.new Store.Budgeted.of_sameWork
    fun applied reached taken _ _ budgeted => budgeted.applied applied (reached.growth taken)

/-- In every reachable store an account has used as many invocations as permits name it, in
total and per purpose, within its limits, and numbers them from 1; a task binding has used as
many as permits name its task; and the stored invocations are those of the permits. -/
theorem invocation_budgets_conserved {evaluator : Evaluator} {shared : Shared Store}
    (reached : evaluator.Reachable shared) :
    (∀ reference account, shared.current.workBudgetAccounts.lookup reference = some account →
      account.modelInvocationsUsed = (shared.current.permitsOfAccount account.id).length ∧
      account.modelInvocationsUsed ≤ account.modelInvocationLimit ∧
      (∀ purpose,
        account.purposeUsed.count purpose = (shared.current.permitsOfAccount account.id).countP
          (fun permit => permit.purpose == purpose) ∧
        account.purposeUsed.count purpose ≤ account.purposeLimits.count purpose) ∧
      (shared.current.permitsOfAccount account.id).map (·.globalDebitOrdinal) =
        List.range' 1 account.modelInvocationsUsed) ∧
    (∀ reference binding, shared.current.taskWorkBudgets.lookup reference = some binding →
      binding.modelInvocationsUsed = (shared.current.permitsOfTask binding.taskID).length ∧
      ∀ purpose, binding.purposeUsed.count purpose =
        (shared.current.permitsOfTask binding.taskID).countP
          fun permit => permit.purpose == purpose) ∧
    (shared.current.workInvocations.entries.map fun entry => entry.2.permit).Perm
      shared.current.permits := by
  have budgeted := reached.budgeted
  refine ⟨fun reference account found => ?_, fun reference binding found => ?_,
    budgeted.invocations.permits⟩
  · have kept := budgeted.accounts.found found
    refine ⟨kept.tally.total, kept.within,
      fun purpose => ⟨kept.tally.per purpose, kept.purposesWithin purpose⟩, ?_⟩
    rw [kept.ordinals, kept.tally.total]
  · obtain ⟨_, tally⟩ := budgeted.bindings.found found
    exact ⟨tally.total, tally.per⟩

end

namespace Sample

def authorizeValidation (value number attempt : Nat) : KernelCommand :=
  { command value .policy .workInvocationAuthorize (invocation number) create
      (.invocationAuthorization { permit with
        invocationID := .number number
        purpose := .validation
        attemptOrdinal := attempt
        conditionDigest := .number attempt
        retryOfInvocationID := if attempt = 1 then none else some (.number (number - 1))
        retryOrdinal := attempt - 1
        idempotencyKey := String.ofList (List.replicate value 'k') }) with
    preconditions := [⟨task, revision 8⟩, ⟨account, revision 1⟩]
    causation := [⟨.number 11, .causal⟩] }

def validationStep (commandType : CommandType) (step : Nat) (payload : Payload) : KernelCommand :=
  { command (13 + step) .service commandType (invocation 60) (revision step) payload with
    causation := [⟨.number (12 + step), .causal⟩]
    evidenceRefs := [evidence] }

/-- The work is authorized, and its validation is repeated under another condition. -/
def retried : Shared Store :=
  evaluator.script authorized
    [entry (authorizeValidation 13 60 1),
      entry (validationStep .workInvocationClaim 1
        (.invocationClaim
          ⟨.number 60, 1, .number 62, actor, .number 31, 1, .number 0, .number 0, 1⟩)),
      entry (validationStep .workInvocationRecordStarted 2
        (.invocationStart ⟨.number 60, 2, .number 62, "c", .number 0, 1⟩)),
      entry (validationStep .workInvocationRecordTerminal 3
        (.invocationTerminal ⟨.number 60, 3, .number 62, .succeeded, false, [.number 1], .number 0,
          1⟩)),
      entry (authorizeValidation 17 61 2)]

theorem retried_reachable : evaluator.Reachable retried :=
  (profiled_reachable.script fun _ _ _ _ => trivial).script fun _ _ _ _ => trivial

set_option maxRecDepth 4096 in
theorem retried_budget_conserved :
    ∃ budget, retried.current.workBudgetAccounts.lookup account = some budget ∧
      budget.modelInvocationsUsed = 3 ∧
      budget.modelInvocationsUsed = (retried.current.permitsOfAccount budget.id).length := by
  have used : (retried.current.workBudgetAccounts.lookup account).map
    (·.modelInvocationsUsed) = some 3 := by decide
  obtain ⟨budget, found, used⟩ := Option.map_eq_some_iff.mp used
  exact ⟨budget, found, used,
    ((invocation_budgets_conserved retried_reachable).1 account budget found).1⟩

end Sample

end Tekroo.Kernel
