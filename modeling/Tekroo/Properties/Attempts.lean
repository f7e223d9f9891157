import Mathlib.Data.List.MinMax
import Mathlib.Data.Prod.Lex
import Tekroo.Lib.Lineage
import Tekroo.Properties.Budgets

namespace Tekroo.Kernel

open Lib Checked InvocationAdmission

section

variable {evaluator : Evaluator} {copy current : Store}
  (applied : AppliedCommand evaluator copy current) {store : Store} {task : UUIDv7}
  {purpose : WorkPurpose}

/-! # Attempts follow one another

Two authorizations that were planned on the same line debit the same binding, and the commit of
the second finds its counter moved.
-/

theorem foldl_laterInvocation (candidates : List WorkInvocation) :
    candidates.foldl laterInvocation none = candidates.argmax fun candidate =>
      toLex (candidate.permit.attemptOrdinal, candidate.revision) := by
  rw [List.argmax]
  congr
  funext latest candidate
  cases latest with
  | none => rfl
  | some latest => simp [laterInvocation, List.argAux, Prod.Lex.toLex_lt_toLex, eq_comm]

theorem foldl_laterInvocation_some {candidates : List WorkInvocation} {latest : WorkInvocation}
    (found : candidates.foldl laterInvocation none = some latest) : latest ∈ candidates ∧
      ∀ other ∈ candidates, other.permit.attemptOrdinal ≤ latest.permit.attemptOrdinal := by
  rw [foldl_laterInvocation] at found
  refine ⟨List.argmax_mem found, fun other member => ?_⟩
  have highest := List.le_of_mem_argmax member found
  rw [Prod.Lex.toLex_le_toLex] at highest
  omega

/-- The latest invocation of a list does not depend on the order of the list when no two have
the same attempt ordinal. -/
theorem foldl_laterInvocation_perm {left right : List WorkInvocation} (same : left.Perm right)
    (distinct : ∀ first ∈ left, ∀ second ∈ left,
      first.permit.attemptOrdinal = second.permit.attemptOrdinal → first = second) :
    left.foldl laterInvocation none = right.foldl laterInvocation none := by
  cases foundLeft : left.foldl laterInvocation none with
  | none =>
    rw [foldl_laterInvocation, List.argmax_eq_none] at foundLeft
    subst foundLeft
    rw [List.nil_perm.mp same]
    rfl
  | some first =>
    obtain ⟨member, highest⟩ := foldl_laterInvocation_some foundLeft
    cases foundRight : right.foldl laterInvocation none with
    | none =>
      rw [foldl_laterInvocation, List.argmax_eq_none] at foundRight
      subst foundRight
      cases same.mem_iff.mp member
    | some second =>
      obtain ⟨other, above⟩ := foldl_laterInvocation_some foundRight
      have other := same.mem_iff.mpr other
      have equal := Nat.le_antisymm (above first (same.mem_iff.mp member))
        (highest second other)
      rw [distinct first member second other equal]

theorem InvocationAdmission.plan_perm {admission : InvocationAdmission}
    {value : InvocationAuthorizationPayload} {invocations : List WorkInvocation}
    (same : admission.invocations.Perm invocations)
    (distinct : ∀ first ∈ admission.related value, ∀ second ∈ admission.related value,
      first.permit.attemptOrdinal = second.permit.attemptOrdinal → first = second)
    (now : Time) (eventID : UUIDv7) :
    admission.plan value now eventID = { admission with invocations }.plan value now eventID := by
  have related : (admission.related value).Perm
      ({ admission with invocations }.related value) := same.filter _
  have active : (admission.related value).any (fun candidate => !candidate.state.terminal) =
      ({ admission with invocations }.related value).any
        (fun candidate => !candidate.state.terminal) := by
    rw [Bool.eq_iff_iff, List.any_eq_true, List.any_eq_true]
    simp only [related.mem_iff]
  unfold plan
  rw [active, foldl_laterInvocation_perm related distinct]
  rfl

namespace InvocationAuthorizationPayload

def begins (permit : InvocationAuthorizationPayload) : Prop :=
  permit.attemptOrdinal = 1 ∧ permit.retryOfInvocationID = none ∧ permit.retryOrdinal = 0

def follows (prior permit : InvocationAuthorizationPayload) : Prop :=
  permit.attemptOrdinal = prior.attemptOrdinal + 1 ∧
    permit.retryOfInvocationID = some prior.invocationID ∧
    permit.retryOrdinal = prior.retryOrdinal + 1 ∧
    permit.conditionDigest ≠ prior.conditionDigest

end InvocationAuthorizationPayload

open InvocationAuthorizationPayload (begins follows)

theorem checkAttempt_ok {value : InvocationAuthorizationPayload} {profile : WorkRiskProfile}
    {account : WorkBudgetAccount} {latest : Option WorkInvocation}
    (checked : checkAttempt value profile account latest = .ok ()) :
    (latest = none → begins value) ∧ ∀ prior, latest = some prior → follows prior.permit value := by
  cases latest with
  | none =>
    simp only [checkAttempt, chain_ok, tests_iff] at checked
    exact ⟨fun _ => ⟨checked.1.1, by simpa using checked.1.2, checked.2⟩, by simp⟩
  | some latest =>
    simp only [checkAttempt, chain_ok, beq_eq_false_iff_ne] at checked
    obtain ⟨changed, retried⟩ := checked
    have chain : validChangedConditionContinuation value profile account latest = true ∨
        validCandidateRevalidation value latest = true := by
      rw [Bool.and_eq_false_iff] at retried
      simpa using retried
    rcases chain with continued | revalidated
    · simp only [validChangedConditionContinuation, tests_iff] at continued
      grind [WorkInvocation.id, follows]
    · simp only [validCandidateRevalidation, tests_iff] at revalidated
      grind [WorkInvocation.id, follows]

namespace Store

/-- The permits of a task for one purpose, in the order in which they were given. -/
def attempts (store : Store) (task : UUIDv7) (purpose : WorkPurpose) :
    List InvocationAuthorizationPayload :=
  (store.permitsOfTask task).filter fun permit => permit.purpose == purpose

/-- The attempts of every task and purpose are a line, and only the last of a line can still be
running. -/
structure Attempted (store : Store) : Prop where
  linear : ∀ task purpose, Lineage begins follows (store.attempts task purpose)
  ended : ∀ reference invocation, store.workInvocations.lookup reference = some invocation →
    invocation.state.terminal = true ∨
      (store.attempts invocation.permit.taskID invocation.permit.purpose).getLast? =
        some invocation.permit
  identified : ∀ reference invocation,
    store.workInvocations.lookup reference = some invocation → reference = invocation.ref

end Store

def Store.KeepsEnded (before after : Store) : Prop :=
  ∀ reference invocation, before.workInvocations.lookup reference = some invocation →
    invocation.state.terminal = true → after.workInvocations.lookup reference = some invocation

namespace AppliedCommand

theorem after_invocation (logged : current.InvocationsLogged) (reference : AggregateRef) :
    applied.after.workInvocations.lookup reference =
        current.workInvocations.lookup reference ∨
      (applied.event.eventType = .workInvocationAuthorized ∧
        current.workInvocations.lookup reference = none ∧ ∃ invocation,
          applied.after.workInvocations.lookup reference = some invocation ∧
          reference = invocation.ref ∧
          applied.event.payload = .invocationAuthorization invocation.permit) ∨
      (applied.event.eventType ≠ .workInvocationAuthorized ∧ ∃ invocation next,
        current.workInvocations.lookup reference = some invocation ∧
        applied.after.workInvocations.lookup reference = some next ∧
        invocation.state.terminal = false ∧ next.permit = invocation.permit) := by
  by_cases other : reference = applied.target
  · subst other
    obtain ⟨change, changed, _, _, _, written⟩ := applied.after_phase4
    rw [written]
    cases change with
    | none => exact .inl rfl
    | some projection =>
      cases changed projection rfl with
      | authorized eventType charged valid authorized target =>
        refine .inr (.inl ⟨eventType, applied.authorized_fresh logged eventType, _,
          by simp, target, (DomainEvent.authorizedInvocation_ok authorized).1⟩)
      | moved eventType found move =>
        refine .inr (.inr ⟨fun same => ?_, _, _, found, by simp, ?_,
          (WorkInvocation.applyWorkInvocationEvent_permit move).1⟩)
        · rw [same] at eventType
          cases eventType
        · unfold WorkInvocation.applyWorkInvocationEvent at move
          grind
      | _ => exact .inl rfl
  · exact .inl (applied.after_workInvocations other)

theorem keepsEnded (logged : current.InvocationsLogged) : current.KeepsEnded applied.after := by
  intro reference invocation found ended
  obtain same | ⟨_, absent, _⟩ | ⟨_, moved, _, here, _, running, _⟩ :=
    applied.after_invocation logged reference
  · exact same.trans found
  · simp [absent] at found
  · cases found.symm.trans here
    simp [ended] at running

end AppliedCommand

variable {allowed : Store → Store → StoreInput → Prop} {shared : Shared Store}

theorem Evaluator.Reaches.keepsEnded (reached : evaluator.Reaches allowed shared)
    (taken : copy ∈ shared.copies) :
    copy.KeepsEnded shared.current := by
  refine reached.grows (fun _ _ _ found _ => found) ?_ ?_
    (fun applied reached _ _ => applied.keepsEnded reached.budgeted.invocations) taken
  · intro before between after left right reference invocation found ended
    exact right reference invocation (left reference invocation found ended) ended
  · intro before after same reference invocation found _
    rwa [same.workInvocations]

namespace Store

def invocations (store : Store) : List WorkInvocation :=
  store.workInvocations.entries.map (·.2)

def invocationsOf (store : Store) (task : UUIDv7) (purpose : WorkPurpose) : List WorkInvocation :=
  store.invocations.filter fun invocation =>
    invocation.permit.taskID == task && invocation.permit.purpose == purpose

variable {invocation : WorkInvocation}

theorem mem_invocationsOf : invocation ∈ store.invocationsOf task purpose ↔
    (∃ reference, store.workInvocations.lookup reference = some invocation) ∧
      invocation.permit.taskID = task ∧ invocation.permit.purpose = purpose := by
  simp [invocationsOf, invocations, ← AList.mem_lookup_iff]

theorem InvocationsLogged.attempts (logged : store.InvocationsLogged) (task : UUIDv7)
    (purpose : WorkPurpose) :
    ((store.invocationsOf task purpose).map (·.permit)).Perm (store.attempts task purpose) := by
  have filtered := logged.permits.filter fun permit =>
    permit.taskID == task && permit.purpose == purpose
  rw [Store.attempts, permitsOfTask, List.filter_filter]
  simp only [invocationsOf, invocations, List.filter_map, List.map_map] at filtered ⊢
  refine filtered.trans (.of_eq (List.filter_congr fun permit _ => Bool.and_comm _ _))

end Store

namespace AppliedCommand

/-- The line that an authorization was planned on is the line that the commit finds: the binding
counts its attempts, and the commit compares the counts. -/
theorem attempts_unmoved (grown : copy.Extends current) (before : copy.Budgeted)
    (now : current.Budgeted) {value : InvocationAuthorizationPayload}
    {admission : InvocationAdmission} {debit : WorkBudgetDebitDecision}
    (eventType : applied.event.eventType = .workInvocationAuthorized)
    (admits : Admits applied.command applied.snapshot value admission)
    (debited : applied.decision.workBudget = some debit)
    (charged : debit = admission.debit value.purpose)
    (payload : applied.event.payload = .invocationAuthorization (admission.charged value)) :
    copy.attempts value.taskID value.purpose = current.attempts value.taskID value.purpose := by
  obtain ⟨permit, other, account, binding, invocation, charges⟩ := applied.charges grown eventType
  cases payload.symm.trans charges.payload
  cases debited.symm.trans charges.debited
  have counted : admission.binding.purposeUsed.count value.purpose =
      binding.purposeUsed.count value.purpose := by
    have next := charges.taskPurposeUsed
    rw [charged] at next
    exact Nat.succ.inj next
  obtain ⟨copyTask, copyTally⟩ := before.bindings.found admits.binding
  obtain ⟨task, tally⟩ := now.bindings.found charges.foundBinding
  have copyTask : value.taskID = admission.binding.taskID := congrArg AggregateRef.id copyTask
  have task : value.taskID = binding.taskID := congrArg AggregateRef.id task
  rw [copyTally.per, tally.per, ← copyTask, ← task] at counted
  refine List.IsPrefix.eq_of_length ?_ ?_
  · exact (((grown.events.filterMap _).filter _).filter _)
  · simpa only [Store.attempts, List.countP_eq_length_filter] using counted

/-- An authorization continues the line of its task and purpose, and nothing on that line is
still running. -/
theorem continues_line (grown : copy.Extends current) (kept : copy.KeepsEnded current)
    (before : copy.Budgeted) (now : current.Budgeted) (copied : copy.Attempted)
    (held : current.Attempted) (eventType : applied.event.eventType = .workInvocationAuthorized) :
    ∃ permit, applied.event.payload = .invocationAuthorization permit ∧
      Succeeds begins follows (current.attempts permit.taskID permit.purpose) permit ∧
      ∀ reference invocation, current.workInvocations.lookup reference = some invocation →
        invocation.permit.taskID = permit.taskID → invocation.permit.purpose = permit.purpose →
        invocation.state.terminal = true := by
  obtain ⟨value, admission, invocation, debit, _, admits, plan, payload, debited⟩ :=
    applied.authorizes eventType
  rw [plan.invocation] at payload
  have unmoved := applied.attempts_unmoved grown before now eventType admits debited plan.debit
    payload
  have related : admission.related value = copy.invocationsOf value.taskID value.purpose := by
    rw [related, admits.invocations, plan.task]
    rfl
  have line := before.invocations.attempts value.taskID value.purpose
  have ended := plan.ended
  obtain ⟨first, next⟩ := checkAttempt_ok plan.attempt
  rw [related] at ended first next
  refine ⟨admission.charged value, payload, ?_, ?_⟩
  · change Succeeds begins follows (current.attempts value.taskID value.purpose) _
    rw [← unmoved]
    cases found : (copy.invocationsOf value.taskID value.purpose).foldl laterInvocation none with
    | none =>
      have empty := found
      rw [foldl_laterInvocation, List.argmax_eq_none] at empty
      rw [empty] at line
      rw [List.nil_perm.mp line, Succeeds]
      exact first found
    | some latest =>
      obtain ⟨member, highest⟩ := foldl_laterInvocation_some found
      have last := (copied.linear value.taskID value.purpose).last_of_highest
        (·.attemptOrdinal) (fun first => first.1) (fun next => next.1)
        (line.mem_iff.mp (List.mem_map_of_mem member)) (fun other listed => by
          obtain ⟨candidate, among, rfl⟩ := List.mem_map.mp (line.mem_iff.mpr listed)
          exact highest candidate among)
      rw [Succeeds, last]
      exact next latest found
  · intro reference running found task purpose
    have listed : running.permit ∈ copy.attempts value.taskID value.purpose := by
      rw [unmoved]
      refine (now.invocations.attempts _ _).mem_iff.mp (List.mem_map_of_mem ?_)
      exact Store.mem_invocationsOf.mpr ⟨⟨reference, found⟩, task, purpose⟩
    obtain ⟨planned, among, same⟩ := List.mem_map.mp (line.mem_iff.mpr listed)
    obtain ⟨⟨other, loaded⟩, _⟩ := Store.mem_invocationsOf.mp among
    have stays := kept other planned loaded (ended planned among)
    have place : other = reference := by
      rw [copied.identified other planned loaded, held.identified reference running found,
        WorkInvocation.ref, WorkInvocation.id, same]
      rfl
    rw [place, found] at stays
    rw [Option.some.inj stays]
    exact ended planned among

end AppliedCommand

namespace Store.Attempted

theorem new (policy : AuthorizationPolicy) (faultPoint : FaultPoint) :
    (Store.new policy faultPoint).Attempted where
  linear := fun _ _ => .nil
  ended := fun _ _ found => absurd found (by simp [Store.new])
  identified := fun _ _ found => absurd found (by simp [Store.new])

theorem of_sameWork {before after : Store} (same : before.SameWork after)
    (attempted : before.Attempted) : after.Attempted := by
  obtain ⟨linear, ended, identified⟩ := attempted
  constructor
  · simpa only [Store.attempts, permitsOfTask, Store.permits, same.events] using linear
  · simpa only [Store.attempts, permitsOfTask, Store.permits, same.events,
      same.workInvocations] using ended
  · simpa only [same.workInvocations] using identified

section Applied

variable {applied : AppliedCommand evaluator copy current} (held : current.Attempted)
  (logged : current.InvocationsLogged)

include held logged

theorem identified_applied {reference : AggregateRef} {invocation : WorkInvocation}
    (found : applied.after.workInvocations.lookup reference = some invocation) :
    reference = invocation.ref := by
  obtain same | ⟨_, _, _, here, target, _⟩ | ⟨_, moved, next, before, after, _, permit⟩ :=
    applied.after_invocation logged reference
  · exact held.identified reference invocation (same ▸ found)
  · cases found.symm.trans here
    exact target
  · cases found.symm.trans after
    rw [held.identified reference moved before, WorkInvocation.ref, WorkInvocation.id, ← permit]
    rfl

theorem applied_authorized {permit : InvocationAuthorizationPayload}
    (eventType : applied.event.eventType = .workInvocationAuthorized)
    (payload : applied.event.payload = .invocationAuthorization permit)
    (next : Succeeds begins follows (current.attempts permit.taskID permit.purpose) permit)
    (idle : ∀ reference invocation, current.workInvocations.lookup reference = some invocation →
      invocation.permit.taskID = permit.taskID → invocation.permit.purpose = permit.purpose →
      invocation.state.terminal = true) : applied.after.Attempted := by
  have attempts : ∀ task purpose, applied.after.attempts task purpose =
      current.attempts task purpose ++
        if permit.taskID = task ∧ permit.purpose = purpose then [permit] else [] := by
    intro task purpose
    have permits : applied.after.permits = current.permits ++ [permit] := by
      simp [applied.after_permits, DomainEvent.authorizedPermit, eventType, payload]
    simp only [Store.attempts, permitsOfTask, permits, List.filter_append, List.filter_filter]
    congr 1
    by_cases same : permit.taskID = task ∧ permit.purpose = purpose
    · simp [same]
    · rw [if_neg same]
      simp only [List.filter_cons, List.filter_nil, tests_iff]
      exact if_neg fun both => same both.symm
  refine ⟨fun task purpose => ?_, fun reference invocation found => ?_,
    fun _ _ found => held.identified_applied logged found⟩
  · rw [attempts]
    split
    · next same =>
      obtain ⟨rfl, rfl⟩ := same
      exact (held.linear _ _).append next
    · rw [List.append_nil]
      exact held.linear task purpose
  · obtain same | ⟨_, _, fresh, here, _, carried⟩ | ⟨other, _⟩ :=
      applied.after_invocation logged reference
    · rw [same] at found
      rw [attempts]
      split
      · next line => exact .inl (idle reference invocation found line.1.symm line.2.symm)
      · rw [List.append_nil]
        exact held.ended reference invocation found
    · cases found.symm.trans here
      cases payload.symm.trans carried
      right
      rw [attempts, if_pos ⟨rfl, rfl⟩, List.getLast?_append]
      rfl
    · exact absurd eventType other

theorem applied_other (other : applied.event.eventType ≠ .workInvocationAuthorized) :
    applied.after.Attempted := by
  have attempts : ∀ task purpose, applied.after.attempts task purpose =
      current.attempts task purpose := by
    intro task purpose
    rw [Store.attempts, permitsOfTask, applied.after_permits_same other]
    rfl
  refine ⟨fun task purpose => attempts task purpose ▸ held.linear task purpose,
    fun reference invocation found => ?_, fun _ _ found => held.identified_applied logged found⟩
  rw [attempts]
  obtain same | ⟨eventType, _⟩ | ⟨_, before, next, stored, after, running, permit⟩ :=
    applied.after_invocation logged reference
  · exact held.ended reference invocation (same ▸ found)
  · exact absurd eventType other
  · cases found.symm.trans after
    rcases held.ended reference before stored with ended | last
    · simp [running] at ended
    · rw [permit]
      exact .inr last

end Applied

end Store.Attempted

theorem Evaluator.Reaches.attempted (reached : evaluator.Reaches allowed shared) :
    shared.current.Attempted := by
  refine reached.holds Store.Attempted.new Store.Attempted.of_sameWork
    fun applied reached taken _ copied held => ?_
  have budgeted := reached.budgeted
  by_cases eventType : applied.event.eventType = .workInvocationAuthorized
  · obtain ⟨earlier, before, same⟩ := reached.copy_reached taken
    obtain ⟨permit, payload, next, idle⟩ :=
      applied.continues_line (reached.growth taken) (reached.keepsEnded taken)
        (same ▸ before.budgeted) budgeted copied held eventType
    exact held.applied_authorized budgeted.invocations eventType payload next idle
  · exact held.applied_other budgeted.invocations eventType

namespace Store.Attempted

variable {invocation other : WorkInvocation} (attempted : store.Attempted)
  (logged : store.InvocationsLogged)

include attempted logged

theorem numbered :
    ((store.invocationsOf task purpose).map (·.permit.attemptOrdinal)).Perm
      (List.range' 1 (store.invocationsOf task purpose).length) := by
  have line := logged.attempts task purpose
  have ordinals := (attempted.linear task purpose).numbered (·.attemptOrdinal)
    (fun first => first.1) (fun next => next.1)
  have length : (store.invocationsOf task purpose).length =
      (store.attempts task purpose).length := by
    rw [← line.length_eq, List.length_map]
  rw [length, ← ordinals]
  have mapped := line.map InvocationAuthorizationPayload.attemptOrdinal
  rwa [List.map_map] at mapped

theorem distinct (left : invocation ∈ store.invocationsOf task purpose)
    (right : other ∈ store.invocationsOf task purpose)
    (same : invocation.permit.attemptOrdinal = other.permit.attemptOrdinal) :
    invocation = other :=
  List.inj_on_of_nodup_map
    ((attempted.numbered logged).nodup_iff.mpr List.nodup_range') left right same

theorem retries (member : invocation ∈ store.invocationsOf task purpose)
    (later : 1 < invocation.permit.attemptOrdinal) :
    ∃ prior ∈ store.invocationsOf task purpose,
      prior.permit.attemptOrdinal + 1 = invocation.permit.attemptOrdinal ∧
      invocation.permit.retryOfInvocationID = some prior.id ∧
      invocation.permit.retryOrdinal = prior.permit.attemptOrdinal ∧
      invocation.permit.conditionDigest ≠ prior.permit.conditionDigest := by
  have line := logged.attempts task purpose
  have lineage := attempted.linear task purpose
  have listed := line.mem_iff.mp (List.mem_map_of_mem member)
  obtain ⟨place, found⟩ := List.getElem?_of_mem listed
  have placed := lineage.number_of_place (·.attemptOrdinal) (fun first => first.1)
    (fun next => next.1) found
  obtain ⟨before, rfl⟩ : ∃ before, place = before + 1 := ⟨place - 1, by omega⟩
  obtain ⟨permit, earlier, ordinal, retry, retryOrdinal, changed⟩ := lineage.follows found
  obtain ⟨prior, among, rfl⟩ := List.mem_map.mp
    (line.mem_iff.mpr (List.mem_of_getElem? earlier))
  -- the retries are numbered from 0 along the line
  have retried := lineage.number_of_place (·.retryOrdinal + 1)
    (fun first => by rw [first.2.2]) (fun next => by rw [next.2.2.1]) earlier
  exact ⟨prior, among, ordinal.symm, retry, by omega, changed⟩

end Store.Attempted

/-- In every reachable store at most one invocation of a task and purpose is running, the
attempts of a task and purpose are numbered from 1, every attempt but the first retries the one
before it under another condition, and a plan does not depend on the order in which the
invocations are read. -/
theorem attempts_linear {evaluator : Evaluator} {shared : Shared Store}
    (reached : evaluator.Reachable shared) :
    (∀ left right first second,
      shared.current.workInvocations.lookup left = some first →
      shared.current.workInvocations.lookup right = some second →
      first.permit.taskID = second.permit.taskID → first.permit.purpose = second.permit.purpose →
      first.state.terminal = false → second.state.terminal = false → left = right) ∧
    (∀ task purpose,
      ((shared.current.invocationsOf task purpose).map (·.permit.attemptOrdinal)).Perm
        (List.range' 1 (shared.current.invocationsOf task purpose).length)) ∧
    (∀ task purpose, ∀ invocation ∈ shared.current.invocationsOf task purpose,
      1 < invocation.permit.attemptOrdinal →
      ∃ prior ∈ shared.current.invocationsOf task purpose,
        prior.permit.attemptOrdinal + 1 = invocation.permit.attemptOrdinal ∧
        invocation.permit.retryOfInvocationID = some prior.id ∧
        invocation.permit.retryOrdinal = prior.permit.attemptOrdinal ∧
        invocation.permit.conditionDigest ≠ prior.permit.conditionDigest) ∧
    ∀ (admission : InvocationAdmission) (invocations : List WorkInvocation) value now eventID,
      admission.invocations = shared.current.invocations →
      shared.current.invocations.Perm invocations →
      admission.plan value now eventID = { admission with invocations }.plan value now eventID := by
  have attempted := reached.attempted
  have logged := reached.budgeted.invocations
  refine ⟨?_, fun _ _ => attempted.numbered logged,
    fun _ _ _ member later => attempted.retries logged member later, ?_⟩
  · intro left right first second foundFirst foundSecond task purpose firstRuns secondRuns
    have last := (attempted.ended left first foundFirst).resolve_left (by simp [firstRuns])
    have other := (attempted.ended right second foundSecond).resolve_left (by simp [secondRuns])
    rw [← task, ← purpose, last] at other
    have same : first.permit = second.permit := Option.some.inj other
    rw [attempted.identified left first foundFirst, attempted.identified right second foundSecond,
      WorkInvocation.ref, WorkInvocation.id, same]
    rfl
  · intro admission invocations value now eventID loaded same
    refine plan_perm (loaded ▸ same) (fun first left second right equal => ?_)
      now eventID
    simp only [related, loaded] at left right
    exact attempted.distinct logged left right equal

end

namespace Sample

set_option maxRecDepth 4096 in
/-- The second validation of the task names the first one. -/
theorem retried_attempts_linear :
    ((retried.current.invocationsOf task.id .validation).map
        (·.permit.attemptOrdinal)).Perm [1, 2] ∧
      ∃ prior ∈ retried.current.invocationsOf task.id .validation,
        prior.permit.attemptOrdinal = 1 ∧ prior.id = .number 60 := by
  obtain ⟨_, numbered, retries, _⟩ := attempts_linear retried_reachable
  have both : (retried.current.invocationsOf task.id .validation).length = 2 := by decide
  have again : ∃ invocation ∈ retried.current.invocationsOf task.id .validation,
      invocation.permit.attemptOrdinal = 2 ∧
        invocation.permit.retryOfInvocationID = some (.number 60) := by
    decide
  obtain ⟨invocation, member, second, names⟩ := again
  obtain ⟨prior, listed, before, named, _⟩ :=
    retries task.id .validation invocation member (by omega)
  refine ⟨?_, prior, listed, by omega, Option.some.inj (named.symm.trans names)⟩
  have listed := numbered task.id .validation
  rwa [both] at listed

end Sample

end Tekroo.Kernel
