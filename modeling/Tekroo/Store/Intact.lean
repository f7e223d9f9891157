import Tekroo.Store.WorkHistory

namespace Tekroo.Kernel

open Lib Checked

/-! # Stored records stay intact

What the projections of a commit rely on beyond the checks that its command has passed.
-/

structure PurposeCounters.Complete (counters : PurposeCounters) : Prop where
  size : counters.keys.length = allWorkPurposes.length
  covers : ∀ purpose ∈ allWorkPurposes, (counters.lookup purpose).isSome

namespace PurposeCounters

variable {counters : PurposeCounters}

theorem valid_iff : counters.valid = true ↔
    counters.Complete ∧ ∀ purpose ∈ allWorkPurposes, counters.count purpose ≤ 1000 := by
  simp only [valid, tests_iff, Option.any_eq_true]
  constructor
  · rintro ⟨size, bounded⟩
    refine ⟨⟨size, fun purpose member => ?_⟩, fun purpose member => ?_⟩
    · obtain ⟨value, found, _⟩ := bounded purpose member
      simp [found]
    · obtain ⟨value, found, bound⟩ := bounded purpose member
      simpa [count, found] using bound
  · rintro ⟨⟨size, covers⟩, bounded⟩
    refine ⟨size, fun purpose member => ?_⟩
    obtain ⟨value, found⟩ := Option.isSome_iff_exists.mp (covers purpose member)
    exact ⟨value, found, by simpa [count, found] using bounded purpose member⟩

theorem Complete.insert (complete : counters.Complete) {purpose : WorkPurpose}
    (known : purpose.valid = true) (value : Nat) :
    PurposeCounters.Complete (AList.insert purpose value counters) := by
  have member : purpose ∈ counters.keys :=
    AList.lookup_isSome.mp (complete.covers purpose (by simpa [WorkPurpose.valid] using known))
  constructor
  · rw [AList.keys_insert, List.length_cons, List.length_erase_of_mem member, ← complete.size]
    have := List.length_pos_of_mem member
    omega
  · intro other listed
    rw [lookup_insert_eq_ite]
    split
    · rfl
    · exact complete.covers other listed

end PurposeCounters

theorem Store.carryCounters_complete {initial binding : TaskWorkBudgetBinding}
    {previous : Option TaskWorkBudgetBinding} (valid : initial.valid = true)
    (counted : Store.carryCounters initial previous = .ok binding) :
    binding.purposeUsed.Complete := by
  have complete : ∀ binding : TaskWorkBudgetBinding, binding.valid = true →
      binding.purposeUsed.Complete := by
    intro binding valid
    simp only [TaskWorkBudgetBinding.valid, tests_iff] at valid
    exact (PurposeCounters.valid_iff.mp valid.1.1.2).1
  cases previous with
  | none => cases counted; exact complete _ valid
  | some current =>
    simp only [Store.carryCounters, chain_ok] at counted
    obtain ⟨_, _, carried, rfl⟩ := counted
    exact complete _ (by simpa using carried)

structure Store.Intact (store : Store) : Prop where
  epochs : ∀ reference state, store.states.lookup reference = some state →
    0 < state.lifecycleEpoch
  escalations : ∀ reference escalation,
    store.escalations.lookup reference = some escalation → escalation.valid = true
  accounts : ∀ reference account,
    store.workBudgetAccounts.lookup reference = some account →
      reference.kind = .workBudget ∧ store.revisions.lookup reference = some account.revision
  bindings : ∀ reference binding, store.taskWorkBudgets.lookup reference = some binding →
    binding.purposeUsed.Complete

namespace AppliedCommand

variable {evaluator : Evaluator} {copy current : Store}
  (applied : AppliedCommand evaluator copy current)

theorem intact_epochs (grown : copy.Extends current) (held : current.StatesCurrent)
    (intact : current.Intact) : ∀ reference state,
    applied.after.states.lookup reference = some state → 0 < state.lifecycleEpoch := by
  intro reference state found
  rw [applied.after_states] at found
  split at found
  · cases next : applied.acceptance.nextState with
    | none =>
      rw [next, Option.none_or] at found
      exact intact.epochs _ _ found
    | some moved =>
      rw [next, Option.some_or] at found
      cases found
      have fresh : commandCreatesAggregate applied.command = true →
          (copy.loadDecision applied.command).revision = 0 := by
        intro creates
        have absent := applied.target_present
        rw [creates] at absent
        have revision := applied.snapshot_revision
        simp only [Bool.not_true, Option.isSome_eq_false_iff, Option.isNone_iff_eq_none]
          at absent
        rwa [absent] at revision
      refine ((evolveState_advances applied.admitted.evolved fresh ?_).2 _ next).2
      intro before loaded
      exact intact.epochs _ _ ((applied.snapshot_state grown held).symm.trans loaded)
  · exact intact.epochs _ _ found

theorem intact_escalations (intact : current.Intact) : ∀ reference escalation,
    applied.after.escalations.lookup reference = some escalation → escalation.valid = true := by
  intro reference escalation found
  obtain ⟨change, _, _, _, _, projected, _, _, _, _, same⟩ := applied.projected
  have written : applied.after.escalations = insertAll current.escalations
      (change.toList.map fun value => (value.reference, value.snapshot)) := by
    simp [after, Store.write, same]
  rw [written] at found
  cases change with
  | none => exact intact.escalations _ _ found
  | some projection =>
    simp only [Option.toList_some, List.map_cons, List.map_nil, insertAll_cons, insertAll_nil,
      lookup_insert_eq_ite] at found
    split at found
    · cases found
      exact Store.escalationProjection_ok projected
    · exact intact.escalations _ _ found

theorem targets_workBudget (kind : applied.target.kind = .workBudget) :
    applied.event.eventType = .workBudgetCreated ∨
      applied.event.eventType = .workBudgetAmended := by
  have eventTypes := commandEntry_workBudget applied.entry (kind ▸ applied.targetKind)
  rw [applied.admitted.eventType] at eventTypes
  exact eventTypes.imp (fun same => (List.cons.inj same).1) fun same => (List.cons.inj same).1

theorem intact_accounts (grown : copy.Extends current) (intact : current.Intact) :
    ∀ reference account, applied.after.workBudgetAccounts.lookup reference = some account →
      reference.kind = .workBudget ∧
        applied.after.revisions.lookup reference = some account.revision := by
  intro reference account found
  have elsewhere : reference ≠ applied.target → ∀ earlier : WorkBudgetAccount,
      current.workBudgetAccounts.lookup reference = some earlier →
      reference.kind = .workBudget ∧
        applied.after.revisions.lookup reference = some earlier.revision := by
    intro other earlier found
    rw [applied.after_revisions, if_neg other]
    exact intact.accounts _ _ found
  have unmoved : applied.event.eventType ≠ .workBudgetCreated ∧
      applied.event.eventType ≠ .workBudgetAmended → ∀ earlier : WorkBudgetAccount,
      current.workBudgetAccounts.lookup reference = some earlier →
      reference.kind = .workBudget ∧
        applied.after.revisions.lookup reference = some earlier.revision := by
    intro other earlier found
    refine elsewhere ?_ earlier found
    rintro rfl
    exact (applied.targets_workBudget (intact.accounts _ _ found).1).elim other.1 other.2
  by_cases authorized : applied.event.eventType = .workInvocationAuthorized
  · have kept := unmoved (by simp [authorized])
    obtain ⟨permit, debit, charged, binding, invocation, charges⟩ :=
      applied.charges grown authorized
    rw [charges.accounts, lookup_insert_eq_ite] at found
    split at found
    · next same =>
      cases found
      exact kept charged (same ▸ charges.foundAccount)
    · exact kept _ found
  · obtain ⟨change, changed, unchanged, written, _⟩ := applied.after_phase4
    rw [written] at found
    cases change with
    | none => exact unmoved (unchanged rfl).2 _ found
    | some projection =>
      cases changed projection rfl with
      | created eventType carried opened target first absent =>
        simp only [Option.bind_some, Option.toList_some, insertAll_cons, insertAll_nil,
          lookup_insert_eq_ite] at found
        split at found
        · next same =>
          cases found
          simp only [WorkBudgetPayload.account, tests_iff] at opened
          obtain ⟨_, rfl⟩ := opened
          rw [applied.after_revisions, if_pos (show reference = applied.target from same), first]
          exact ⟨by rw [same, target]; rfl, rfl⟩
        · next other => exact elsewhere other _ found
      | amended eventType carried before amendment revision =>
        simp only [Option.bind_some, Option.toList_some, insertAll_cons, insertAll_nil,
          lookup_insert_eq_ite] at found
        split at found
        · next same =>
          cases found
          rw [applied.after_revisions, if_pos (show reference = applied.target from same), revision]
          exact ⟨same ▸ (intact.accounts _ _ before).1, rfl⟩
        · next other => exact elsewhere other _ found
      | authorized eventType => exact absurd eventType authorized
      | bound eventType | rescoped eventType => exact unmoved (by simp [eventType]) _ found
      | moved eventType =>
        refine unmoved ⟨?_, ?_⟩ _ found <;> intro same <;>
          simp [same, Store.movesInvocation] at eventType

theorem intact_bindings (grown : copy.Extends current) (intact : current.Intact) :
    ∀ reference binding, applied.after.taskWorkBudgets.lookup reference = some binding →
      binding.purposeUsed.Complete := by
  intro reference binding found
  by_cases authorized : applied.event.eventType = .workInvocationAuthorized
  · obtain ⟨permit, debit, account, charged, invocation, charges⟩ :=
      applied.charges grown authorized
    rw [charges.bindings, lookup_insert_eq_ite] at found
    split at found
    · cases found
      exact (intact.bindings _ _ charges.foundBinding).insert
        (charges.purpose ▸ charges.purposeValid) _
    · exact intact.bindings _ _ found
  · obtain ⟨change, changed, _, _, written, _⟩ := applied.after_phase4
    rw [written] at found
    obtain old | ⟨projection, made, new⟩ := lookup_insertAll_bind found
    · exact intact.bindings _ _ old
    cases changed projection made with
    | bound eventType carried parsed target counted =>
      cases new
      exact Store.carryCounters_complete (TaskWorkBudgetPayload.binding_valid parsed) counted
    | authorized eventType => exact absurd eventType authorized
    | created | amended | rescoped | moved => cases new

end AppliedCommand

theorem Evaluator.Reaches.intact {evaluator : Evaluator}
    {allowed : Store → Store → StoreInput → Prop} {shared : Shared Store}
    (reached : evaluator.Reaches allowed shared) : shared.current.Intact := by
  refine reached.holds (fun policy faultPoint => ?_) (fun same held => ?_)
    (fun applied reached taken _ _ held => ?_)
  · constructor <;> simp [Store.new]
  · obtain ⟨epochs, escalations, accounts, bindings⟩ := held
    constructor
    · rwa [same.states]
    · rwa [same.escalations]
    · rwa [same.workBudgetAccounts, same.revisions]
    · rwa [same.taskWorkBudgets]
  · have grown := reached.growth taken
    exact ⟨applied.intact_epochs grown reached.statesCurrent held,
      applied.intact_escalations held, applied.intact_accounts grown held,
      applied.intact_bindings grown held⟩

end Tekroo.Kernel
