import Tekroo.Properties.Replay

namespace Tekroo.Kernel

open Lib Checked

/-! # Versions of an owner

Every command that moves an owner raises the version, except a reopening that clears the owner.
-/

def Ownership.Paired (ownership : Ownership) : Prop :=
  ownership.ownerFQN.isSome = ownership.assignedEventID.isSome

def changesOwner : CommandType → Bool
  | .taskAcquireOwnership | .taskReleaseOwnership | .taskHandoff | .taskForceReassign => true
  | _ => false

section Kernel

variable {command : KernelCommand} {state next : AggregateState} {revision : Nat}
  {eventID : UUIDv7}

theorem applyOwnership_versioned {commandType : CommandType} {payload : Payload}
    (owned : applyOwnership commandType payload state eventID = .ok next) :
    if changesOwner commandType then next.ownership.Paired ∧
      next.ownership.ownershipVersion = state.ownership.ownershipVersion + 1
    else next = state := by
  unfold applyOwnership at owned
  split at owned
  all_goals try split at owned
  all_goals simp [Ownership.acquire, Ownership.release, Ownership.reassign] at owned
  all_goals obtain ⟨_, _, _, rfl⟩ := owned
  all_goals simp [changesOwner, Ownership.Paired]

theorem AggregateState.reopened_ownership (paired : state.ownership.Paired)
    (keeps : command.keepsOwner state) :
    (state.reopened command.payload).ownership = state.ownership := by
  unfold AggregateState.reopened
  rcases keeps with ⟨value, payload, carried⟩ | unowned
  · simp only [payload, carried, if_true]
    split <;> rfl
  · have unassigned : state.ownership.assignedEventID = none := by
      simpa [Ownership.Paired, unowned] using paired.symm
    have cleared : { state.ownership with ownerFQN := none, assignedEventID := none } =
        state.ownership := by rw [← unowned, ← unassigned]
    split
    · split <;> split <;> first | rfl | exact cleared
    · exact cleared

theorem evolveLifecycle_keepsOwner (paired : state.ownership.Paired)
    (keeps : command.commandType = .workReopen → command.keepsOwner state)
    (lifecycle : evolveLifecycle command state = .ok next) :
    next.ownership = state.ownership := by
  refine evolveLifecycle_holds (·.ownership = state.ownership) (fun _ _ _ kept => kept)
    (fun reopens moved kept => ?_) lifecycle rfl
  have keeps := keeps reopens
  rw [KernelCommand.keepsOwner, ← kept] at keeps
  exact (AggregateState.reopened_ownership (kept ▸ paired) keeps).trans kept

theorem evolveExisting_ownership (work : command.commandType.forWork = true)
    (paired : state.ownership.Paired)
    (keeps : command.commandType = .workReopen → command.keepsOwner state)
    (evolved : evolveExisting command state revision eventID = .ok next) :
    next.ownership.Paired ∧
      if changesOwner command.commandType then
        next.ownership.ownershipVersion = state.ownership.ownershipVersion + 1
      else next.ownership = state.ownership := by
  obtain ⟨_, _, _, _, moved, owned, lifecycle, ownership, rfl⟩ :=
    (evolveExisting_work work).mp evolved
  have kept := evolveLifecycle_keepsOwner paired keeps lifecycle
  have versioned := applyOwnership_versioned ownership
  rw [kept] at versioned
  split at versioned
  · next changes => simpa [changes] using versioned
  · next other =>
    subst versioned
    rw [if_neg other]
    exact ⟨kept ▸ paired, kept⟩

end Kernel

def Store.OwnersPaired (store : Store) : Prop :=
  ∀ task state, task.kind = .task → store.states.lookup task = some state →
    state.ownership.Paired

/-- Versions never fall, and a task with the same version has the same owner and assignment. -/
def Store.OwnersVersioned (before after : Store) : Prop :=
  ∀ task first, task.kind = .task → before.states.lookup task = some first →
    ∃ last, after.states.lookup task = some last ∧
      first.ownership.ownershipVersion ≤ last.ownership.ownershipVersion ∧
      (first.ownership.ownershipVersion = last.ownership.ownershipVersion →
        first.ownership = last.ownership)

namespace AppliedCommand

variable {evaluator : Evaluator} {copy current : Store}
  (applied : AppliedCommand evaluator copy current) (grown : copy.Extends current)
  (held : current.StatesCurrent) (paired : current.OwnersPaired)
  (keeps : ReopensKeepOwner copy current (.decide applied.command applied.context))

include grown held paired keeps

theorem ownership_moved (kind : applied.target.kind = .task) {state : AggregateState}
    (found : current.states.lookup applied.target = some state) :
    ∃ next, applied.after.states.lookup applied.target = some next ∧ next.ownership.Paired ∧
      if changesOwner applied.command.commandType then
        next.ownership.ownershipVersion = state.ownership.ownershipVersion + 1
      else next.ownership = state.ownership := by
  obtain ⟨next, moved, evolved⟩ := applied.evolves grown held found
  exact ⟨next, by simp [applied.after_states, moved],
    evolveExisting_ownership (applied.forWork (.inr kind)) (paired _ _ kind found)
      (fun type => keeps type state found) evolved⟩

theorem ownersPaired : applied.after.OwnersPaired := by
  intro task state kind stored
  by_cases target : task = applied.target
  · subst target
    cases found : current.states.lookup applied.target with
    | none =>
      rw [applied.after_states, if_pos rfl, applied.created grown held (.inr kind) found] at stored
      cases stored
      rfl
    | some before =>
      obtain ⟨next, moved, both, _⟩ := applied.ownership_moved grown held paired keeps kind found
      rw [moved] at stored
      cases stored
      exact both
  · rw [applied.after_states, if_neg target] at stored
    exact paired task state kind stored

theorem ownersVersioned : current.OwnersVersioned applied.after := by
  intro task first kind found
  by_cases target : task = applied.target
  · subst target
    obtain ⟨next, moved, _, versioned⟩ := applied.ownership_moved grown held paired keeps kind found
    refine ⟨next, moved, ?_⟩
    split at versioned
    · omega
    · rw [versioned]
      exact ⟨Nat.le_refl _, fun _ => rfl⟩
  · exact ⟨first, by rw [applied.after_states, if_neg target, found], Nat.le_refl _, fun _ => rfl⟩

end AppliedCommand

theorem Evaluator.Reaches.ownersPaired {evaluator : Evaluator} {shared : Shared Store}
    (reached : evaluator.Reaches ReopensKeepOwner shared) : shared.current.OwnersPaired := by
  refine reached.holds (fun _ _ => by simp [Store.OwnersPaired, Store.new])
    (fun same held => ?_) (fun applied reached taken keeps _ held =>
      applied.ownersPaired (reached.growth taken) reached.statesCurrent held keeps)
  rwa [Store.OwnersPaired, same.states]

/-- In every interleaving whose reopenings keep the owner, a task has an owner exactly when it
has an assignment, every command that moves the owner raises the version, and a task that has the
same version at two times has the same owner and assignment. -/
theorem ownership_versioned {evaluator : Evaluator} {shared : Shared Store}
    (reached : evaluator.Reaches ReopensKeepOwner shared) :
    (∀ task state, task.kind = .task → shared.current.states.lookup task = some state →
      (state.ownership.ownerFQN.isSome ↔ state.ownership.assignedEventID.isSome)) ∧
    (∀ copy ∈ shared.copies, copy.OwnersVersioned shared.current) ∧
    ∀ copy ∈ shared.copies, ∀ command context,
      evaluator.applies copy shared.current command context = true →
      ReopensKeepOwner copy shared.current (.decide command context) →
      command.target.kind = .task → ∀ before after,
        shared.current.states.lookup command.target = some before →
        (evaluator.update copy shared.current
          (.decide command context)).states.lookup command.target = some after →
        changesOwner command.commandType = true ∨
          before.ownership.ownerFQN ≠ after.ownership.ownerFQN →
        before.ownership.ownershipVersion < after.ownership.ownershipVersion := by
  refine ⟨fun task state kind found => ?_, fun copy taken => ?_, ?_⟩
  · rw [reached.ownersPaired task state kind found]
  · refine reached.grows (fun _ task state _ found => ⟨state, found, Nat.le_refl _, fun _ => rfl⟩)
      (fun left right task first kind found => ?_) (fun same task state _ found => ?_)
      (fun applied reached taken keeps => applied.ownersVersioned (reached.growth taken)
        reached.statesCurrent reached.ownersPaired keeps) taken
    · obtain ⟨middle, found, rises, same⟩ := left task first kind found
      obtain ⟨last, found, rises', same'⟩ := right task middle kind found
      exact ⟨last, found, rises.trans rises', fun equal =>
        (same (by omega)).trans (same' (by omega))⟩
    · exact ⟨state, same.states ▸ found, Nat.le_refl _, fun _ => rfl⟩
  · intro copy taken command context applies keeps kind before after found stored changes
    obtain ⟨applied, rfl, rfl, written⟩ := Evaluator.applies_update applies
    obtain ⟨next, moved, _, versioned⟩ := applied.ownership_moved (reached.growth taken)
      reached.statesCurrent reached.ownersPaired keeps kind found
    rw [written] at stored
    cases moved.symm.trans stored
    split at versioned
    · omega
    · next other => exact absurd changes (by simp [versioned, other])

namespace Sample

set_option maxRecDepth 4096

/-- Reopening takes the owner away and leaves the version. -/
theorem reopened_version_kept :
    evaluator.Reachable completed ∧
      evaluator.applies completed.current completed.current (reopen 19 task 7 false)
        (context 19) = true ∧
      (completed.current.states.lookup task).map (·.ownership) =
        some ⟨some actor, 1, some (.number 7)⟩ ∧
      (reopened.current.states.lookup task).map (·.ownership) = some ⟨none, 1, none⟩ :=
  ⟨(Evaluator.Reaches.start policy .none).script fun _ _ _ _ => trivial, by decide⟩

theorem completed_owner_assigned :
    ∃ state, completed.current.states.lookup task = some state ∧
      (state.ownership.ownerFQN.isSome ↔ state.ownership.assignedEventID.isSome) := by
  have stored : (completed.current.states.lookup task).isSome := by decide
  obtain ⟨state, found⟩ := Option.isSome_iff_exists.mp stored
  exact ⟨state, found, (ownership_versioned completed_keeps).1 task state rfl found⟩

end Sample

end Tekroo.Kernel
