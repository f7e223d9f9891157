import Tekroo.Properties.Replay

namespace Tekroo.Kernel

open Lib Checked

/-! # Epochs and phases of stories and tasks

Only a reopening starts an epoch and widens the scope, and a closed item stays as it is.
-/

/-- What a command of the given type does to the item it targets. -/
structure WorkMove (commandType : CommandType) (before after : AggregateState) : Prop where
  epoch : after.lifecycleEpoch =
    before.lifecycleEpoch + if commandType = .workReopen then 1 else 0
  scope : if commandType = .workReopen then before.scopeRevision < after.scopeRevision
    else after.scopeRevision = before.scopeRevision
  ended : before.phase = .completed ∨ before.phase = .accepted →
    after.phase = before.phase ∨ commandType = .workReopen ∨
      commandType = .storyRequestAcceptance ∧ before.phase = .completed ∧ after.phase = .accepted
  closed : before.phase = .closed → after = { before with revision := after.revision }

section Kernel

variable {command : KernelCommand} {state next : AggregateState} {revision : Nat}
  {eventID : UUIDv7} {commandType : CommandType} {phase : Phase}

theorem terminalCommandProhibited_false (ended : terminalPhase phase = true)
    (allowed : terminalCommandProhibited commandType phase = false) :
    commandType = .workReopen ∨ commandType = .workCreateSuccessor ∨
      commandType = .recordCorrect ∨ phase = .completed ∧
        (commandType = .storyRequestAcceptance ∨ commandType = .storyApproveRelease) := by
  simp only [terminalCommandProhibited, ended, Bool.true_and] at allowed
  split at allowed <;> simp_all

theorem applyLifecycle_reopen_closed (closed : state.phase = .closed) :
    state.applyLifecycle .reopen = none := by
  simp [AggregateState.applyLifecycle, applyLifecycleActions, applyLifecycleAction, closed]

theorem applyLifecycle_accept {moved : AggregateState}
    (accepts : state.applyLifecycle .accept = some moved) : moved.phase = .accepted := by
  simp only [AggregateState.applyLifecycle, applyLifecycleActions, applyLifecycleAction] at accepts
  cases stepped : lifecycleTransition state.lifecycleModel state.phase .accept with
  | none => simp [stepped] at accepts
  | some phase =>
    simp only [stepped, Option.map_some, Option.isSome_none, Bool.false_eq_true, if_false,
      Option.some.injEq] at accepts
    rw [← accepts]
    unfold lifecycleTransition at stepped
    split at stepped <;> simp_all

theorem evolveExisting_ended (work : command.commandType.forWork = true)
    (ended : terminalPhase state.phase = true)
    (evolved : evolveExisting command state revision eventID = .ok next) :
    next = { state with revision := next.revision } ∨
      state.phase ≠ .closed ∧ (command.commandType = .workReopen ∨
        command.commandType = .storyRequestAcceptance ∧ state.phase = .completed ∧
          next.phase = .accepted) := by
  obtain ⟨_, _, _, allowed, moved, owned, lifecycle, ownership, rfl⟩ :=
    (evolveExisting_work work).mp evolved
  obtain type | type | type | ⟨phase, type | type⟩ := terminalCommandProhibited_false ended allowed
  all_goals simp only [evolveLifecycle, applyOwnership, type, commandLifecycleAction, chain_ok,
    Except.ok.injEq] at lifecycle ownership
  all_goals subst ownership
  case inl =>
    refine .inr ⟨fun closed => ?_, .inl type⟩
    simp [applyLifecycle_reopen_closed closed] at lifecycle
  case inr.inr.inr.inl =>
    obtain ⟨accepted, stepped, finished⟩ := lifecycle
    cases finished
    have phase' : moved.phase = .accepted := applyLifecycle_accept stepped
    exact .inr ⟨by simp [phase], .inr ⟨type, phase, phase'⟩⟩
  all_goals
    subst lifecycle
    exact .inl rfl

end Kernel

/-- The epoch of an item is one more than the number of its reopenings. -/
def Store.EpochsCounted (store : Store) : Prop :=
  ∀ item, item.kind = .story ∨ item.kind = .task →
    match store.states.lookup item with
    | none => store.events.countP (·.reopens item) = 0
    | some state => state.lifecycleEpoch = 1 + store.events.countP (·.reopens item)

/-- A closed item is as it was, up to the revision. -/
def Store.ClosedKept (before after : Store) : Prop :=
  ∀ item first, item.kind = .story ∨ item.kind = .task →
    before.states.lookup item = some first → first.phase = .closed →
    ∃ last, after.states.lookup item = some last ∧
      last = { first with revision := last.revision }

namespace AppliedCommand

variable {evaluator : Evaluator} {copy current : Store}
  (applied : AppliedCommand evaluator copy current) (grown : copy.Extends current)
  (held : current.StatesCurrent) {item : AggregateRef} {state : AggregateState}

theorem after_reopenings : applied.after.events.countP (·.reopens item) =
    current.events.countP (·.reopens item) +
      if applied.command.commandType = .workReopen ∧ applied.command.target = item then 1
      else 0 := by
  rw [applied.after_events, List.countP_append, List.countP_singleton, applied.event_reopens]
  simp only [tests_iff]
  rfl

include grown held

theorem work_moved (work : item.kind = .story ∨ item.kind = .task)
    (found : current.states.lookup item = some state) :
    ∃ next, applied.after.states.lookup item = some next ∧
    (applied.command.target = item → WorkMove applied.command.commandType state next) ∧
      (applied.command.target ≠ item → next = state) := by
  by_cases target : item = applied.target
  · subst target
    obtain ⟨next, moved, evolved⟩ := applied.evolves grown held found
    have forWork := applied.forWork work
    have epochs := evolveExisting_epoch forWork evolved
    refine ⟨next, by simp [applied.after_states, moved], fun _ => ?_, fun other => absurd rfl other⟩
    constructor
    case epoch => split at epochs <;> simp_all
    case scope =>
      split at epochs
      · next reopens =>
        obtain ⟨_, again, value, payload, wider⟩ := applied.reopens_scope grown held reopens
        cases again.symm.trans found
        rwa [if_pos reopens, epochs.2 value payload (by omega)]
      · next other => rw [if_neg other, epochs.2]
    case ended =>
      intro phase
      have ended : terminalPhase state.phase = true := by rcases phase with h | h <;> rw [h] <;> rfl
      obtain same | ⟨_, leaves⟩ := evolveExisting_ended forWork ended evolved
      · exact .inl (by rw [same])
      · exact .inr leaves
    case closed =>
      intro phase
      have ended : terminalPhase state.phase = true := by rw [phase]; rfl
      exact (evolveExisting_ended forWork ended evolved).resolve_right (absurd phase ·.1)
  · exact ⟨state, by rw [applied.after_states, if_neg target, found],
      fun same => absurd same.symm target, fun _ => rfl⟩

theorem closedKept : current.ClosedKept applied.after := by
  intro item first work found closed
  obtain ⟨next, moved, same, other⟩ := applied.work_moved grown held work found
  refine ⟨next, moved, ?_⟩
  by_cases target : applied.command.target = item
  · exact (same target).closed closed
  · rw [other target]

theorem epochsCounted (counted : current.EpochsCounted) : applied.after.EpochsCounted := by
  intro item work
  have before := counted item work
  rw [applied.after_reopenings]
  cases found : current.states.lookup item with
  | none =>
    simp only [found] at before
    by_cases target : item = applied.target
    · subst target
      have created := applied.created grown held work found
      have other : applied.command.commandType ≠ .workReopen := fun reopens => by
        obtain ⟨state, existing, _⟩ := applied.reopens_scope grown held reopens
        cases existing.symm.trans found
      simp [applied.after_states, created, before, other, createdWork, createdState]
    · have apart : applied.command.target ≠ item := Ne.symm target
      simp [applied.after_states, target, apart, found, before]
  | some state =>
    obtain ⟨next, moved, same, other⟩ := applied.work_moved grown held work found
    simp only [found] at before
    simp only [moved]
    by_cases target : applied.command.target = item
    · rw [(same target).epoch, before]
      simp [target, Nat.add_assoc]
    · rw [other target, before]
      simp [target]

end AppliedCommand

theorem Evaluator.Reaches.epochsCounted {evaluator : Evaluator} {shared : Shared Store}
    (reached : evaluator.Reachable shared) : shared.current.EpochsCounted := by
  refine reached.holds (fun _ _ => by simp [Store.EpochsCounted, Store.new])
    (fun same held => by rwa [Store.EpochsCounted, same.states, same.events])
    (fun applied reached taken _ _ held => applied.epochsCounted (reached.growth taken)
      reached.statesCurrent held)

/-- In every interleaving the epoch of a story or a task counts its reopenings, the scope widens
with each of them and with no other command, ended work is only reopened or accepted, and a closed
item never changes. -/
theorem epochs_count_reopenings {evaluator : Evaluator} {shared : Shared Store}
    (reached : evaluator.Reachable shared) :
    shared.current.EpochsCounted ∧ (∀ copy ∈ shared.copies, copy.ClosedKept shared.current) ∧
    ∀ copy ∈ shared.copies, ∀ command context,
      evaluator.applies copy shared.current command context = true → ∀ item,
      (evaluator.update copy shared.current (.decide command context)).events.countP
          (·.reopens item) = shared.current.events.countP (·.reopens item) +
        (if command.commandType = .workReopen ∧ command.target = item then 1 else 0) ∧
      ∀ before, item.kind = .story ∨ item.kind = .task →
        shared.current.states.lookup item = some before →
        ∃ after, (evaluator.update copy shared.current
            (.decide command context)).states.lookup item = some after ∧
          (command.target = item → WorkMove command.commandType before after) ∧
          (command.target ≠ item → after = before) := by
  refine ⟨reached.epochsCounted, fun copy taken => ?_, ?_⟩
  · refine reached.grows (fun _ _ first _ found _ => ⟨first, found, rfl⟩)
      (fun left right item first work found closed => ?_)
      (fun same item first _ found _ => ⟨first, same.states ▸ found, rfl⟩)
      (fun applied reached taken _ => applied.closedKept (reached.growth taken)
        reached.statesCurrent) taken
    obtain ⟨middle, found, same⟩ := left item first work found closed
    obtain ⟨last, found, again⟩ := right item middle work found (by rw [same]; exact closed)
    refine ⟨last, found, ?_⟩
    rw [again, same]
  · intro copy taken command context applies item
    obtain ⟨applied, rfl, rfl, written⟩ := Evaluator.applies_update applies
    rw [written]
    exact ⟨applied.after_reopenings, fun before work found =>
      applied.work_moved (reached.growth taken) reached.statesCurrent work found⟩

namespace Sample

set_option maxRecDepth 4096 in
theorem reopened_epoch_counted :
    reopened.current.events.countP (·.reopens task) = 1 ∧ reopened.current.EpochsCounted :=
  ⟨by decide, (epochs_count_reopenings reopened_reachable).1⟩

end Sample

end Tekroo.Kernel
