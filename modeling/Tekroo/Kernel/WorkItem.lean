import Tekroo.Kernel.Fold

namespace Tekroo.Kernel

open Checked AggregateState

/-! # Stories and tasks

The commands on stories and tasks move a lifecycle and an owner, nothing else of a state.
-/

def CommandType.forWork (commandType : CommandType) : Bool :=
  (commandEntry commandType).any fun definition =>
    definition.targetKinds.contains .story || definition.targetKinds.contains .task

variable {command : KernelCommand} {state next : AggregateState} {revision : Nat} {eventID : UUIDv7}
  {commandType : CommandType} (payload : Payload) {action : LifecycleAction}

theorem CommandType.forWork_passes (work : commandType.forWork = true) :
    continuityEventType commandType = none ∧ interactionEventType commandType = none ∧
      commandType ≠ .humanParticipantBindProfile ∧ commandType ≠ .humanParticipantRevoke ∧
      commandType ≠ .systemBindOperatorRole ∧ commandType ≠ .systemConfigureContinuity := by
  cases commandType <;> simp_all [CommandType.forWork, commandEntry, entry, continuityEventType,
    interactionEventType]

theorem evolveExisting_work (work : command.commandType.forWork = true) :
    evolveExisting command state revision eventID = .ok next ↔
      state.id = command.target.id ∧ state.kind = command.target.kind ∧
      state.revision = revision ∧
      terminalCommandProhibited command.commandType state.phase = false ∧
      ∃ moved owned, evolveLifecycle command state = .ok moved ∧
        applyOwnership command.commandType command.payload moved eventID = .ok owned ∧
        next = { owned with revision := revision + 1 } := by
  obtain ⟨continuity, interaction, bind, revoke, role, configure⟩ := CommandType.forWork_passes work
  have conversation : ∀ state, evolveConversation command state (revision + 1) eventID =
      .ok state := by simp [evolveConversation, continuity, interaction]
  have profile : ∀ state, evolveProfile command state (revision + 1) eventID = .ok state := by
    intro state
    unfold evolveProfile
    split <;> first | rfl | contradiction
  simp only [evolveExisting, chain_ok, conversation, profile, Except.ok.injEq, exists_eq_left',
    tests_iff]
  constructor
  · rintro ⟨⟨⟨id, kind⟩, same⟩, open_, moved, lifecycle, owned, ownership, rfl⟩
    exact ⟨id, kind, same, open_, moved, owned, lifecycle, ownership, rfl⟩
  · rintro ⟨id, kind, same, open_, moved, owned, lifecycle, ownership, rfl⟩
    exact ⟨⟨⟨id, kind⟩, same⟩, open_, moved, lifecycle, owned, ownership, rfl⟩

theorem applyOwnership_ok {payload : Payload}
    (owned : applyOwnership commandType payload state eventID = .ok next) :
    next = { state with ownership := next.ownership } := by
  unfold applyOwnership at owned
  split at owned
  all_goals try split at owned
  all_goals simp at owned
  all_goals obtain ⟨_, _, _, _, rfl⟩ := owned; rfl

theorem applyLifecycleAction_epoch {model : LifecycleModel} {before after : LifecycleState}
    (moved : applyLifecycleAction model before action = some after) :
    after.lifecycleEpoch =
      if action = .reopen then before.lifecycleEpoch + 1 else before.lifecycleEpoch := by
  cases action <;> simp only [applyLifecycleAction] at moved
  all_goals first
    | split at moved
    | obtain ⟨_, _, moved⟩ := Option.map_eq_some_iff.mp moved
  all_goals cases moved
  all_goals rfl

theorem AggregateState.applyLifecycle_ok (moved : state.applyLifecycle action = some next) :
    next = { state with
        phase := next.phase
        condition := next.condition
        lifecycleEpoch := next.lifecycleEpoch } ∧
      next.lifecycleEpoch =
        if action = .reopen then state.lifecycleEpoch + 1 else state.lifecycleEpoch := by
  simp only [applyLifecycle, applyLifecycleActions] at moved
  cases step : applyLifecycleAction state.lifecycleModel
    ⟨state.phase, state.condition, state.lifecycleEpoch, none⟩ action with
  | none => simp [step] at moved
  | some after =>
    simp only [step, Option.isSome_none, Bool.false_eq_true, if_false, Option.some.injEq] at moved
    subst moved
    exact ⟨rfl, applyLifecycleAction_epoch step⟩

theorem AggregateState.reopened_frame : ∃ scopeRevision ownership,
    state.reopened payload = { state with scopeRevision, ownership } := by
  unfold reopened
  split
  · split <;> split <;> exact ⟨_, _, rfl⟩
  · exact ⟨_, _, rfl⟩

@[simp] theorem AggregateState.reopened_lifecycleEpoch :
    (state.reopened payload).lifecycleEpoch = state.lifecycleEpoch := by
  obtain ⟨_, _, same⟩ := state.reopened_frame payload
  rw [same]

@[simp] theorem AggregateState.reopened_continuity :
    (state.reopened payload).continuity = state.continuity := by
  obtain ⟨_, _, same⟩ := state.reopened_frame payload
  rw [same]

theorem AggregateState.reopened_scope {value : ReopenPayload}
    (positive : 0 < value.newScopeRevision) :
    (state.reopened (.reopen value)).scopeRevision = value.newScopeRevision := by
  simp only [reopened, positive, if_true]
  split <;> rfl

theorem commandLifecycleAction_reopen :
    commandLifecycleAction commandType = some .reopen ↔ commandType = .workReopen := by
  cases commandType <;> simp [commandLifecycleAction]

theorem evolveLifecycle_holds (Holds : AggregateState → Prop)
    (acts : ∀ phase condition lifecycleEpoch,
      Holds state → Holds { state with phase, condition, lifecycleEpoch })
    (reopens : command.commandType = .workReopen →
      ∀ state, Holds state → Holds (state.reopened command.payload))
    (lifecycle : evolveLifecycle command state = .ok next) (held : Holds state) : Holds next := by
  unfold evolveLifecycle at lifecycle
  split at lifecycle
  · cases lifecycle
    exact held
  · simp only [chain_ok] at lifecycle
    obtain ⟨moved, stepped, finished⟩ := lifecycle
    have kept : Holds moved := (applyLifecycle_ok stepped).1 ▸ acts _ _ _ held
    split at finished
    · next reopening =>
      cases finished
      exact reopens (beq_iff_eq.mp reopening) moved kept
    · cases finished
      exact kept

theorem evolveLifecycle_epoch (lifecycle : evolveLifecycle command state = .ok next) :
    if command.commandType = .workReopen then
      next.lifecycleEpoch = state.lifecycleEpoch + 1 ∧ ∀ value, command.payload = .reopen value →
        0 < value.newScopeRevision → next.scopeRevision = value.newScopeRevision
    else next.lifecycleEpoch = state.lifecycleEpoch ∧ next.scopeRevision = state.scopeRevision := by
  unfold evolveLifecycle at lifecycle
  cases acts : commandLifecycleAction command.commandType with
  | none =>
    simp only [acts, Except.ok.injEq] at lifecycle
    subst lifecycle
    rw [if_neg]
    · exact ⟨rfl, rfl⟩
    · intro reopening
      simp [reopening, commandLifecycleAction] at acts
  | some action =>
    simp only [acts, chain_ok] at lifecycle
    obtain ⟨moved, lifecycle, finished⟩ := lifecycle
    obtain ⟨same, epoch⟩ := applyLifecycle_ok lifecycle
    by_cases reopening : command.commandType = .workReopen
    · rw [reopening] at acts
      cases acts
      simp only [reopening, beq_self_eq_true, if_true, pure_ok] at finished
      subst finished
      rw [if_pos reopening, reopened_lifecycleEpoch]
      exact ⟨epoch, fun value payload wider => payload ▸ reopened_scope wider⟩
    · have other : action ≠ .reopen := fun reopen =>
        reopening (commandLifecycleAction_reopen.mp (acts.trans (congrArg some reopen)))
      simp only [beq_iff_eq, reopening, if_false, pure_ok] at finished
      subst finished
      rw [if_neg reopening]
      rw [if_neg other] at epoch
      exact ⟨epoch, by rw [same]⟩

theorem evolveExisting_epoch (work : command.commandType.forWork = true)
    (evolved : evolveExisting command state revision eventID = .ok next) :
    if command.commandType = .workReopen then
      next.lifecycleEpoch = state.lifecycleEpoch + 1 ∧ ∀ value, command.payload = .reopen value →
        0 < value.newScopeRevision → next.scopeRevision = value.newScopeRevision
    else next.lifecycleEpoch = state.lifecycleEpoch ∧ next.scopeRevision = state.scopeRevision := by
  obtain ⟨_, _, _, _, moved, owned, lifecycle, ownership, rfl⟩ :=
    (evolveExisting_work work).mp evolved
  have epoch := congrArg lifecycleEpoch (applyOwnership_ok ownership)
  have scope := congrArg scopeRevision (applyOwnership_ok ownership)
  simp only [epoch, scope]
  exact evolveLifecycle_epoch lifecycle

theorem AggregateState.reopened_scopeRevision_pos (positive : 0 < state.scopeRevision) :
    0 < (state.reopened payload).scopeRevision := by
  unfold reopened
  split
  · split <;> split <;> assumption
  · exact positive

theorem evolveExisting_scope (work : command.commandType.forWork = true)
    (evolved : evolveExisting command state revision eventID = .ok next)
    (positive : 0 < state.scopeRevision) : 0 < next.scopeRevision := by
  obtain ⟨_, _, _, _, moved, owned, lifecycle, ownership, rfl⟩ :=
    (evolveExisting_work work).mp evolved
  have scope := congrArg scopeRevision (applyOwnership_ok ownership)
  simp only [scope]
  exact evolveLifecycle_holds (0 < ·.scopeRevision) (fun _ _ _ held => held)
    (fun _ _ held => reopened_scopeRevision_pos _ held) lifecycle positive

variable {snapshot : Snapshot} {nextState : Option AggregateState} {nextRevision : Nat}

theorem evolveState_cases
    (evolved : evolveState command snapshot eventID = .ok (nextState, nextRevision)) :
    (commandCreatesAggregate command = true ∧ nextRevision = 1 ∧
        ∃ state, nextState = some state ∧ (state = createdWork command.target ∨
          createOperatorState command eventID = .ok state)) ∨
      nextRevision = snapshot.revision + 1 ∧
        (snapshot.state = none ∧ nextState = none ∧ command.target.kind ≠ .story ∧
            command.target.kind ≠ .task ∨
          ∃ state next, snapshot.state = some state ∧ nextState = some next ∧
            evolveExisting command state snapshot.revision eventID = .ok next) := by
  unfold evolveState at evolved
  split at evolved
  · next creates =>
    have created : commandCreatesAggregate command = true := by
      simp only [tests_iff] at creates
      rcases creates with type | type <;> simp [commandCreatesAggregate, type]
    cases evolved
    exact .inl ⟨created, rfl, _, rfl, .inl rfl⟩
  · split at evolved
    · next creates =>
      simp only [isOperatorHumanContinuityCreation, tests_iff] at creates
      simp only [chain_ok, Prod.mk.injEq] at evolved
      obtain ⟨state, created, rfl, rfl⟩ := evolved
      exact .inl ⟨creates.1, rfl, state, rfl, .inr created⟩
    · split at evolved
      · next found =>
        split at evolved
        · cases evolved
        · next other =>
          cases evolved
          simp only [tests_iff, not_or] at other
          exact .inr ⟨rfl, .inl ⟨found, rfl, other⟩⟩
      · next state found =>
        simp only [chain_ok, Prod.mk.injEq] at evolved
        obtain ⟨next, moved, rfl, rfl⟩ := evolved
        exact .inr ⟨rfl, .inr ⟨state, next, found, rfl, moved⟩⟩

theorem createOperatorState_forWork (created : createOperatorState command eventID = .ok next) :
    command.commandType.forWork = false := by
  unfold createOperatorState at created
  split at created
  all_goals first | cases created | simp_all [CommandType.forWork, commandEntry, entry]

theorem evolveState_scope (work : command.commandType.forWork = true)
    (evolved : evolveState command snapshot eventID = .ok (some next, nextRevision))
    (positive : ∀ state, snapshot.state = some state → 0 < state.scopeRevision) :
    0 < next.scopeRevision := by
  obtain ⟨_, _, state, made, rfl | created⟩ | ⟨_, ⟨_, none, _⟩ | ⟨state, _, found, made, moved⟩⟩ :=
    evolveState_cases evolved
  · cases made
    exact Nat.one_pos
  · cases (createOperatorState_forWork created).symm.trans work
  · cases none
  · cases made
    exact evolveExisting_scope work moved (positive state found)

/-! # Revisions and epochs of any aggregate -/

theorem evolveConversation_frame
    (evolved : evolveConversation command state revision eventID = .ok next) :
    ∃ continuity interaction, next = { state with continuity, interaction } := by
  unfold evolveConversation at evolved
  split at evolved
  · exact ⟨_, _, (Except.ok.inj evolved).symm⟩
  · split at evolved
    · simp only [chain_ok] at evolved
      obtain ⟨_, _, rfl⟩ := evolved
      exact ⟨_, _, rfl⟩
    · simp only [chain_ok] at evolved
      obtain ⟨_, _, rfl⟩ := evolved
      exact ⟨_, _, rfl⟩
    · exact ⟨_, _, (Except.ok.inj evolved).symm⟩

theorem evolveProfile_ok (evolved : evolveProfile command state revision eventID = .ok next) :
    (command.commandType ≠ .systemConfigureContinuity ∧ ∃ participant operatorRole,
        next = { state with participant, operatorRole }) ∨
      ∃ value after, command.commandType = .systemConfigureContinuity ∧
        command.payload = .continuityConfigure value ∧
        value.continuity eventID revision = some after ∧
        (∀ current, state.continuity = some current → current.controlState = .active) ∧
        next = { state with continuity := some after } := by
  unfold evolveProfile at evolved
  split at evolved
  all_goals simp only [demand_ok, Except.ok.injEq] at evolved
  · next type =>
    unfold bindParticipant at evolved
    split at evolved
    · simp only [Option.bind_eq_some_iff, tests_iff] at evolved
      obtain ⟨_, _, _, rfl⟩ := evolved
      exact .inl ⟨by simp [type], _, _, rfl⟩
    · cases evolved
  · next type =>
    unfold revokeParticipant at evolved
    split at evolved
    · simp only [tests_iff] at evolved
      obtain ⟨_, rfl⟩ := evolved
      exact .inl ⟨by simp [type], _, _, rfl⟩
    · cases evolved
  · next type =>
    unfold replaceOperatorRole at evolved
    split at evolved
    · simp only [Option.bind_eq_some_iff, tests_iff] at evolved
      obtain ⟨_, _, _, rfl⟩ := evolved
      exact .inl ⟨by simp [type], _, _, rfl⟩
    · cases evolved
  · next type =>
    unfold reconfigureContinuity at evolved
    split at evolved
    · next value payload =>
      simp only [Option.bind_eq_some_iff, tests_iff] at evolved
      obtain ⟨after, made, active, rfl⟩ := evolved
      refine .inr ⟨value, after, type, payload, made, fun current found => ?_, rfl⟩
      simpa [found] using active
    · cases evolved
  · next type => exact .inl ⟨fun same => by simp_all, _, _, evolved.symm⟩

theorem evolveExisting_advances
    (evolved : evolveExisting command state revision eventID = .ok next) :
    state.lifecycleEpoch ≤ next.lifecycleEpoch ∧ next.revision = revision + 1 := by
  simp only [evolveExisting, chain_ok] at evolved
  obtain ⟨_, _, moved, lifecycle, owned, ownership, talked, conversation, last, profile, rfl⟩ :=
    evolved
  have epoch := evolveLifecycle_epoch lifecycle
  have kept : last.lifecycleEpoch = moved.lifecycleEpoch := by
    obtain ⟨_, _, rfl⟩ := evolveConversation_frame conversation
    have owner := congrArg AggregateState.lifecycleEpoch (applyOwnership_ok ownership)
    obtain ⟨_, _, _, rfl⟩ | ⟨_, _, _, _, _, _, rfl⟩ := evolveProfile_ok profile <;> exact owner
  refine ⟨?_, rfl⟩
  simp only [kept]
  split at epoch <;> omega

theorem createOperatorState_ok (created : createOperatorState command eventID = .ok next) :
    next.lifecycleEpoch = 1 ∧ next.revision = 1 ∧
      (next.continuity = none ∨ ∃ value after, command.commandType = .systemConfigureContinuity ∧
        command.payload = .continuityConfigure value ∧ value.continuity eventID 1 = some after ∧
        next.continuity = some after) := by
  unfold createOperatorState at created
  split at created
  all_goals simp at created
  · obtain ⟨_, _, rfl⟩ := created
    exact ⟨rfl, rfl, .inl rfl⟩
  · next value type payload =>
    obtain ⟨after, made, rfl⟩ := created
    exact ⟨rfl, rfl, .inr ⟨value, after, type, payload, made, rfl⟩⟩
  · obtain ⟨_, _, rfl⟩ := created
    exact ⟨rfl, rfl, .inl rfl⟩
  · obtain ⟨_, _, _, rfl⟩ := created
    exact ⟨rfl, rfl, .inl rfl⟩

variable (evolved : evolveState command snapshot eventID = .ok (nextState, nextRevision))

include evolved

/-- A transition numbers the next revision, in the state as well, and never leaves a state
without an epoch. -/
theorem evolveState_advances
    (fresh : commandCreatesAggregate command = true → snapshot.revision = 0)
    (epochs : ∀ state, snapshot.state = some state → 0 < state.lifecycleEpoch) :
    nextRevision = snapshot.revision + 1 ∧
      ∀ next, nextState = some next → next.revision = nextRevision ∧ 0 < next.lifecycleEpoch := by
  obtain ⟨creates, rfl, state, rfl, made⟩ |
    ⟨rfl, ⟨_, rfl, _⟩ | ⟨state, next, found, rfl, moved⟩⟩ := evolveState_cases evolved
  · rw [fresh creates]
    refine ⟨rfl, fun next same => ?_⟩
    obtain rfl := Option.some.inj same
    rcases made with rfl | created
    · exact ⟨rfl, Nat.one_pos⟩
    · obtain ⟨epoch, revision, _⟩ := createOperatorState_ok created
      exact ⟨revision, by omega⟩
  · exact ⟨rfl, by simp⟩
  · obtain ⟨epoch, revision⟩ := evolveExisting_advances moved
    refine ⟨rfl, fun _ same => Option.some.inj same ▸ ⟨revision, ?_⟩⟩
    exact Nat.lt_of_lt_of_le (epochs state found) epoch

theorem evolveState_target (creates : commandCreatesAggregate command = false)
    (found : snapshot.state = some state) : state.id = command.target.id := by
  obtain ⟨created, _⟩ | ⟨_, ⟨absent, _⟩ | ⟨_, _, stored, _, moved⟩⟩ := evolveState_cases evolved
  · cases creates.symm.trans created
  · cases absent.symm.trans found
  · cases stored.symm.trans found
    simp only [chain_ok, evolveExisting, tests_iff] at moved
    exact moved.1.1.1

end Tekroo.Kernel
