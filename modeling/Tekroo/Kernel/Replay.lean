import Tekroo.Kernel.WorkItem

namespace Tekroo.Kernel

open Checked AggregateState

/-! # Replaying one event of a story or a task

`evolveState` and `foldEvent` do the same to a story or a task, except that only the first
clears an owner when an item is reopened without carrying its owner forward.
-/

variable {command : KernelCommand} {event : DomainEvent} {state next : AggregateState}
  {eventType : EventType} {commandType : CommandType} {eventID : UUIDv7} {revision : Nat}

theorem eventLifecycleAction_source (source : eventType.source = some commandType) :
    eventLifecycleAction eventType = commandLifecycleAction commandType := by
  cases eventType <;> cases source <;> rfl

/-- The event of an ownership command is replayed by that command; no other command moves the
owner. -/
theorem eventOwnershipCommand_source (source : eventType.source = some commandType) :
    eventOwnershipCommand eventType = some commandType ∨
      eventOwnershipCommand eventType = none ∧
        ∀ payload state eventID next,
          applyOwnership commandType payload state eventID = .ok next → next = state := by
  cases eventType <;> cases source
  case taskOwnershipAcquired | taskOwnershipReleased | taskHandedOff | taskForceReassigned =>
    exact .inl rfl
  case taskActivated =>
    refine .inr ⟨rfl, fun payload state eventID next owned => ?_⟩
    cases payload <;> simp [applyOwnership] at owned
    obtain ⟨_, _, _, same⟩ := owned
    exact same.symm
  all_goals exact .inr ⟨rfl, fun _ _ _ _ owned => (Except.ok.inj owned).symm⟩

theorem foldOwnership_of_applyOwnership (source : event.eventType.source = some commandType)
    (owned : applyOwnership commandType event.payload state event.eventID = .ok next) :
    foldOwnership state event = .ok next := by
  unfold foldOwnership
  rcases eventOwnershipCommand_source source with same | ⟨none, kept⟩
  · rw [same]
    simp only [owned]
  · rw [none, kept _ _ _ _ owned]

theorem EventType.source_forWork (source : eventType.source = some commandType)
    (work : commandType.forWork = true) :
    movesContinuity eventType = false ∧ movesInteraction eventType = false ∧
      eventType ≠ .humanParticipantProfileBound ∧ eventType ≠ .humanParticipantRevoked ∧
      eventType ≠ .systemOperatorRoleBound ∧ eventType ≠ .systemContinuityConfigured := by
  cases eventType <;> cases source <;>
    first
      | exact absurd work (by decide)
      | simp [movesContinuity, movesInteraction]

theorem foldContinuity_idle (idle : movesContinuity event.eventType = false) :
    foldContinuity state event = .ok state := by
  unfold foldContinuity
  split <;> simp [idle]

theorem foldInteraction_idle (idle : movesInteraction event.eventType = false) :
    foldInteraction state event = .ok state := by
  unfold foldInteraction
  split <;> simp [idle]

theorem foldEvent_work (work : commandType.forWork = true)
    (source : event.eventType.source = some commandType) :
    foldEvent state event = (do
      let state ← foldScope state event
      let state ← foldLifecycle state event
      foldOwnership state event) := by
  obtain ⟨continuity, interaction, bound, revoked, role, configured⟩ :=
    EventType.source_forWork source work
  have profile : foldProfile state event = .ok state := by
    unfold foldProfile
    split <;> first | rfl | contradiction
  simp only [foldEvent, foldContinuity_idle continuity, foldInteraction_idle interaction, profile,
    bind, Except.bind]

theorem AggregateState.applyLifecycle_scope (state : AggregateState) (scopeRevision : Nat)
    (action : LifecycleAction) :
    { state with scopeRevision }.applyLifecycle action =
      (state.applyLifecycle action).map fun next => { next with scopeRevision } := by
  have model : { state with scopeRevision }.lifecycleModel = state.lifecycleModel := rfl
  simp only [applyLifecycle, model]
  generalize applyLifecycleActions _ _ _ = result
  cases result.rejected <;> rfl

def AggregateState.assignedByOwner (state : AggregateState) : Prop :=
  state.ownership.ownerFQN = none → state.ownership.assignedEventID = none

theorem applyOwnership_assigned {payload : Payload} (assigned : state.assignedByOwner)
    (owned : applyOwnership commandType payload state eventID = .ok next) :
    next.assignedByOwner := by
  unfold applyOwnership at owned
  split at owned
  all_goals try split at owned
  all_goals simp [Ownership.acquire, Ownership.release, Ownership.reassign] at owned
  all_goals obtain ⟨_, _, _, rfl⟩ := owned
  all_goals first
    | exact assigned
    | simp [assignedByOwner]

theorem evolveLifecycle_assigned (assigned : state.assignedByOwner)
    (lifecycle : evolveLifecycle command state = .ok next) : next.assignedByOwner := by
  refine evolveLifecycle_holds assignedByOwner (fun _ _ _ kept => kept)
    (fun _ state kept => ?_) lifecycle assigned
  unfold reopened
  split
  · split <;> split <;> first | exact kept | exact fun _ => rfl
  · exact fun _ => rfl

theorem evolveExisting_assigned (work : command.commandType.forWork = true)
    (assigned : state.assignedByOwner)
    (evolved : evolveExisting command state revision eventID = .ok next) :
    next.assignedByOwner := by
  obtain ⟨_, _, _, _, moved, owned, lifecycle, ownership, rfl⟩ :=
    (evolveExisting_work work).mp evolved
  have kept := applyOwnership_assigned (evolveLifecycle_assigned assigned lifecycle) ownership
  exact kept

def KernelCommand.keepsOwner (command : KernelCommand) (state : AggregateState) : Prop :=
  (∃ value, command.payload = .reopen value ∧ value.ownerCarryForward = true) ∨
    state.ownership.ownerFQN = none

theorem AggregateState.reopened_keepsOwner {value : ReopenPayload}
    (payload : command.payload = .reopen value) (keeps : command.keepsOwner state)
    (assigned : state.assignedByOwner) (scope : 0 < value.newScopeRevision) :
    state.reopened command.payload = { state with scopeRevision := value.newScopeRevision } := by
  simp only [payload, reopened, scope, if_true]
  rcases keeps with ⟨carried, same, forward⟩ | ownerless
  · rw [payload] at same
    cases same
    simp [forward]
  · have unassigned := assigned ownerless
    cases value.ownerCarryForward <;> simp [← ownerless, ← unassigned]

theorem AggregateState.applyLifecycle_ownership {action : LifecycleAction}
    (moved : state.applyLifecycle action = some next) : next.ownership = state.ownership := by
  rw [(applyLifecycle_ok moved).1]

/-- Reopening advances the scope before the lifecycle in the replay, after it in the
command. -/
theorem foldReopening {value : ReopenPayload} (type : command.commandType = .workReopen)
    (eventType : event.eventType = .workReopened) (payload : event.payload = command.payload)
    (given : command.payload = .reopen value)
    (advanced : state.scopeRevision < value.newScopeRevision)
    (keeps : command.keepsOwner state) (assigned : state.assignedByOwner)
    (lifecycle : evolveLifecycle command state = .ok next) :
    (do
      let state ← foldScope state event
      foldLifecycle state event) = .ok next := by
  have rescoped : foldScope state event =
      .ok { state with scopeRevision := value.newScopeRevision } := by
    have positive : value.newScopeRevision ≠ 0 := by omega
    have later : ¬ value.newScopeRevision ≤ state.scopeRevision := by omega
    simp [foldScope, eventType, payload, given, positive, later]
  simp only [evolveLifecycle, type, commandLifecycleAction, chain_ok, beq_self_eq_true,
    if_true] at lifecycle
  obtain ⟨moved, lifecycle, rfl⟩ := lifecycle
  have owner := applyLifecycle_ownership lifecycle
  rw [reopened_keepsOwner given (by rwa [KernelCommand.keepsOwner, owner])
    (by rwa [assignedByOwner, owner]) (by omega), rescoped]
  simp [foldLifecycle, eventType, eventLifecycleAction, applyLifecycle_scope,
    lifecycle, bind, Except.bind]

theorem foldLifecycle_of_evolveLifecycle (other : command.commandType ≠ .workReopen)
    (source : event.eventType.source = some command.commandType)
    (lifecycle : evolveLifecycle command state = .ok next) :
    (do
      let state ← foldScope state event
      foldLifecycle state event) = .ok next := by
  have kept : event.eventType ≠ .workReopened := fun eventType =>
    other (Option.some.inj (source.symm.trans (congrArg EventType.source eventType)))
  have rescoped : foldScope state event = .ok state := by simp [foldScope, kept]
  unfold evolveLifecycle at lifecycle
  rw [← eventLifecycleAction_source source] at lifecycle
  rw [rescoped]
  simp only [foldLifecycle, bind, Except.bind]
  split at lifecycle
  · next still => simpa [still] using lifecycle
  · next action acts =>
    simp only [acts]
    simp only [chain_ok, tests_iff, other, if_false] at lifecycle
    obtain ⟨moved, stepped, rfl⟩ := lifecycle
    simp [stepped]

/-- Replaying the event of a command on a story or a task moves the state as the command did,
provided that a reopening leaves the owner as it is. -/
theorem foldEvent_of_evolveExisting (work : command.commandType.forWork = true)
    (source : event.eventType.source = some command.commandType)
    (payload : event.payload = command.payload)
    (reopening : command.commandType = .workReopen → event.eventType = .workReopened ∧
      command.keepsOwner state ∧ ∃ value, command.payload = .reopen value ∧ state.scopeRevision <
      value.newScopeRevision) (assigned : state.assignedByOwner)
    (evolved : evolveExisting command state revision event.eventID = .ok next) :
    ∃ folded, foldEvent state event = .ok folded ∧
      next = { folded with revision := revision + 1 } := by
  obtain ⟨_, _, _, _, moved, owned, lifecycle, ownership, rfl⟩ :=
    (evolveExisting_work work).mp evolved
  have stepped : (do
      let state ← foldScope state event
      foldLifecycle state event) = .ok moved := by
    by_cases type : command.commandType = .workReopen
    · obtain ⟨eventType, keeps, value, given, advanced⟩ := reopening type
      exact foldReopening type eventType payload given advanced keeps assigned lifecycle
    · exact foldLifecycle_of_evolveLifecycle type source lifecycle
  refine ⟨owned, ?_, rfl⟩
  rw [foldEvent_work work source, ← bind_assoc, stepped]
  exact foldOwnership_of_applyOwnership source (payload ▸ ownership)

theorem creates_work (creates : commandCreatesAggregate command = true)
    (work : command.target.kind = .story ∨ command.target.kind = .task)
    (targets : ((commandEntry command.commandType).any fun definition =>
      definition.targetKinds.contains command.target.kind) = true) :
    command.commandType = .storyCreate ∧ command.target.kind = .story ∨
      command.commandType = .taskCreate ∧ command.target.kind = .task := by
  unfold commandCreatesAggregate at creates
  split at creates
  all_goals rcases work with work | work <;> simp_all [commandEntry, entry]

theorem foldNext_created
    (created : event.eventType = .storyCreated ∧ command.target.kind = .story ∨
      event.eventType = .taskCreated ∧ command.target.kind = .task)
    (aggregate : event.aggregate = command.target) (revision : event.aggregateRevision = 1)
    (valid : event.eventID.valid = true) (epoch : event.lifecycleEpoch = 1) :
    foldNext command.target none 1 event = .ok (createdWork command.target) := by
  rcases created with ⟨eventType, kind⟩ | ⟨eventType, kind⟩ <;>
    simp [foldNext, aggregate, revision, valid, eventType, epoch, foldCreation, foldedState,
      createdWork, createdState, kind]

def AggregateKind.ofPeople : AggregateKind → Bool
  | .system | .humanParticipant | .humanInteraction => true
  | _ => false

def CommandType.forPeople (commandType : CommandType) : Bool :=
  (commandEntry commandType).any fun definition => definition.targetKinds.any (·.ofPeople)

theorem CommandType.forPeople_passes (people : commandType.forPeople = true) :
    commandLifecycleAction commandType = none ∧ commandType ≠ .workInvocationAuthorize ∧
      ∀ payload state eventID, applyOwnership commandType payload state eventID = .ok state := by
  cases commandType <;> first | exact ⟨rfl, by decide, fun _ _ _ => rfl⟩ | cases people

theorem EventType.entry_of_source (source : eventType.source = some commandType) :
    (commandEntry commandType).map (·.eventTypes) = some [eventType] := by
  cases eventType <;> cases source <;> rfl

theorem EventType.source_conversation (source : eventType.source = some commandType) :
    continuityEventType commandType = (if movesContinuity eventType then some eventType else none) ∧
      interactionEventType commandType =
        if movesInteraction eventType then some eventType else none := by
  cases eventType <;> cases source <;> exact ⟨rfl, rfl⟩

theorem applyContinuityEvent_other (event : DomainEvent) {continuity : TeamContinuitySnapshot}
    (other : movesContinuity event.eventType = false) :
    continuity.applyContinuityEvent event = none := by
  have stays : continuity.transition event = none := by
    unfold TeamContinuitySnapshot.transition
    split <;> simp_all [movesContinuity]
  simp [TeamContinuitySnapshot.applyContinuityEvent, stays]

theorem applyHumanInteractionEvent_other (event : DomainEvent)
    {interaction : HumanInteractionSnapshot} (other : movesInteraction event.eventType = false) :
    interaction.applyHumanInteractionEvent event = none := by
  have stays : interaction.transition event = none := by
    unfold HumanInteractionSnapshot.transition
    split <;> simp_all [movesInteraction]
  simp [HumanInteractionSnapshot.applyHumanInteractionEvent, stays]

theorem evolveState_people {snapshot : Snapshot} {nextState : Option AggregateState}
    {nextRevision : Nat} (people : command.commandType.forPeople = true)
    (creates : commandCreatesAggregate command = true)
    (evolved : evolveState command snapshot eventID = .ok (nextState, nextRevision)) :
    ∃ state, nextState = some state ∧ createOperatorState command eventID = .ok state := by
  have operator : isOperatorHumanContinuityCreation command = true := by
    rw [isOperatorHumanContinuityCreation, creates, Bool.true_and]
    unfold commandCreatesAggregate at creates
    split at creates
    all_goals simp_all [CommandType.forPeople, commandEntry, entry, AggregateKind.ofPeople]
  have other : ¬(command.commandType == .storyCreate || command.commandType == .taskCreate) := by
    simp only [tests_iff]
    rintro (type | type) <;> rw [type] at people <;> cases people
  rw [evolveState, if_neg other, if_pos operator] at evolved
  simp only [chain_ok, Prod.mk.injEq] at evolved
  obtain ⟨state, created, rfl, _⟩ := evolved
  exact ⟨state, rfl, created⟩

section People

variable (source : event.eventType.source = some command.commandType)
  (payload : event.payload = command.payload)

include source payload

theorem foldConversation (aggregate : event.aggregate = command.target)
    (evolved : evolveConversation command state event.aggregateRevision event.eventID = .ok next) :
    (do
      let state ← foldContinuity state event
      foldInteraction state event) = .ok next := by
  obtain ⟨continuity, interaction⟩ := EventType.source_conversation source
  rw [evolveConversation, continuity, interaction, ← payload, ← aggregate] at evolved
  cases moves : movesContinuity event.eventType
  · rw [foldContinuity_idle moves]
    cases converses : movesInteraction event.eventType <;>
      simp only [moves, converses, Bool.false_eq_true, if_false, if_true, Option.orElse] at evolved
    · cases evolved
      exact foldInteraction_idle converses
    · split at evolved
      · simp [applyContinuityEvent_other (.trial ..) moves] at evolved
      · next interaction _ talks =>
        simp only [chain_ok] at evolved
        obtain ⟨after, applied, finished⟩ := evolved
        have applied : interaction.applyHumanInteractionEvent event = some after := applied
        simpa [foldInteraction, talks, converses, applied] using finished
      · next talks => simpa [foldInteraction, talks] using evolved
  · have idle : movesInteraction event.eventType = false := by
      unfold movesContinuity at moves
      split at moves <;> simp_all [movesInteraction]
    simp only [moves, if_true, Option.orElse] at evolved
    split at evolved
    · next _ continuity runs =>
      simp only [chain_ok] at evolved
      obtain ⟨after, applied, finished⟩ := evolved
      have applied : continuity.applyContinuityEvent event = some after := applied
      cases finished
      simp only [foldContinuity, runs, moves, if_true, applied, demand]
      exact foldInteraction_idle idle
    · simp [applyHumanInteractionEvent_other (.trial ..) idle] at evolved
    · next runs _ =>
      cases evolved
      simp only [foldContinuity, runs]
      exact foldInteraction_idle idle

theorem foldProfile_of_evolveProfile
    (evolved : evolveProfile command state event.aggregateRevision event.eventID = .ok next) :
    foldProfile state event = .ok next := by
  have produces := EventType.entry_of_source source
  unfold evolveProfile at evolved
  split at evolved
  case h_5 bound revoked role configured =>
    unfold foldProfile
    split <;> simp_all [EventType.source]
  all_goals
    next type =>
    rw [type] at produces
    have eventType := (List.cons.inj (Option.some.inj produces)).1
    simpa [foldProfile, ← eventType, payload] using evolved

variable (aggregate : event.aggregate = command.target) {revision : Nat}

include aggregate

theorem foldEvent_people (people : command.commandType.forPeople = true)
    (following : event.aggregateRevision = revision + 1)
    (evolved : evolveExisting command state revision event.eventID = .ok next) :
    ∃ folded, foldEvent state event = .ok folded ∧
      next = { folded with revision := revision + 1 } := by
  obtain ⟨idle, _, unowned⟩ := CommandType.forPeople_passes people
  have still : ∀ state, evolveLifecycle command state = .ok state := by
    simp [evolveLifecycle, idle]
  simp only [evolveExisting, still, unowned, chain_ok, Except.ok.injEq, exists_eq_left',
    ← following] at evolved
  obtain ⟨_, _, talked, conversation, last, profile, rfl⟩ := evolved
  have other : command.commandType ≠ .workReopen := fun reopens => by simp [reopens,
    commandLifecycleAction] at idle
  refine ⟨last, ?_, by rw [following]⟩
  have steps : foldEvent state event = (do
      let state ← (do
        let state ← foldContinuity state event
        foldInteraction state event)
      let state ← foldProfile state event
      let state ← (do
        let state ← foldScope state event
        foldLifecycle state event)
      foldOwnership state event) := by simp only [foldEvent, bind_assoc]
  have profiles := foldProfile_of_evolveProfile source payload profile
  have lifecycles := foldLifecycle_of_evolveLifecycle other source (still last)
  have owns := foldOwnership_of_applyOwnership source (unowned event.payload last event.eventID)
  rw [steps, foldConversation source payload aggregate conversation]
  simp only [bind, Except.bind] at lifecycles ⊢
  simp only [profiles, lifecycles, owns]

theorem foldNext_people (created : createOperatorState command event.eventID = .ok next)
    (targets : ((commandEntry command.commandType).any fun definition =>
      definition.targetKinds.contains command.target.kind) = true)
    (first : event.aggregateRevision = 1) (valid : event.eventID.valid = true)
    (epoch : event.lifecycleEpoch = next.lifecycleEpoch) :
    foldNext command.target none 1 event = .ok next := by
  have produces := EventType.entry_of_source source
  unfold createOperatorState at created
  split at created
  case h_5 => cases created
  all_goals
    next type given =>
    rw [type] at produces targets
    have eventType := (List.cons.inj (Option.some.inj produces)).1
    simp only [chain_ok] at created
    simp only [commandEntry, entry, Option.any_some, List.contains_cons, List.contains_nil,
      Bool.or_false, beq_iff_eq] at targets
    first
      | obtain ⟨part, made, rfl⟩ := created
        simp [foldNext, foldCreation, ← eventType, payload, given, made, createdState, foldedState,
          targets, aggregate, first, valid, epoch]
      | obtain ⟨part, made, same, rfl⟩ := created
        simpa [foldNext, foldCreation, ← eventType, payload, given, made, createdState, foldedState,
          targets, aggregate, first, valid, epoch] using same

end People

end Tekroo.Kernel
