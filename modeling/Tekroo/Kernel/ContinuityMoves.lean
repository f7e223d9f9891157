import Tekroo.Kernel.WorkItem

namespace Tekroo.Kernel

open Checked DomainEvent

/-! # How commands move the continuity of a team

Two paths write the continuity of a system: `ApplyContinuityEvent` and the configuration, which
builds a new snapshot.
-/

def CommandType.forContinuity (commandType : CommandType) : Bool :=
  commandType == .systemConfigureContinuity || (continuityEventType commandType).isSome

/-- What a command that leads its target to `revision` does with the target's continuity. -/
inductive ContinuityMove (command : KernelCommand) (eventID : UUIDv7) (revision : Nat) :
    Option TeamContinuitySnapshot → Option TeamContinuitySnapshot → Prop
  | kept {before : Option TeamContinuitySnapshot}
      (other : before.isSome → command.commandType.forContinuity = false) :
      ContinuityMove command eventID revision before before
  | configured {before : Option TeamContinuitySnapshot} {value : ConfigureContinuityPayload}
      {next : TeamContinuitySnapshot} (type : command.commandType = .systemConfigureContinuity)
      (payload : command.payload = .continuityConfigure value)
      (made : value.continuity eventID revision = some next)
      (active : ∀ current, before = some current → current.controlState = .active) :
      ContinuityMove command eventID revision before (some next)
  | transitioned {before next : TeamContinuitySnapshot} {eventType : EventType}
      (type : continuityEventType command.commandType = some eventType)
      (applied : before.applyContinuityEvent
        (.trial eventType eventID command.target revision 0 command.payload) = some next) :
      ContinuityMove command eventID revision (some before) (some next)

section Transitions

variable {snapshot next : TeamContinuitySnapshot} {event : DomainEvent} {id : UUIDv7}

theorem TeamContinuitySnapshot.applyContinuityEvent_ok
    (applied : snapshot.applyContinuityEvent event = some next) :
    snapshot.valid = true ∧ event.aggregateRevision = snapshot.revision + 1 ∧
      next.valid = true ∧ ∃ moved, snapshot.transition event = some moved ∧
        next = { moved with
          revision := moved.revision + 1
          lastTransitionEventID := event.eventID } := by
  unfold applyContinuityEvent at applied
  split at applied
  · cases applied
  · next checked =>
    simp only [tests_iff, not_or, not_not, Bool.not_eq_false] at checked
    cases moves : snapshot.transition event with
    | none => simp [moves] at applied
    | some moved =>
      simp only [moves, tests_iff] at applied
      obtain ⟨valid, rfl⟩ := applied
      exact ⟨checked.1.1, checked.2, valid, moved, rfl, rfl⟩

/-- What a transition does to the epoch and to the unresolved executions.  The revision is left to
`ApplyContinuityEvent`. -/
theorem TeamContinuitySnapshot.transition_ok (moves : snapshot.transition event = some next) :
    next.revision = snapshot.revision ∧
      (0 < next.powerEpoch → snapshot.powerEpoch ≤ next.powerEpoch) ∧
      (snapshot.controlState = .active ∧ next.unresolvedExecutionIDs = [] ∨
        next.controlState ≠ .quiescing ∧
          (snapshot.controlState = .quiescing ∨
            next.unresolvedExecutionIDs = snapshot.unresolvedExecutionIDs ∨
            (∃ value, event.payload = .unexpectedOutage value ∧
              next.unresolvedExecutionIDs = canonicalUUIDs value.knownInFlightExecutionIDs) ∨
            ∃ value, event.eventType = .systemResumed ∧ event.payload = .resume value ∧
              sameUUIDSet (value.reconciliationRecords.map (·.executionID))
                snapshot.unresolvedExecutionIDs = true)) := by
  unfold transition at moves
  split at moves
  · next value _ _ =>
    simp only [requestQuiescence, tests_iff] at moves
    obtain ⟨checked, rfl⟩ := moves
    have epoch : value.nextPowerEpoch = snapshot.powerEpoch + 1 := by simp [checked]
    exact ⟨rfl, fun _ => by grind, .inl ⟨by simp [checked], rfl⟩⟩
  · simp only [recordSuspended, tests_iff] at moves
    obtain ⟨checked, rfl⟩ := moves
    exact ⟨rfl, fun _ => UInt64.le_refl _, .inr ⟨nofun, .inl (by simp [checked])⟩⟩
  · simp only [beginReconciliation, tests_iff] at moves
    obtain ⟨_, rfl⟩ := moves
    exact ⟨rfl, fun _ => UInt64.le_refl _, .inr ⟨nofun, .inr (.inl rfl)⟩⟩
  · next value _ payload =>
    simp only [recordUnexpectedOutage, tests_iff] at moves
    obtain ⟨checked, rfl⟩ := moves
    have epoch : value.nextPowerEpoch = snapshot.powerEpoch + 1 := by simp [checked]
    exact ⟨rfl, fun _ => by grind, .inr ⟨nofun, .inr (.inr (.inl ⟨_, payload, rfl⟩))⟩⟩
  · next eventType payload =>
    simp only [resume, tests_iff] at moves
    obtain ⟨checked, rfl⟩ := moves
    exact ⟨rfl, fun _ => UInt64.le_refl _,
      .inr ⟨nofun, .inr (.inr (.inr ⟨_, eventType, payload, checked.2⟩))⟩⟩
  · cases moves

theorem mem_canonicalUUIDs {values : List UUIDv7} :
    id ∈ canonicalUUIDs values ↔ id ∈ values :=
  (List.perm_insertionSort _ values).mem_iff

theorem mem_of_sameUUIDSet {left right : List UUIDv7} (same : sameUUIDSet left right = true)
    (member : id ∈ right) : id ∈ left := by
  simp only [sameUUIDSet, beq_iff_eq] at same
  rw [← mem_canonicalUUIDs, same]
  exact mem_canonicalUUIDs.mpr member

structure TeamContinuitySnapshot.Settled (snapshot : TeamContinuitySnapshot) : Prop where
  valid : snapshot.valid = true
  quiescing : snapshot.controlState = .quiescing → snapshot.unresolvedExecutionIDs = []

theorem TeamContinuitySnapshot.valid_active (valid : snapshot.valid = true)
    (active : snapshot.controlState = .active) : snapshot.unresolvedExecutionIDs = [] := by
  simp only [TeamContinuitySnapshot.valid, active, tests_iff, List.isEmpty_iff] at valid
  exact valid.2.2

theorem TeamContinuitySnapshot.valid_closed (valid : snapshot.valid = true)
    (stopped : snapshot.controlState ≠ .active) : snapshot.admissionOpen = false := by
  simp only [TeamContinuitySnapshot.valid, tests_iff] at valid
  have control := valid.2
  split at control <;> simp_all

theorem TeamContinuitySnapshot.transition_quiescing
    (moves : snapshot.transition event = some next) (quiescing : next.controlState = .quiescing) :
    next.unresolvedExecutionIDs = [] := by
  obtain ⟨_, empty⟩ | ⟨other, _⟩ := (transition_ok moves).2.2
  · exact empty
  · exact absurd quiescing other

/-- An unresolved execution stays unresolved unless a resumption records it, as long as an
outage names it again. -/
theorem TeamContinuitySnapshot.transition_unresolved (settled : snapshot.Settled)
    (moves : snapshot.transition event = some next)
    (named : ∀ value, event.payload = .unexpectedOutage value → id ∈
      value.knownInFlightExecutionIDs) (unresolved : id ∈ snapshot.unresolvedExecutionIDs) :
    id ∈ next.unresolvedExecutionIDs ∨
      ∃ value, event.eventType = .systemResumed ∧ event.payload = .resume value ∧
        id ∈ value.reconciliationRecords.map (·.executionID) := by
  obtain ⟨active, _⟩ | ⟨_, quiescing | kept | ⟨value, payload, known⟩ |
    ⟨value, eventType, payload, records⟩⟩ := (transition_ok moves).2.2
  · simp [valid_active settled.valid active] at unresolved
  · simp [settled.quiescing quiescing] at unresolved
  · exact .inl (kept ▸ unresolved)
  · exact .inl (known ▸ mem_canonicalUUIDs.mpr (named value payload))
  · exact .inr ⟨value, eventType, payload, mem_of_sameUUIDSet records unresolved⟩

theorem ConfigureContinuityPayload.continuity_ok {value : ConfigureContinuityPayload}
    {eventID : UUIDv7} {revision : Nat} (made : value.continuity eventID revision = some next) :
    next.valid = true ∧ next.revision = revision ∧ next.powerEpoch = value.initialPowerEpoch ∧
      next.controlState = .active ∧ next.unresolvedExecutionIDs = [] := by
  simp only [continuity, tests_iff] at made
  obtain ⟨⟨_, valid⟩, rfl⟩ := made
  exact ⟨valid, rfl, rfl, rfl, rfl⟩

def ContinuityControlState.allows : ContinuityControlState → EventType → Bool
  | .active, .systemQuiescenceRequested | .quiescing, .systemSuspended
  | .suspended, .systemReconciliationStarted | .reconciling, .systemResumed => true
  | .other _, _ => false
  | _, .systemUnexpectedOutageRecorded => true
  | _, _ => false

namespace TeamContinuitySnapshot

variable {reference : AggregateRef} {revision : Nat} {ids : List UUIDv7} {least most : Nat}
  {eventType : EventType}

private def cancelled (id : UUIDv7) : SuspensionExecutionRecord :=
  ⟨id, ⟨"t::r-1"⟩, 1, .number 0, .cancelOnSuspend, .cancelled, none, [.number 1]⟩

private def superseded (id : UUIDv7) : ExecutionReconciliationRecord :=
  ⟨id, .superseded, .number 0, [.number 1]⟩

private theorem cancelled_valid (valid : validUniqueUUIDs ids least most = true) :
    (ids.map cancelled).all SuspensionExecutionRecord.valid = true ∧
      (ids.map cancelled).map (·.executionID) = ids := by
  have actor : (⟨"t::r-1"⟩ : ActorFQN).valid = true := by decide
  have evidence : validUniqueUUIDs [.number 1] 1 64 = true := by decide
  simp only [validUniqueUUIDs, tests_iff] at valid
  refine ⟨?_, by simp [List.map_map, Function.comp_def, cancelled]⟩
  simpa [SuspensionExecutionRecord.valid, cancelled, actor, evidence, Digest.valid]
    using valid.1.2

end TeamContinuitySnapshot

end Transitions

section Evolution

variable {command : KernelCommand} {state next : AggregateState} {revision : Nat}
  {eventID : UUIDv7}

theorem TeamContinuitySnapshot.applyContinuityEvent_interaction
    {snapshot : TeamContinuitySnapshot} {commandType : CommandType} {eventType : EventType}
    {aggregate : AggregateRef} {payload : Payload}
    (type : interactionEventType commandType = some eventType) :
    snapshot.applyContinuityEvent (.trial eventType eventID aggregate revision 0 payload) =
      none := by
  cases applied : snapshot.applyContinuityEvent
    (.trial eventType eventID aggregate revision 0 payload) with
  | none => rfl
  | some next =>
    obtain ⟨_, _, _, moved, moves, _⟩ := applyContinuityEvent_ok applied
    cases commandType <;> simp [interactionEventType] at type <;> subst type <;>
      simp [transition, trial] at moves

theorem evolveConversation_unconfigured
    (evolved : evolveConversation command state revision eventID = .ok next)
    (found : state.continuity = none) : next.continuity = none := by
  unfold evolveConversation at evolved
  split at evolved
  · cases evolved
    exact found
  · simp only [found] at evolved
    split at evolved
    · contradiction
    · simp only [chain_ok] at evolved
      obtain ⟨_, _, rfl⟩ := evolved
      rfl
    · cases evolved
      exact found

theorem evolveConversation_continuity
    (evolved : evolveConversation command state revision eventID = .ok next) :
    (next.continuity = state.continuity ∧
        (state.continuity.isSome → continuityEventType command.commandType = none)) ∨
      ∃ eventType before after, continuityEventType command.commandType = some eventType ∧
        state.continuity = some before ∧ next.continuity = some after ∧
        before.applyContinuityEvent
          (.trial eventType eventID command.target revision 0 command.payload) = some after := by
  cases found : state.continuity with
  | none => exact .inl ⟨evolveConversation_unconfigured evolved found, by simp⟩
  | some before =>
    unfold evolveConversation at evolved
    cases type : continuityEventType command.commandType with
    | some eventType =>
      simp only [type, found, Option.orElse_some, chain_ok] at evolved
      obtain ⟨after, applied, rfl⟩ := evolved
      exact .inr ⟨eventType, before, after, rfl, rfl, rfl, applied⟩
    | none =>
      refine .inl ⟨?_, fun _ => rfl⟩
      simp only [type, Option.orElse_none] at evolved
      cases conversing : interactionEventType command.commandType with
      | none =>
        simp only [conversing, Except.ok.injEq] at evolved
        rw [← evolved, found]
      | some eventType =>
        simp [conversing, found,
          TeamContinuitySnapshot.applyContinuityEvent_interaction conversing] at evolved

theorem evolveExisting_continuity
    (evolved : evolveExisting command state revision eventID = .ok next) :
    ContinuityMove command eventID (revision + 1) state.continuity next.continuity := by
  simp only [evolveExisting, chain_ok] at evolved
  obtain ⟨_, _, moved, lifecycle, owned, ownership, talked, conversation, last, profile, rfl⟩ :=
    evolved
  have before : owned.continuity = state.continuity := by
    have same : owned.continuity = moved.continuity := by rw [applyOwnership_ok ownership]
    exact same.trans (evolveLifecycle_holds (·.continuity = state.continuity)
      (fun _ _ _ kept => kept) (fun _ _ kept => (AggregateState.reopened_continuity _).trans kept)
      lifecycle rfl)
  obtain ⟨kept, quiet⟩ | ⟨eventType, old, after, type, found, written, applied⟩ :=
    evolveConversation_continuity conversation
  · rw [before] at kept quiet
    obtain ⟨other, _, _, rfl⟩ | ⟨value, after, type, payload, made, active, rfl⟩ :=
      evolveProfile_ok profile
    · simp only [kept]
      refine .kept fun present => ?_
      simp [CommandType.forContinuity, quiet present, other]
    · exact .configured type payload made fun current found => active current (kept.trans found)
  · obtain ⟨_, _, _, rfl⟩ | ⟨_, _, configure, _⟩ := evolveProfile_ok profile
    · simp only [written, ← before, found]
      exact .transitioned type applied
    · simp [configure, continuityEventType] at type

/-- `evolveState` moves the continuity of its target in one of the three ways. -/
theorem evolveState_continuity {snapshot : Snapshot} {nextState : Option AggregateState}
    {nextRevision : Nat}
    (evolved : evolveState command snapshot eventID = .ok (nextState, nextRevision))
    (absent : commandCreatesAggregate command = true → snapshot.state = none) :
    ContinuityMove command eventID nextRevision (snapshot.state.bind (·.continuity))
      ((nextState.or snapshot.state).bind (·.continuity)) := by
  obtain ⟨creates, rfl, state, rfl, made⟩ |
    ⟨rfl, ⟨found, rfl, _⟩ | ⟨state, next, found, rfl, moved⟩⟩ := evolveState_cases evolved
  · rw [absent creates]
    rcases made with rfl | created
    · exact .kept (by simp)
    · obtain ⟨_, _, none | ⟨value, after, type, payload, made, written⟩⟩ :=
        createOperatorState_ok created
      · simp only [Option.some_or, Option.bind_some, none]
        exact .kept (by simp)
      · simp only [Option.some_or, Option.bind_some, written]
        exact .configured type payload made (by simp)
  · rw [found]
    exact .kept (by simp)
  · rw [found]
    exact evolveExisting_continuity moved

end Evolution

end Tekroo.Kernel
