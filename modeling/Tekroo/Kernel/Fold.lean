import Tekroo.Kernel.Transition

namespace Tekroo.Kernel

open Checked

/-! # Replaying the events of one aggregate

`FoldAggregate` shares with `evolveState` only the lifecycle and ownership steps.
-/

inductive FoldError where
  | invalidEvent (revision : Nat)
  | invalidCreation (reason : String)
  | illegal (revision : Nat) (reason : String)
  | epochMismatch (revision : Nat)

def foldedState (kind : AggregateKind) (id : UUIDv7) (phase : Phase) : AggregateState where
  kind
  id
  revision := 0
  lifecycleEpoch := 1
  scopeRevision := 1
  phase
  condition := .runnable

variable (state : AggregateState) (event : DomainEvent)

def foldCreation : Except FoldError AggregateState :=
  match event.eventType, event.payload with
  | .storyCreated, _ => .ok (foldedState .story event.aggregate.id .draft)
  | .taskCreated, _ => .ok (foldedState .task event.aggregate.id .planned)
  | .systemOperatorRoleBound, .operatorRole value => do
    let profile ← demand value.role (.invalidCreation "invalid operator role creation")
    return { foldedState .system event.aggregate.id .draft with operatorRole := some profile }
  | .systemContinuityConfigured, .continuityConfigure value => do
    let continuity ← demand (value.continuity event.eventID 1)
      (.invalidCreation "invalid continuity creation")
    return { foldedState .system event.aggregate.id .draft with
      continuity := some continuity }
  | .humanParticipantProfileBound, .participant value => do
    let participant ← demand (value.snapshot 1)
      (.invalidCreation "invalid human participant creation")
    return { foldedState .humanParticipant event.aggregate.id .draft with
      participant := some participant }
  | .humanInteractionOpened, .interactionOpen value => do
    let invalid := FoldError.invalidCreation "invalid human interaction creation"
    let interaction ← demand (value.snapshot 1) invalid
    refuse (interaction.interactionID != event.aggregate.id) invalid
    return { foldedState .humanInteraction event.aggregate.id .draft with
      interaction := some interaction }
  | _, _ => .error (.invalidCreation "missing creation event")

def movesContinuity : EventType → Bool
  | .systemQuiescenceRequested | .systemSuspended | .systemUnexpectedOutageRecorded
  | .systemReconciliationStarted | .systemResumed => true
  | _ => false

def movesInteraction : EventType → Bool
  | .humanInteractionDeliveryRecorded | .humanInteractionResponseRecorded
  | .humanInteractionClosed | .humanInteractionExpired => true
  | _ => false

def foldContinuity : Except String AggregateState :=
  match state.continuity with
  | some continuity =>
    if movesContinuity event.eventType then do
      let next ← demand (continuity.applyContinuityEvent event)
        "illegal continuity transition"
      return { state with continuity := some next }
    else .ok state
  | none => .ok state

def foldInteraction : Except String AggregateState :=
  match state.interaction with
  | some interaction =>
    if movesInteraction event.eventType then do
      let next ← demand (interaction.applyHumanInteractionEvent event)
        "illegal human interaction transition"
      return { state with interaction := some next }
    else .ok state
  | none => .ok state

def foldProfile : Except String AggregateState :=
  match event.eventType with
  | .humanParticipantProfileBound =>
    demand (bindParticipant state event.aggregateRevision event.payload)
      "illegal human participant profile transition"
  | .humanParticipantRevoked =>
    demand (revokeParticipant state event.aggregateRevision)
      "illegal human participant revocation"
  | .systemOperatorRoleBound =>
    demand (replaceOperatorRole state event.payload) "illegal operator role replacement"
  | .systemContinuityConfigured =>
    demand (reconfigureContinuity state event.eventID event.aggregateRevision event.payload)
      "illegal continuity reconfiguration"
  | _ => .ok state

/-- A reopening advances the scope revision; the owner is left as it is. -/
def foldScope : Except String AggregateState :=
  if event.eventType == .workReopened then
    match event.payload with
    | .reopen value => do
      refuse (value.newScopeRevision == 0 ||
        decide (value.newScopeRevision ≤ state.scopeRevision)) "invalid scope revision"
      return { state with scopeRevision := value.newScopeRevision }
    | _ => .error "invalid reopening payload"
  else .ok state

def foldLifecycle : Except String AggregateState :=
  match eventLifecycleAction event.eventType with
  | some action => demand (state.applyLifecycle action) "illegal lifecycle transition"
  | none => .ok state

def eventOwnershipCommand : EventType → Option CommandType
  | .taskOwnershipAcquired => some .taskAcquireOwnership
  | .taskOwnershipReleased => some .taskReleaseOwnership
  | .taskHandedOff => some .taskHandoff
  | .taskForceReassigned => some .taskForceReassign
  | _ => none

def foldOwnership : Except String AggregateState :=
  match eventOwnershipCommand event.eventType with
  | none => .ok state
  | some commandType =>
    match applyOwnership commandType event.payload state event.eventID with
    | .ok next => .ok next
    | .error _ => .error "illegal ownership transition"

def foldEvent : Except String AggregateState := do
  let state ← foldContinuity state event
  let state ← foldInteraction state event
  let state ← foldProfile state event
  let state ← foldScope state event
  let state ← foldLifecycle state event
  foldOwnership state event

variable (aggregate : AggregateRef) (state : Option AggregateState) (revision : Nat)

/-- One iteration of `FoldAggregate`: the first event creates the state, each later one
moves it. -/
def foldNext (event : DomainEvent) : Except FoldError AggregateState := do
  refuse (event.aggregate != aggregate || event.aggregateRevision != revision ||
    !event.eventID.valid || event.eventType == .other "") (.invalidEvent revision)
  let next ← match state with
    | none => foldCreation event
    | some state =>
      match foldEvent state event with
      | .ok next => .ok next
      | .error reason => .error (.illegal revision reason)
  refuse (event.lifecycleEpoch != next.lifecycleEpoch) (.epochMismatch revision)
  return { next with revision }

def foldFrom (aggregate : AggregateRef) :
    Option AggregateState → Nat → List DomainEvent → Except FoldError (Option AggregateState)
  | state, _, [] => .ok state
  | state, revision, event :: rest => do
    let next ← foldNext aggregate state revision event
    foldFrom aggregate (some next) (revision + 1) rest

def foldAggregate : List DomainEvent → Except FoldError (Option AggregateState)
  | [] => .ok none
  | event :: rest => foldFrom event.aggregate none 1 (event :: rest)

theorem foldFrom_append (events : List DomainEvent) (event : DomainEvent) :
    foldFrom aggregate state revision (events ++ [event]) = do
      let middle ← foldFrom aggregate state revision events
      let next ← foldNext aggregate middle (revision + events.length) event
      return some next := by
  induction events generalizing state revision with
  | nil => cases result : foldNext aggregate state revision event <;>
      simp [foldFrom, bind, Except.bind, pure, Except.pure, result]
  | cons head rest induction =>
    simp only [List.cons_append, foldFrom, bind_assoc, List.length_cons]
    refine bind_congr fun next => ?_
    rw [induction, Nat.add_right_comm, Nat.add_assoc]

theorem foldAggregate_append {events : List DomainEvent} {event : DomainEvent}
    {state next : AggregateState} {aggregate : AggregateRef}
    (folded : foldAggregate events = .ok (some state))
    (same : ∀ event ∈ events, event.aggregate = aggregate)
    (step : foldNext aggregate (some state) (events.length + 1) event = .ok next) :
    foldAggregate (events ++ [event]) = .ok (some next) := by
  cases events with
  | nil => simp [foldAggregate] at folded
  | cons first rest =>
    have head : first.aggregate = aggregate := same first (by simp)
    simp only [foldAggregate, List.cons_append, head] at folded ⊢
    rw [← List.cons_append, foldFrom_append, folded]
    simp only [List.length_cons, Nat.add_comm] at step ⊢
    simp [step, bind, Except.bind, pure, Except.pure]

inductive ResolveError where
  | unknownEvent | unsupportedVersion | other

inductive ReplayStatus where
  | applied | quarantined

structure ReplayResult where
  status : ReplayStatus
  lastRevision : Nat := 0
  state : Option AggregateState := none
  quarantinedEvent : Option DomainEvent := none
  reason : String := ""

section Replay

-- The catalogue is an interface; of `ResolveEvent` only the error is used.
variable (resolveEvent : EventType → String → AggregateKind → Payload → Option ResolveError)
  (events : List DomainEvent)

def DomainEvent.unresolved (event : DomainEvent) : Option ResolveError :=
  resolveEvent event.eventType event.eventVersion event.aggregate.kind event.payload

/-- The events before the first that the catalogue does not resolve. -/
def resolvedEvents : List DomainEvent :=
  events.takeWhile fun event => (event.unresolved resolveEvent).isNone

def replayAuthoritative : ReplayResult :=
  let before := resolvedEvents resolveEvent events
  match events[before.length]? with
  | some event => {
      status := .quarantined
      lastRevision := before.length
      state := if before.length > 0 then (foldAggregate before).toOption.join else none
      quarantinedEvent := some event
      reason := match event.unresolved resolveEvent with
        | some .unknownEvent => "UNKNOWN_EVENT_TYPE"
        | some .unsupportedVersion => "UNSUPPORTED_EVENT_VERSION"
        | _ => "INVALID_EVENT" }
  | none =>
    match foldAggregate events with
    | .error _ => { status := .quarantined, reason := "CORRUPT_EVENT_STREAM" }
    | .ok state => { status := .applied, lastRevision := events.length, state }

/-- The state and the revision belong to the same events, none of them after the first that is
not resolved. -/
def ReplayResult.Consistent (result : ReplayResult) : Prop :=
  (result.state = none ↔ result.lastRevision = 0) ∧
    (∀ state, result.state = some state → state.revision = result.lastRevision ∧
      foldAggregate (events.take result.lastRevision) = .ok (some state)) ∧
    result.lastRevision ≤ (resolvedEvents resolveEvent events).length

variable {resolveEvent} {events} {state : Option AggregateState}

theorem foldNext_revision {aggregate : AggregateRef} {next : AggregateState} {revision : Nat}
    {event : DomainEvent} (moved : foldNext aggregate state revision event = .ok next) :
    next.revision = revision := by
  simp only [foldNext, bind_ok] at moved
  obtain ⟨_, _, moved⟩ := moved
  repeat' split at moved
  all_goals
    simp only [chain_ok] at moved
    obtain ⟨_, _, _, _, rfl⟩ := moved
    rfl

theorem foldAggregate_revision (folded : foldAggregate events = .ok state) :
    state.map (·.revision) = if events = [] then none else some events.length := by
  obtain ⟨aggregate, same⟩ : ∃ aggregate, foldAggregate events = foldFrom aggregate none 1 events :=
    match events with
    | [] => ⟨⟨.task, .number 0⟩, rfl⟩
    | event :: _ => ⟨event.aggregate, rfl⟩
  rw [same] at folded
  rcases List.eq_nil_or_concat' events with rfl | ⟨before, last, rfl⟩
  · cases folded
    rfl
  · simp only [foldFrom_append, chain_ok] at folded
    obtain ⟨_, _, next, moved, rfl⟩ := folded
    simp [foldNext_revision moved, Nat.add_comm]

theorem ReplayResult.Consistent.of_folded {result : ReplayResult} {accepted : List DomainEvent}
    (folded : foldAggregate accepted = .ok result.state)
    (revision : result.lastRevision = accepted.length) (part : accepted <+: events)
    (resolved : accepted.length ≤ (resolvedEvents resolveEvent events).length) :
    result.Consistent resolveEvent events := by
  have numbered := foldAggregate_revision folded
  rw [Consistent, revision, ← List.prefix_iff_eq_take.mp part]
  refine ⟨?_, fun state here => ?_, resolved⟩
  · rw [← Option.map_eq_none_iff, numbered]
    simp
  · rw [here] at numbered folded
    refine ⟨?_, folded⟩
    split at numbered
    · cases numbered
    · exact Option.some.inj numbered

variable (resolveEvent events) in
/-- Replay is consistent exactly when the events it takes for accepted can be folded: before an
event that is not resolved it drops the error of the fold and keeps their number. -/
theorem replay_consistent_iff :
    (replayAuthoritative resolveEvent events).Consistent resolveEvent events ↔
      (resolvedEvents resolveEvent events ≠ events →
        ∃ state, foldAggregate (resolvedEvents resolveEvent events) = .ok state) := by
  have part : resolvedEvents resolveEvent events <+: events := List.takeWhile_prefix _
  unfold replayAuthoritative
  dsimp only
  split
  · next event found =>
    have shorter : resolvedEvents resolveEvent events ≠ events := by
      intro same
      simp [same] at found
    cases folded : foldAggregate (resolvedEvents resolveEvent events) with
    | error =>
      refine ⟨fun consistent _ => ?_, fun folds => absurd (folds shorter) (by simp)⟩
      have empty := consistent.1.mp (by simp [Except.toOption])
      rw [List.length_eq_zero_iff.mp empty] at folded
      cases folded
    | ok state =>
      refine ⟨fun _ _ => ⟨state, rfl⟩, fun _ => .of_folded ?_ rfl part le_rfl⟩
      by_cases none_ : resolvedEvents resolveEvent events = []
      · rw [none_] at folded ⊢
        cases folded
        rfl
      · simp [List.length_pos_iff.mpr none_, folded, Except.toOption]
  · next ended =>
    have all : resolvedEvents resolveEvent events = events :=
      part.eq_of_length_le (List.getElem?_eq_none_iff.mp ended)
    refine ⟨fun _ other => absurd all other, fun _ => ?_⟩
    cases folded : foldAggregate events with
    | error => simp [ReplayResult.Consistent]
    | ok state =>
      exact .of_folded folded rfl List.prefix_rfl (by rw [all])

end Replay

namespace Sample

def createdTwice : DomainEvent :=
  .trial .taskCreated (.number 1) ⟨.task, .number 0⟩ 2 default (.evidenceRegister default)

def resolveCreations (eventType : EventType) (_ : String) (_ : AggregateKind) (_ : Payload) :
    Option ResolveError :=
  if eventType = .taskCreated then none else some .unknownEvent

/-- A stream that starts at revision two and goes on with an unknown event. -/
theorem replay_without_state :
    ∃ result, replayAuthoritative resolveCreations
        [createdTwice, { createdTwice with eventType := .other "later" }] = result ∧
      result.lastRevision = 1 ∧ result.state = none :=
  ⟨_, rfl, by decide, by decide⟩

end Sample

end Tekroo.Kernel
