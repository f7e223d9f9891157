import Tekroo.Kernel.ContinuityMoves
import Tekroo.Store.Script
import Tekroo.Store.WorkHistory

namespace Tekroo.Kernel

open Lib Checked TeamContinuitySnapshot

/-! # Team continuity over whole runs -/

def Store.continuity (store : Store) (reference : AggregateRef) : Option TeamContinuitySnapshot :=
  (store.states.lookup reference).bind (·.continuity)

def Store.Continuities (Holds : TeamContinuitySnapshot → Prop) (store : Store) : Prop :=
  ∀ reference continuity, store.continuity reference = some continuity → Holds continuity

theorem Store.SameWork.continuity {before after : Store} (same : before.SameWork after)
    (reference : AggregateRef) : after.continuity reference = before.continuity reference := by
  rw [Store.continuity, same.states, Store.continuity]

namespace AppliedCommand

variable {evaluator : Evaluator} {copy current : Store}
  (applied : AppliedCommand evaluator copy current)

theorem after_continuity {reference : AggregateRef} (other : reference ≠ applied.target) :
    applied.after.continuity reference = current.continuity reference := by
  rw [Store.continuity, applied.after_states, if_neg other, Store.continuity]

theorem continuityMove (grown : copy.Extends current) (held : current.StatesCurrent) :
    ContinuityMove applied.command applied.event.eventID applied.event.aggregateRevision
      (current.continuity applied.target) (applied.after.continuity applied.target) := by
  have loaded := applied.snapshot_state grown held
  have absent : commandCreatesAggregate applied.command = true →
      applied.snapshot.state = none := by
    intro creates
    have present : (current.revisions.lookup applied.target).isSome = false := by
      rw [applied.target_present, creates]
      rfl
    rw [loaded]
    cases found : current.states.lookup applied.target with
    | none => rfl
    | some state => simp [held _ _ found] at present
  have move := evolveState_continuity applied.admitted.evolved absent
  rw [show (copy.loadDecision applied.command).state = _ from loaded] at move
  rwa [Store.continuity, Store.continuity, applied.after_states, if_pos rfl]

theorem continuity_eventType {eventType : EventType}
    (type : continuityEventType applied.command.commandType = some eventType) :
    applied.event.eventType = eventType := by
  cases named : applied.command.commandType <;>
    simp only [named, continuityEventType, Option.some.injEq, reduceCtorEq] at type
  all_goals subst type; exact applied.eventType_of named rfl

theorem continuity_payload (moving : applied.command.commandType.forContinuity = true) :
    applied.event.payload = applied.command.payload := by
  refine applied.event_payload fun type => ?_
  simp [CommandType.forContinuity, type, continuityEventType] at moving

end AppliedCommand

section Runs

variable {evaluator : Evaluator} {allowed : Store → Store → StoreInput → Prop}
  {shared : Shared Store} {copy : Store}

/-- A property of continuity snapshots that the configuration establishes and that every
transition keeps. -/
theorem Evaluator.Reaches.continuity_holds {Holds : TeamContinuitySnapshot → Prop}
    (configured : ∀ {value : ConfigureContinuityPayload} {eventID revision next},
      value.continuity eventID revision = some next → Holds next)
    (transitioned : ∀ {before next : TeamContinuitySnapshot} {event},
      before.applyContinuityEvent event = some next → Holds before → Holds next)
    (reached : evaluator.Reaches allowed shared) : shared.current.Continuities Holds := by
  refine reached.holds (fun policy faultPoint reference continuity found => ?_)
    (fun same held reference continuity found => ?_) ?_
  · simp [Store.continuity, Store.new] at found
  · rw [same.continuity] at found
    exact held reference continuity found
  · intro shared copy applied reached taken _ _ held reference continuity found
    by_cases target : reference = applied.target
    · subst target
      have move := applied.continuityMove (reached.growth taken) reached.statesCurrent
      generalize before : shared.current.continuity applied.target = prior at move
      rw [found] at move
      cases move with
      | kept _ => exact held _ _ before
      | configured _ _ made _ => exact configured made
      | transitioned _ moved => exact transitioned moved (held _ _ before)
    · rw [applied.after_continuity target] at found
      exact held _ _ found

theorem Evaluator.Reaches.continuity_settled (reached : evaluator.Reaches allowed shared) :
    shared.current.Continuities Settled := by
  refine reached.continuity_holds (fun made => ?_) (fun applied held => ?_)
  · obtain ⟨valid, _, _, active, _⟩ := ConfigureContinuityPayload.continuity_ok made
    exact ⟨valid, fun quiescing => by simp [active] at quiescing⟩
  · obtain ⟨_, _, valid, moved, moves, rfl⟩ :=
      applyContinuityEvent_ok applied
    have empty : moved.controlState = .quiescing → moved.unresolvedExecutionIDs = [] :=
      transition_quiescing moves
    exact ⟨valid, empty⟩

end Runs

namespace Sample

def system : AggregateRef := ⟨.system, .number 50⟩

def systemScope : AuthorityScope :=
  { scope with
    commandTypes := [.evidenceRegister, .systemConfigureContinuity, .systemRequestQuiescence,
      .systemRecordSuspended, .systemRecordUnexpectedOutage, .systemResume, .recordCorrect]
    targetKinds := [.evidence, .system] }

def systemPolicy : AuthorizationPolicy :=
  { policy with grants := [{ grant 1 .policy with scope := systemScope }] }

def configure (value expected : Nat) (epoch : UInt64) : KernelCommand :=
  { command value .policy .systemConfigureContinuity system
      (if expected = 0 then create else revision expected)
      (.continuityConfigure ⟨expected, epoch, .continuous, 1, .number 0, .number 0,
          principal .policy, [.number 1]⟩) with
    causation := if expected = 0 then [] else [⟨.number 1, .causal⟩]
    evidenceRefs := [evidence] }

def configured : Shared Store :=
  evaluator.script ⟨.new systemPolicy .none, []⟩ [entry registerEvidence, entry (configure 2 0 5)]

theorem configured_reaches {allowed : Store → Store → StoreInput → Prop}
    (fresh : ∀ copy current command context, current.continuity command.target = none →
      allowed copy current (.decide command context)) :
    evaluator.Reaches allowed configured :=
  ((Evaluator.Reaches.start systemPolicy .none).perform
    (fresh _ _ _ _ (by decide))).perform (fresh _ _ _ _ (by decide))

theorem configured_reachable : evaluator.Reachable configured :=
  configured_reaches fun _ _ _ _ _ => trivial

end Sample

/-- A reconfiguration names no power epoch below the one it finds. -/
def ReconfiguresForward (_copy current : Store) : StoreInput → Prop
  | .decide command _ => ∀ value continuity,
      command.payload = .continuityConfigure value →
      current.continuity command.target = some continuity →
      continuity.powerEpoch ≤ value.initialPowerEpoch
  | _ => True

/-- The refusals that `EvaluateContinuityAdmission` gives for the power epoch. -/
def PolicyResult.stale (result : PolicyResult) : Bool :=
  result.reason == "STALE_POWER_EPOCH" || result.reason == "LATE_RESULT_QUARANTINED"

variable {action : ContinuityAction} {powerEpoch : UInt64} {snapshot : TeamContinuitySnapshot}
  {copy current : Store} {shared : Shared Store}

theorem evaluateContinuityAdmission_stale :
    (evaluateContinuityAdmission snapshot action powerEpoch).stale = true ↔
      powerEpoch ≠ snapshot.powerEpoch := by
  unfold evaluateContinuityAdmission
  split
  · next other =>
    simp only [bne_iff_ne] at other
    split <;> simp [PolicyResult.stale, other]
  · next same =>
    simp only [bne_iff_ne, not_not] at same
    split <;> simp [PolicyResult.stale, same]

theorem evaluateContinuityAdmission_refused (other : powerEpoch ≠ snapshot.powerEpoch) :
    (evaluateContinuityAdmission snapshot action powerEpoch).accepted = false := by
  simp only [evaluateContinuityAdmission, bne_iff_ne, ne_eq, other, not_false_eq_true, if_true]
  split <;> rfl

def Store.EpochsGrow (before after : Store) : Prop :=
  ∀ reference continuity, before.continuity reference = some continuity →
    ∃ later, after.continuity reference = some later ∧
      continuity.powerEpoch ≤ later.powerEpoch

theorem AppliedCommand.epochsGrow {evaluator : Evaluator}
    (applied : AppliedCommand evaluator copy current) (grown : copy.Extends current)
    (held : current.StatesCurrent)
    (forward : ReconfiguresForward copy current (.decide applied.command applied.context)) :
    current.EpochsGrow applied.after := by
  intro reference continuity found
  by_cases target : reference = applied.target
  · subst target
    have move := applied.continuityMove grown held
    rw [found] at move
    generalize after : applied.after.continuity applied.target = later at move
    cases move with
    | kept _ => exact ⟨_, rfl, UInt64.le_refl _⟩
    | configured _ payload made _ =>
      obtain ⟨_, _, epoch, _⟩ := ConfigureContinuityPayload.continuity_ok made
      exact ⟨_, rfl, epoch ▸ forward _ _ payload found⟩
    | transitioned _ moved =>
      obtain ⟨_, _, valid, between, moves, rfl⟩ := applyContinuityEvent_ok moved
      simp only [TeamContinuitySnapshot.valid, tests_iff] at valid
      exact ⟨_, rfl, (transition_ok moves).2.1 (by simp [valid])⟩
  · exact ⟨continuity, (applied.after_continuity target).trans found, UInt64.le_refl _⟩

theorem Evaluator.Reaches.epochsGrow {evaluator : Evaluator}
    (reached : evaluator.Reaches ReconfiguresForward shared) (taken : copy ∈ shared.copies) :
    copy.EpochsGrow shared.current := by
  refine reached.grows (fun _ _ continuity found => ⟨continuity, found, UInt64.le_refl _⟩) ?_ ?_
    (fun applied reached taken forward =>
      applied.epochsGrow (reached.growth taken) reached.statesCurrent forward) taken
  · intro before between after left right reference continuity found
    obtain ⟨middle, foundMiddle, first⟩ := left reference continuity found
    obtain ⟨later, foundLater, second⟩ := right reference middle foundMiddle
    exact ⟨later, foundLater, UInt64.le_trans first second⟩
  · intro before after same reference continuity found
    exact ⟨continuity, (same.continuity reference).trans found, UInt64.le_refl _⟩

/-- In every run whose reconfigurations name no lower power epoch, the power epoch of a team
never decreases, and an epoch that the team has reached and refuses as stale is refused from
then on. -/
theorem power_epoch_monotone {evaluator : Evaluator} {shared : Shared Store} {copy : Store}
    {reference : AggregateRef} {before : TeamContinuitySnapshot}
    (reached : evaluator.Reaches ReconfiguresForward shared) (taken : copy ∈ shared.copies)
    (found : copy.continuity reference = some before) :
    ∃ after, shared.current.continuity reference = some after ∧
      before.powerEpoch ≤ after.powerEpoch ∧
      ∀ action powerEpoch, powerEpoch ≤ before.powerEpoch →
        (evaluateContinuityAdmission before action powerEpoch).stale = true →
        (evaluateContinuityAdmission after action powerEpoch).stale = true ∧
          (evaluateContinuityAdmission after action powerEpoch).accepted = false := by
  obtain ⟨after, foundAfter, grown⟩ := reached.epochsGrow taken reference before found
  refine ⟨after, foundAfter, grown, fun action powerEpoch issued stale => ?_⟩
  have other : powerEpoch ≠ after.powerEpoch := by
    have := evaluateContinuityAdmission_stale.mp stale
    grind
  exact ⟨evaluateContinuityAdmission_stale.mpr other, evaluateContinuityAdmission_refused other⟩

namespace Sample

def reconfigured (epoch : UInt64) : Shared Store :=
  evaluator.script configured.copy [entry (configure 3 1 epoch)]

/-- A reconfiguration takes the team from epoch 5 back to epoch 1, and a dispatch of epoch 1
is admitted again.  A dispatch of epoch 6 is refused as stale before the team gets there. -/
theorem power_epoch_lowered :
    evaluator.Reachable (reconfigured 1) ∧ evaluator.Reachable (reconfigured 6) ∧
      configured.current ∈ (reconfigured 1).copies ∧
      configured.current ∈ (reconfigured 6).copies ∧
      (configured.current.continuity system).map (fun continuity =>
        (continuity.powerEpoch, evaluateContinuityAdmission continuity .dispatch 1,
          evaluateContinuityAdmission continuity .dispatch 6)) =
        some (5, ⟨false, "STALE_POWER_EPOCH"⟩, ⟨false, "STALE_POWER_EPOCH"⟩) ∧
      ((reconfigured 1).current.continuity system).map (fun continuity =>
        (continuity.powerEpoch, evaluateContinuityAdmission continuity .dispatch 1)) =
        some (1, ⟨true, "ACCEPTED"⟩) ∧
      ((reconfigured 6).current.continuity system).map (fun continuity =>
        evaluateContinuityAdmission continuity .dispatch 6) = some ⟨true, "ACCEPTED"⟩ :=
  ⟨configured_reachable.copy.script fun _ _ _ _ => trivial,
    configured_reachable.copy.script fun _ _ _ _ => trivial,
    Evaluator.copy_taken configured.current_copied,
    Evaluator.copy_taken configured.current_copied, by decide⟩

theorem configured_epoch :
    (configured.current.continuity system).map (·.powerEpoch) = some 5 := by decide

theorem reconfigured_forward : evaluator.Reaches ReconfiguresForward (reconfigured 6) := by
  refine (configured_reaches fun _ _ _ _ fresh _ _ _ found => ?_).copy.perform ?_
  · simp [fresh] at found
  · intro value continuity payload found
    have epoch := configured_epoch
    rw [show configured.current.continuity system = _ from found] at epoch
    cases payload
    simp only [Option.map_some, Option.some.injEq] at epoch
    simp [epoch]

theorem power_epoch_monotone_reconfigured :
    ∃ before, configured.current.continuity system = some before ∧
      ∃ after, (reconfigured 6).current.continuity system = some after ∧
        before.powerEpoch ≤ after.powerEpoch ∧
        ∀ action powerEpoch, powerEpoch ≤ before.powerEpoch →
          (evaluateContinuityAdmission before action powerEpoch).stale = true →
          (evaluateContinuityAdmission after action powerEpoch).stale = true ∧
            (evaluateContinuityAdmission after action powerEpoch).accepted = false := by
  obtain ⟨before, found, _⟩ := Option.map_eq_some_iff.mp configured_epoch
  exact ⟨before, found, power_epoch_monotone reconfigured_forward
    (Evaluator.copy_taken configured.current_copied) found⟩

end Sample

/-- An outage names again every execution that is unresolved when it is recorded. -/
def OutagesNameUnresolved (_copy current : Store) : StoreInput → Prop
  | .decide command _ => ∀ value continuity,
      command.payload = .unexpectedOutage value →
      current.continuity command.target = some continuity →
      ∀ id ∈ continuity.unresolvedExecutionIDs, id ∈ value.knownInFlightExecutionIDs
  | _ => True

/-- The event resumes the team and carries a reconciliation record for the execution. -/
def DomainEvent.reconciles (event : DomainEvent) (team : AggregateRef) (id : UUIDv7) : Bool :=
  match event.eventType, event.payload with
  | .systemResumed, .resume value =>
    event.aggregate == team &&
      value.reconciliationRecords.any fun record => record.executionID == id
  | _, _ => false

/-- What was unresolved before is unresolved still or was reconciled in between. -/
def Store.KeepsUnresolved (before after : Store) : Prop :=
  ∃ later, after.events = before.events ++ later ∧
    ∀ reference continuity, before.continuity reference = some continuity →
      ∀ id ∈ continuity.unresolvedExecutionIDs,
        (∃ next, after.continuity reference = some next ∧ id ∈ next.unresolvedExecutionIDs) ∨
          ∃ event ∈ later, event.reconciles reference id = true

theorem Store.KeepsUnresolved.trans {before between after : Store}
    (left : before.KeepsUnresolved between) (right : between.KeepsUnresolved after) :
    before.KeepsUnresolved after := by
  obtain ⟨first, sinceFirst, keptFirst⟩ := left
  obtain ⟨second, sinceSecond, keptSecond⟩ := right
  refine ⟨first ++ second, by rw [sinceSecond, sinceFirst, List.append_assoc], ?_⟩
  intro reference continuity found id unresolved
  rcases keptFirst reference continuity found id unresolved with
    ⟨middle, foundMiddle, still⟩ | ⟨event, member, reconciled⟩
  · rcases keptSecond reference middle foundMiddle id still with
      kept | ⟨event, member, reconciled⟩
    · exact .inl kept
    · exact .inr ⟨event, List.mem_append.mpr (.inr member), reconciled⟩
  · exact .inr ⟨event, List.mem_append.mpr (.inl member), reconciled⟩

theorem AppliedCommand.keepsUnresolved {evaluator : Evaluator}
    (applied : AppliedCommand evaluator copy current) (grown : copy.Extends current)
    (held : current.StatesCurrent) (settled : current.Continuities Settled)
    (named : OutagesNameUnresolved copy current (.decide applied.command applied.context)) :
    current.KeepsUnresolved applied.after := by
  refine ⟨[applied.event], rfl, fun reference continuity found id unresolved => ?_⟩
  by_cases target : reference = applied.target
  · subst target
    have move := applied.continuityMove grown held
    rw [found] at move
    generalize after : applied.after.continuity applied.target = later at move
    cases move with
    | kept _ => exact .inl ⟨_, rfl, unresolved⟩
    | configured _ _ _ active =>
      -- Only an active team is reconfigured, and it has nothing unresolved.
      rw [valid_active (settled _ _ found).valid (active continuity rfl)] at unresolved
      cases unresolved
    | transitioned type moved =>
      have moving : applied.command.commandType.forContinuity = true := by
        simp [CommandType.forContinuity, type]
      obtain ⟨_, _, _, between, moves, rfl⟩ := applyContinuityEvent_ok moved
      rcases transition_unresolved (settled _ _ found) moves
        (fun value payload => named value continuity payload found id unresolved) unresolved
        with still | ⟨value, resumed, payload, recorded⟩
      · exact .inl ⟨_, rfl, still⟩
      · refine .inr ⟨applied.event, List.mem_singleton.mpr rfl, ?_⟩
        have eventType := (applied.continuity_eventType type).trans resumed
        have carried := (applied.continuity_payload moving).trans payload
        simpa [DomainEvent.reconciles, eventType, carried] using recorded
  · exact .inl ⟨continuity, (applied.after_continuity target).trans found, unresolved⟩

theorem Evaluator.Reaches.keepsUnresolved {evaluator : Evaluator}
    (reached : evaluator.Reaches OutagesNameUnresolved shared) (taken : copy ∈ shared.copies) :
    copy.KeepsUnresolved shared.current := by
  refine reached.grows (fun store => ⟨[], by simp, ?_⟩) Store.KeepsUnresolved.trans
    (fun same => ⟨[], by simp [same.events], ?_⟩)
    (fun applied reached taken named => applied.keepsUnresolved (reached.growth taken)
      reached.statesCurrent reached.continuity_settled named) taken
  · intro reference continuity found id unresolved
    exact .inl ⟨continuity, found, unresolved⟩
  · intro reference continuity found id unresolved
    exact .inl ⟨continuity, (same.continuity reference).trans found, unresolved⟩

/-- In every run whose outages name what is unresolved, an execution that was once unresolved
is unresolved, with admission closed, until a resumption carries a record for it. -/
theorem unresolved_until_reconciled {evaluator : Evaluator} {shared : Shared Store}
    {copy : Store} {reference : AggregateRef} {before : TeamContinuitySnapshot} {id : UUIDv7}
    (reached : evaluator.Reaches OutagesNameUnresolved shared) (taken : copy ∈ shared.copies)
    (found : copy.continuity reference = some before)
    (unresolved : id ∈ before.unresolvedExecutionIDs) :
    ∃ later, shared.current.events = copy.events ++ later ∧
      ((∃ after, shared.current.continuity reference = some after ∧
          id ∈ after.unresolvedExecutionIDs ∧ after.controlState ≠ .active ∧
          after.admissionOpen = false) ∨
        ∃ event ∈ later, event.reconciles reference id = true) := by
  obtain ⟨later, since, kept⟩ := reached.keepsUnresolved taken
  refine ⟨later, since, ?_⟩
  rcases kept reference before found id unresolved with ⟨after, foundAfter, still⟩ | reconciled
  · have valid := (reached.continuity_settled reference after foundAfter).valid
    have suspended : after.controlState ≠ .active := by
      intro active
      rw [valid_active valid active] at still
      cases still
    exact .inl ⟨after, foundAfter, still, suspended, valid_closed valid suspended⟩
  · exact .inr reconciled

namespace Sample

def outage (value expected : Nat) (epoch : UInt64) (state : ContinuityControlState)
    (known : List UUIDv7) : KernelCommand :=
  { command value .policy .systemRecordUnexpectedOutage system (revision expected)
      (.unexpectedOutage ⟨expected, epoch, epoch + 1, state, known, 1, .hostRestart, none,
          principal .policy, [.number 1]⟩) with
    causation := [⟨.number 1, .causal⟩]
    evidenceRefs := [evidence] }

def resumeTeam (value expected : Nat) (epoch : UInt64) : KernelCommand :=
  { command value .policy .systemResume system (revision expected)
      (.resume ⟨expected, epoch, [], true, true, true, true, principal .policy, [.number 1]⟩) with
    causation := [⟨.number 1, .causal⟩]
    evidenceRefs := [evidence] }

def interrupted : Shared Store :=
  evaluator.script configured [entry (outage 3 1 5 .active [.number 7])]

/-- A second outage names nothing, and the team resumes. -/
def forgotten : Shared Store :=
  evaluator.script interrupted.copy
    [entry (outage 4 2 6 .reconciling []), entry (resumeTeam 5 3 7)]

/-- The unresolved execution is forgotten and the team is active without a record for it. -/
theorem unresolved_execution_forgotten :
    evaluator.Reachable forgotten ∧ interrupted.current ∈ forgotten.copies ∧
      (interrupted.current.continuity system).map (·.unresolvedExecutionIDs) = some [.number 7] ∧
      (forgotten.current.continuity system).map (fun continuity =>
        (continuity.controlState, continuity.admissionOpen, continuity.unresolvedExecutionIDs)) =
        some (.active, true, []) ∧
      ∀ event ∈ forgotten.current.events, event.reconciles system (.number 7) = false :=
  ⟨(configured_reachable.script fun _ _ _ _ => trivial).copy.script fun _ _ _ _ => trivial,
    Evaluator.copy_taken interrupted.current_copied, by decide⟩

def renamed : Shared Store :=
  evaluator.script interrupted.copy [entry (outage 4 2 6 .reconciling [.number 7])]

theorem interrupted_unresolved :
    (interrupted.current.continuity system).map (·.unresolvedExecutionIDs) =
      some [.number 7] := by decide

theorem renamed_named : evaluator.Reaches OutagesNameUnresolved renamed := by
  have first : evaluator.Reaches OutagesNameUnresolved interrupted := by
    refine (configured_reaches fun _ _ _ _ fresh _ _ _ found => ?_).perform ?_
    · simp [fresh] at found
    · intro value continuity _ found id unresolved
      have empty : (configured.current.continuity system).map (·.unresolvedExecutionIDs) =
        some [] := by decide
      rw [show configured.current.continuity system = _ from found] at empty
      simp only [Option.map_some, Option.some.injEq] at empty
      simp [empty] at unresolved
  refine first.copy.perform ?_
  intro value continuity payload found id unresolved
  have left := interrupted_unresolved
  rw [show interrupted.current.continuity system = _ from found] at left
  cases payload
  simpa [Option.some.inj left] using unresolved

theorem unresolved_until_reconciled_renamed :
    ∃ before, interrupted.current.continuity system = some before ∧
      .number 7 ∈ before.unresolvedExecutionIDs ∧
      ∃ later, renamed.current.events = interrupted.current.events ++ later ∧
        ((∃ after, renamed.current.continuity system = some after ∧
            .number 7 ∈ after.unresolvedExecutionIDs ∧ after.controlState ≠ .active ∧
            after.admissionOpen = false) ∨
          ∃ event ∈ later, event.reconciles system (.number 7) = true) := by
  obtain ⟨before, found, left⟩ := Option.map_eq_some_iff.mp interrupted_unresolved
  have unresolved : UUIDv7.number 7 ∈ before.unresolvedExecutionIDs := by simp [left]
  exact ⟨before, found, unresolved, unresolved_until_reconciled renamed_named
    (Evaluator.copy_taken interrupted.current_copied) found unresolved⟩

end Sample

namespace Sample

end Sample

end Tekroo.Kernel
