import Tekroo.Store.Interleaving

namespace Tekroo.Kernel

open Lib Checked Store

variable {evaluator : Evaluator} {copy current : Store}
  (applied : AppliedCommand evaluator copy current) {reference : AggregateRef}

/-! # Facts about an applied command -/

namespace AppliedCommand

theorem event_fresh : current.event? applied.event.eventID = none :=
  applied.prepared.current.fresh applied.event List.mem_cons_self

theorem event_notMem {event : DomainEvent} (member : event ∈ current.events) :
    event.eventID ≠ applied.event.eventID := by
  have absent := List.find?_eq_none.mp applied.event_fresh event member
  simpa using absent

theorem target_revision :
    copy.revisions.lookup applied.target = current.revisions.lookup applied.target := by
  have unmoved := applied.prepared.current
  have present : (copy.revisions.lookup applied.target).isSome =
    (current.revisions.lookup applied.target).isSome := unmoved.present
  cases found : current.revisions.lookup applied.target with
  | none => simpa [found] using present
  | some revision =>
    have same : revision = (copy.revisions.lookup applied.target).getD 0 :=
      unmoved.revision revision found
    cases loaded : copy.revisions.lookup applied.target with
    | none => simp [found, loaded] at present
    | some old => simpa [loaded] using same.symm

theorem snapshot_revision :
    applied.snapshot.revision = (current.revisions.lookup applied.target).getD 0 := by
  rw [← applied.target_revision]
  rfl

theorem target_present : (current.revisions.lookup applied.target).isSome =
    !commandCreatesAggregate applied.command := by
  rw [← applied.target_revision]
  exact applied.admitted.present

theorem event_revision :
    applied.event.aggregateRevision = (current.revisions.lookup applied.target).getD 0 + 1 := by
  have tuple := applied.prepared.formed.tuple
  simp only [validDecisionTuple, acceptedDecision, tests_iff, List.isEmpty_cons, Bool.false_eq_true,
    if_false, List.zipIdx_cons, List.zipIdx_nil, List.all_cons, List.all_nil] at tuple
  rw [← applied.snapshot_revision]
  exact tuple.2.1.1.1.2.1.1.2

@[simp] theorem after_events : applied.after.events = current.events ++ [applied.event] := rfl

theorem after_revisions (reference : AggregateRef) :
    applied.after.revisions.lookup reference =
      if reference = applied.target then some applied.event.aggregateRevision
      else current.revisions.lookup reference :=
  lookup_insert_eq_ite _ _ _ _

theorem after_states (reference : AggregateRef) :
    applied.after.states.lookup reference =
      if reference = applied.target then
        applied.acceptance.nextState.or (current.states.lookup reference)
      else current.states.lookup reference :=
  lookup_insertAll_toList _ _ _ _

theorem pinned {reference : AggregateRef}
    (named : containsAggregatePrecondition applied.command reference = true) :
    copy.revisions.lookup reference = current.revisions.lookup reference := by
  simp only [containsAggregatePrecondition, List.any_eq_true, beq_iff_eq] at named
  obtain ⟨precondition, member, rfl⟩ := named
  have listed := lookup_insertAll_map ∅ AggregatePrecondition.aggregate copy.relatedSnapshot
    applied.command.preconditions precondition.aggregate
  rw [if_pos ⟨precondition, member, rfl⟩] at listed
  have guarded := applied.prepared.current.preconditions precondition member
  have matched := List.all_eq_true.mp applied.admitted.preconditions precondition member
  rw [show (copy.loadDecision applied.command).related.lookup precondition.aggregate = _
    from listed] at matched
  simp only [preconditionHolds] at guarded
  cases found : current.revisions.lookup precondition.aggregate <;>
    cases loaded : copy.revisions.lookup precondition.aggregate <;>
    simp_all [relatedSnapshot]

theorem projected :
    ∃ escalation release capability variant phase4,
      current.escalationProjection applied.event = .ok escalation ∧
      current.releaseProjection applied.event = .ok release ∧
      capabilityProjection applied.event = .ok capability ∧
      current.variantProjection applied.event = .ok variant ∧
      current.phase4Projection applied.decision.workBudget applied.event = .ok phase4 ∧
      applied.projections = {
        escalations := escalation.toList
        releases := release.toList
        capabilities := capability.toList
        variants := variant.toList
        phase4 := phase4.toList } := by
  have prepared := applied.prepared.prepared
  simp only [prepareProjections, chain_ok] at prepared
  obtain ⟨_, escalations, _, releases, _, capabilities, _, variants, _, budgets, same⟩ := prepared
  obtain ⟨escalation, escalated, rfl⟩ := prepareEach_single.mp escalations
  obtain ⟨release, released, rfl⟩ := prepareEach_single.mp releases
  obtain ⟨capability, qualified, rfl⟩ := prepareEach_single.mp capabilities
  obtain ⟨variant, varied, rfl⟩ := prepareEach_single.mp variants
  obtain ⟨phase4, budgeted, rfl⟩ := prepareEach_single.mp budgets
  exact ⟨escalation, release, capability, variant, phase4, escalated, released, qualified,
    varied, budgeted, same.symm⟩

theorem after_releasePlans (reference : AggregateRef) :
    applied.after.releasePlans.lookup reference = current.releasePlans.lookup reference ∨
      reference = applied.target ∧ ∃ next,
        applied.after.releasePlans.lookup reference = some next ∧
        ((applied.event.eventType = .releasePlanCreated ∧ ∃ payload,
            applied.event.payload = .releaseCreate payload ∧
            payload.snapshot applied.event.eventID = some next) ∨
          ∃ plan, current.releasePlans.lookup reference = some plan ∧
            plan.applyReleaseEvent applied.event = some next) := by
  obtain ⟨_, release, _, _, _, _, released, _, _, _, same⟩ := applied.projected
  have written : applied.after.releasePlans = insertAll current.releasePlans
      (release.toList.map fun value => (value.reference, value.snapshot)) := by
    simp [after, write, same]
  cases release with
  | none => exact .inl (by simp [written])
  | some projection =>
    obtain ⟨target, changed⟩ := releaseProjection_ok released
    simp only [written, Option.toList_some, List.map_cons, List.map_nil, insertAll_cons,
      insertAll_nil, lookup_insert_eq_ite, target, AcceptedCommand.event_aggregate]
    by_cases moved : reference = applied.target
    · subst moved
      exact .inr ⟨rfl, projection.snapshot, if_pos rfl, changed⟩
    · exact .inl (if_neg moved)

theorem after_phase4 :
    ∃ change : Option Phase4Projection,
      (∀ projection, change = some projection →
        current.Phase4Change applied.decision.workBudget applied.event projection) ∧
      (change = none → applied.event.eventType ≠ .workInvocationAuthorized ∧
        applied.event.eventType ≠ .workBudgetCreated ∧
        applied.event.eventType ≠ .workBudgetAmended) ∧
      applied.after.workBudgetAccounts =
        insertAll current.workBudgetAccounts (change.bind (·.budget)).toList ∧
      applied.after.taskWorkBudgets =
        insertAll current.taskWorkBudgets (change.bind (·.binding)).toList ∧
      applied.after.workInvocations =
        insertAll current.workInvocations (change.bind (·.invocation)).toList := by
  obtain ⟨_, _, _, _, change, _, _, _, _, budgeted, same⟩ := applied.projected
  refine ⟨change, ?_, ?_, ?_, ?_, ?_⟩
  · rintro projection rfl
    exact phase4Projection_ok budgeted
  · rintro rfl
    exact phase4Projection_none budgeted
  all_goals cases change <;> simp [after, write, same, List.filterMap_cons]
  all_goals split <;> simp_all

end AppliedCommand

/-! ## How the store grows

What a handler read when it loaded its snapshot is related to what it finds when it commits.
-/

def DomainEvent.installs (event : DomainEvent) (actor : ActorFQN) : Option ExecutionTuple :=
  match event.eventType, event.payload with
  | .executionReplaced, .executionReplace value =>
    if value.actorFQN = actor then value.next else none
  | _, _ => none

theorem ReviewBoard.applyReviewEvent_reviews {board : ReviewBoard} {event : DomainEvent}
    {reference : AggregateRef} (other : reference ≠ event.aggregate) :
    (board.applyReviewEvent event).reviews.lookup reference = board.reviews.lookup reference := by
  have moved : ∀ change, (board.moved event change).reviews.lookup reference =
      board.reviews.lookup reference := by
    rintro ⟨next, valid⟩
    cases valid <;> simp [ReviewBoard.moved, other]
  unfold ReviewBoard.applyReviewEvent
  split
  · next value _ _ =>
    cases opened : value.review <;>
      simp [ReviewBoard.opened, opened, other]
  · split
    · split
      · rfl
      · exact moved _
    · rfl
  · exact moved _
  · rfl

namespace AppliedCommand

theorem registration {value : ExecutionRegisterPayload}
    (eventType : applied.event.eventType = .executionRegistered)
    (payload : applied.event.payload = .executionRegister value) :
    current.executions.lookup value.actorFQN = none := by
  have type := applied.commandType_of eventType rfl
  have carried := (applied.event_payload (by simp [type])).symm.trans payload
  have format := applied.format
  simp only [carried, Payload.hasFormat, tests_iff] at format
  refine applied.prepared.current.absentExecutions value.actorFQN ?_
  simp [acceptedDecision, decisionGuards, executionRegistryExpectation, type, carried, format.1.1]

theorem after_executions (actor : ActorFQN) :
    (applied.event.installs actor = none ∧ current.executions.lookup actor = none) ∨
      applied.after.executions.lookup actor =
        (applied.event.installs actor).or (current.executions.lookup actor) := by
  rw [show applied.after.executions =
    registerExecution current.executions applied.event from rfl]
  unfold registerExecution
  split
  · next value eventType payload =>
    by_cases same : actor = value.actorFQN
    · exact .inl ⟨by simp [DomainEvent.installs, eventType],
        same ▸ applied.registration eventType payload⟩
    · cases value.first <;> simp [DomainEvent.installs, eventType, same]
  · next value eventType payload =>
    by_cases same : value.actorFQN = actor
    · subst same
      cases next : value.next <;> simp [DomainEvent.installs, eventType, payload, next]
    · cases value.next <;> simp [DomainEvent.installs, eventType, payload, same, Ne.symm same]
  · unfold DomainEvent.installs
    split <;> simp_all

theorem after_reviews (other : reference ≠ applied.target) :
    applied.after.reviews.lookup reference = current.reviews.lookup reference :=
  @ReviewBoard.applyReviewEvent_reviews current.reviewBoard applied.event reference other

theorem after_workInvocations (other : reference ≠ applied.target) :
    applied.after.workInvocations.lookup reference = current.workInvocations.lookup reference := by
  obtain ⟨change, changed, _, _, _, written⟩ := applied.after_phase4
  rw [written]
  cases change with
  | none => rfl
  | some projection =>
    cases changed projection rfl <;> simp [other]

end AppliedCommand

def WorkBudgetAccount.limits (account : WorkBudgetAccount) : Nat × PurposeCounters :=
  (account.modelInvocationLimit, account.purposeLimits)

/-- What stays as it is while an aggregate keeps its revision. -/
structure Store.Unmoved (before after : Store) (reference : AggregateRef) : Prop where
  states : before.states.lookup reference = after.states.lookup reference
  reviews : before.reviews.lookup reference = after.reviews.lookup reference
  releasePlans : before.releasePlans.lookup reference = after.releasePlans.lookup reference
  workInvocations :
    before.workInvocations.lookup reference = after.workInvocations.lookup reference
  limits : (before.workBudgetAccounts.lookup reference).map (·.limits) =
    (after.workBudgetAccounts.lookup reference).map (·.limits)

structure Store.Extends (before after : Store) : Prop where
  events : before.events <+: after.events
  revisions : ∀ reference revision, before.revisions.lookup reference = some revision →
    ∃ later, after.revisions.lookup reference = some later ∧ revision ≤ later
  unmoved : ∀ reference,
    before.revisions.lookup reference = after.revisions.lookup reference →
    before.Unmoved after reference
  executions : ∀ actor tuple, before.executions.lookup actor = some tuple →
    after.executions.lookup actor = some tuple ∨
      ∃ event ∈ after.events, (event.installs actor).isSome

namespace Store.Extends

variable {before between after : Store}

theorem refl (store : Store) : store.Extends store where
  events := List.prefix_rfl
  revisions := fun _ revision found => ⟨revision, found, Nat.le_refl _⟩
  unmoved := fun _ _ => ⟨rfl, rfl, rfl, rfl, rfl⟩
  executions := fun _ _ found => .inl found

/-- Revisions only advance, so equal ends leave no room for the middle. -/
theorem between_revision (left : before.Extends between) (right : between.Extends after)
    {reference : AggregateRef}
    (same : before.revisions.lookup reference = after.revisions.lookup reference) :
    before.revisions.lookup reference = between.revisions.lookup reference := by
  cases found : before.revisions.lookup reference with
  | none =>
    cases foundMiddle : between.revisions.lookup reference with
    | none => rfl
    | some revision =>
      obtain ⟨last, foundLast, _⟩ := right.revisions reference revision foundMiddle
      simp [← same, found] at foundLast
  | some revision =>
    obtain ⟨middle, foundMiddle, first⟩ := left.revisions reference revision found
    obtain ⟨last, foundLast, second⟩ := right.revisions reference middle foundMiddle
    rw [← same, found] at foundLast
    cases foundLast
    rw [foundMiddle, Nat.le_antisymm first second]

theorem trans (left : before.Extends between) (right : between.Extends after) :
    before.Extends after where
  events := left.events.trans right.events
  revisions := fun reference revision found => by
    obtain ⟨middle, foundMiddle, first⟩ := left.revisions reference revision found
    obtain ⟨last, foundLast, second⟩ := right.revisions reference middle foundMiddle
    exact ⟨last, foundLast, Nat.le_trans first second⟩
  unmoved := fun reference same => by
    have middle := left.between_revision right same
    have first := left.unmoved reference middle
    have second := right.unmoved reference (middle.symm.trans same)
    exact ⟨first.states.trans second.states, first.reviews.trans second.reviews,
      first.releasePlans.trans second.releasePlans,
      first.workInvocations.trans second.workInvocations, first.limits.trans second.limits⟩
  executions := fun actor tuple found => by
    rcases left.executions actor tuple found with kept | ⟨event, member, replaced⟩
    · exact right.executions actor tuple kept
    · exact .inr ⟨event, right.events.subset member, replaced⟩

theorem of_sameWork (same : before.SameWork after) : before.Extends after where
  events := same.events ▸ List.prefix_rfl
  revisions := fun _ revision found => ⟨revision, same.revisions ▸ found, Nat.le_refl _⟩
  unmoved := fun _ _ => ⟨by rw [same.states], by rw [same.reviews], by rw [same.releasePlans],
    by rw [same.workInvocations], by rw [same.workBudgetAccounts]⟩
  executions := fun _ _ found => .inl (same.executions ▸ found)

end Store.Extends

namespace AppliedCommand

theorem after_limits (other : reference ≠ applied.target) :
    (current.workBudgetAccounts.lookup reference).map (·.limits) =
      (applied.after.workBudgetAccounts.lookup reference).map (·.limits) := by
  obtain ⟨change, changed, _, written, _⟩ := applied.after_phase4
  rw [written]
  cases change with
  | none => rfl
  | some projection =>
    cases changed projection rfl with
    | authorized eventType charged valid authorized target ordinal foundAccount foundBinding =>
      -- A debit rewrites the counters of an account that is not the target.
      simp only [Option.bind_some, Option.toList_some, insertAll_cons, insertAll_nil,
        lookup_insert_eq_ite]
      split
      · next same =>
        subst same
        simp [foundAccount, chargedAccount, WorkBudgetAccount.limits]
      · rfl
    | _ => simp [other]

theorem unmoved (other : reference ≠ applied.target) :
    current.Unmoved applied.after reference where
  states := by rw [applied.after_states, if_neg other]
  reviews := (applied.after_reviews other).symm
  releasePlans := by
    rcases applied.after_releasePlans reference with same | ⟨target, _⟩
    · exact same.symm
    · exact absurd target other
  workInvocations := (applied.after_workInvocations other).symm
  limits := applied.after_limits other

theorem not_target
    (same : current.revisions.lookup reference = applied.after.revisions.lookup reference) :
    reference ≠ applied.target := by
  intro target
  rw [applied.after_revisions, if_pos target, applied.event_revision, ← target] at same
  cases found : current.revisions.lookup reference <;> simp [found] at same

theorem growth : current.Extends applied.after where
  events := List.prefix_append _ _
  revisions := fun reference revision found => by
    rw [applied.after_revisions]
    split
    · next same =>
      refine ⟨_, rfl, ?_⟩
      rw [applied.event_revision, ← same, found]
      exact Nat.le_succ _
    · exact ⟨revision, found, Nat.le_refl _⟩
  unmoved := fun reference same => applied.unmoved (applied.not_target same)
  executions := fun actor tuple found => by
    rcases applied.after_executions actor with ⟨_, absent⟩ | written
    · simp [absent] at found
    · cases installed : applied.event.installs actor with
      | none => exact .inl (by simp [written, installed, found])
      | some latest => exact .inr ⟨applied.event, by simp, by simp [installed]⟩

end AppliedCommand

theorem Evaluator.Reaches.growth {allowed : Store → Store → StoreInput → Prop}
    {shared : Shared Store} (reached : evaluator.Reaches allowed shared)
    (taken : copy ∈ shared.copies) :
    copy.Extends shared.current :=
  reached.grows Extends.refl Extends.trans Extends.of_sameWork
    (fun applied _ _ _ => applied.growth) taken

end Tekroo.Kernel
