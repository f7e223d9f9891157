import Tekroo.Kernel.Replay
import Tekroo.Properties.Invocations
import Tekroo.Properties.Release
import Tekroo.Properties.Serial
import Tekroo.Store.Ready

namespace Tekroo.Kernel

open Lib Checked DomainEvent

/-! # Replay equals the live state -/

/-- The updates that do not clear an owner: every reopening carries the owner forward or finds
an item without one. -/
def ReopensKeepOwner (_copy current : Store) : StoreInput → Prop
  | .decide command _ => command.commandType = .workReopen →
      ∀ state, current.states.lookup command.target = some state → command.keepsOwner state
  | _ => True

/-- The state of the item is the replay of its events. -/
structure Store.Replayed (store : Store) (item : AggregateRef) (state : AggregateState) :
    Prop where
  stored : store.states.lookup item = some state
  folded : foldAggregate (entriesOf DomainEvent.aggregate store.events item) = .ok (some state)
  assigned : state.assignedByOwner

def Store.Replays (store : Store) : Prop :=
  ∀ item, item.kind = .story ∨ item.kind = .task → (store.revisions.lookup item).isSome →
    ∃ state, store.Replayed item state

theorem Store.StatesCurrent.absent {store : Store} (held : store.StatesCurrent)
    {reference : AggregateRef} (absent : store.revisions.lookup reference = none) :
    store.states.lookup reference = none := by
  cases found : store.states.lookup reference with
  | none => rfl
  | some state => simp [held _ _ found] at absent

namespace AppliedCommand

variable {evaluator : Evaluator} {copy current : Store}
  (applied : AppliedCommand evaluator copy current) {state : AggregateState}

theorem event_valid : applied.event.eventID.valid = true := by
  have valid := applied.contextValid
  simp only [validateDecisionContext, tests_iff] at valid
  exact valid.1.1.2

theorem event_epoch (next : applied.acceptance.nextState = some state) :
    applied.event.lifecycleEpoch = state.lifecycleEpoch := by
  obtain ⟨_, _, _, _, epoch⟩ := applied.admitted.phase4
  rwa [next] at epoch

theorem entriesOf_target :
    entriesOf aggregate applied.after.events applied.target =
      entriesOf aggregate current.events applied.target ++ [applied.event] := by
  rw [applied.after_events, entriesOf_append, if_pos applied.event_aggregate]

theorem folded_first (contiguous : current.Contiguous)
    (absent : current.revisions.lookup applied.target = none)
    (created : foldNext applied.target none 1 applied.event = .ok state) :
    foldAggregate (entriesOf aggregate applied.after.events applied.target) = .ok (some state) := by
  have first : entriesOf aggregate current.events applied.target = [] := by
    have length := contiguous.length applied.target
    rwa [absent, Option.getD_none, List.length_eq_zero_iff] at length
  rw [applied.entriesOf_target, first]
  simp only [List.nil_append, foldAggregate, foldFrom, applied.event_aggregate, created]
  rfl

theorem folded_next (contiguous : current.Contiguous) {folded : AggregateState}
    (before : foldAggregate (entriesOf aggregate current.events applied.target) = .ok (some state))
    (moved : applied.acceptance.nextState = some { folded with revision := applied.snapshot.revision
      + 1 }) (stepped : foldEvent state applied.event = .ok folded) :
    foldAggregate (entriesOf aggregate applied.after.events applied.target) =
      .ok (some { folded with revision := applied.snapshot.revision + 1 }) := by
  rw [applied.entriesOf_target]
  have same : ∀ event ∈ entriesOf aggregate current.events applied.target,
      event.aggregate = applied.target := fun event member => by
    simpa using (List.mem_filter.mp member).2
  refine foldAggregate_append before same ?_
  have revision := applied.event_revision
  rw [contiguous.length, ← revision]
  have valid : applied.context.eventID.valid = true := applied.event_valid
  have epoch := applied.event_epoch moved
  have known : applied.event.eventType ≠ .other "" := fun other => by
    have source := applied.source
    rw [other] at source
    cases source
  have last : applied.snapshot.revision + 1 = applied.event.aggregateRevision := by
    rw [revision, applied.snapshot_revision]
  simp [foldNext, valid, known, stepped, epoch, last]

variable (grown : copy.Extends current) (held : current.StatesCurrent)

include grown held

theorem replayed_creation (contiguous : current.Contiguous)
    (work : applied.target.kind = .story ∨ applied.target.kind = .task)
    (absent : current.revisions.lookup applied.target = none) :
    ∃ state, applied.after.Replayed applied.target state := by
  have creates : commandCreatesAggregate applied.command = true := by
    simpa [absent] using applied.target_present
  have created := creates_work creates work (applied.targetKind_of rfl)
  have next := applied.created grown held work (held.absent absent)
  have logged : applied.event.eventType = .storyCreated ∧ applied.command.target.kind = .story ∨
      applied.event.eventType = .taskCreated ∧ applied.command.target.kind = .task :=
    created.imp (fun ⟨type, kind⟩ => ⟨applied.eventType_of type rfl, kind⟩)
      (fun ⟨type, kind⟩ => ⟨applied.eventType_of type rfl, kind⟩)
  have folded := foldNext_created logged applied.event_aggregate
    (by rw [applied.event_revision, absent, Option.getD_none])
    applied.event_valid (applied.event_epoch next)
  exact ⟨createdWork applied.target, by simp [applied.after_states, next],
    applied.folded_first contiguous absent folded, fun _ => rfl⟩

theorem reopens_scope (type : applied.command.commandType = .workReopen) :
    ∃ state, current.states.lookup applied.target = some state ∧
      ∃ value, applied.command.payload = .reopen value ∧
        state.scopeRevision < value.newScopeRevision := by
  have policy := applied.commandTypePolicy_of type rfl
  simp only [commandTypePolicy, type] at policy
  obtain ⟨value, loaded, payload, same, advanced⟩ := reopenPolicy_ok policy
  rw [applied.snapshot_state grown held] at same
  exact ⟨_, same, value, payload, advanced⟩

theorem replayed_step (contiguous : current.Contiguous)
    (work : applied.target.kind = .story ∨ applied.target.kind = .task)
    (keeps : ReopensKeepOwner copy current (.decide applied.command applied.context))
    (replayed : current.Replayed applied.target state) :
    ∃ next, applied.after.Replayed applied.target next := by
  obtain ⟨stored, folded, assigned⟩ := replayed
  obtain ⟨next, moved, evolved⟩ := applied.evolves grown held stored
  have forWork := applied.forWork work
  have payload : applied.event.payload = applied.command.payload :=
    applied.event_payload fun type => by rw [type] at forWork; cases forWork
  obtain ⟨after, stepped, rfl⟩ := foldEvent_of_evolveExisting forWork applied.source payload
    (fun type => by
      obtain ⟨reopens, found, scope⟩ := applied.reopens_scope grown held type
      cases found.symm.trans stored
      exact ⟨applied.eventType_of type rfl, keeps type state stored, scope⟩)
    assigned evolved
  exact ⟨_, by simp [applied.after_states, moved], applied.folded_next contiguous folded moved
    stepped, evolveExisting_assigned forWork assigned evolved⟩

theorem replays (contiguous : current.Contiguous)
    (keeps : ReopensKeepOwner copy current (.decide applied.command applied.context))
    (replays : current.Replays) : applied.after.Replays := by
  intro item work present
  by_cases target : item = applied.target
  · subst target
    cases absent : current.revisions.lookup applied.target with
    | none => exact applied.replayed_creation grown held contiguous work absent
    | some revision =>
      obtain ⟨state, replayed⟩ := replays applied.target work (by simp [absent])
      exact applied.replayed_step grown held contiguous work keeps replayed
  · rw [applied.after_revisions, if_neg target] at present
    obtain ⟨state, stored, folded, assigned⟩ := replays item work present
    refine ⟨state, by rw [applied.after_states, if_neg target, stored], ?_, assigned⟩
    rw [applied.after_events, entriesOf_append,
      if_neg (fun same => target (applied.event_aggregate ▸ same.symm)), folded]

end AppliedCommand

theorem Evaluator.Reaches.replays {evaluator : Evaluator} {shared : Shared Store}
    (reached : evaluator.Reaches ReopensKeepOwner shared) : shared.current.Replays := by
  refine reached.holds (fun _ _ => by simp [Store.Replays, Store.new])
    (fun same replays item work present => ?_)
    (fun applied reached taken keeps _ replays =>
      applied.replays (reached.growth taken) reached.statesCurrent reached.contiguous keeps replays)
  rw [same.revisions] at present
  obtain ⟨state, stored, folded, assigned⟩ := replays item work present
  exact ⟨state, by rw [same.states, stored], by rw [same.events, folded], assigned⟩

theorem Store.Contiguous.aggregateEvents {store : Store} (contiguous : store.Contiguous)
    (reference : AggregateRef) :
    store.aggregateEvents reference = entriesOf aggregate store.events reference := by
  refine List.Pairwise.insertionSort_eq ?_
  have ascending : ((entriesOf aggregate store.events reference).map
      aggregateRevision).Pairwise (· ≤ ·) := by
    rw [contiguous.numbered reference]
    exact (List.pairwise_lt_range' _).imp Nat.le_of_lt
  exact List.pairwise_map.mp ascending

theorem Store.Contiguous.present {store : Store} (contiguous : store.Contiguous)
    {event : DomainEvent} (committed : event ∈ store.events) :
    (store.revisions.lookup event.aggregate).isSome := by
  cases absent : store.revisions.lookup event.aggregate with
  | some revision => rfl
  | none =>
    have length := contiguous.length event.aggregate
    rw [absent, Option.getD_none, List.length_eq_zero_iff] at length
    have member : event ∈ entriesOf aggregate store.events event.aggregate :=
      List.mem_filter.mpr ⟨committed, by simp⟩
    simp [length] at member

/-- In every interleaving whose reopenings keep the owner, the replay of the events of a story
or a task is its stored state, and `VerifyAggregate` succeeds. -/
theorem replay_equals_state {evaluator : Evaluator} {shared : Shared Store}
    (reached : evaluator.Reaches ReopensKeepOwner shared) {event : DomainEvent}
    (committed : event ∈ shared.current.events)
    (work : event.aggregate.kind = .story ∨ event.aggregate.kind = .task) :
    ∃ state, shared.current.states.lookup event.aggregate = some state ∧
      foldAggregate (shared.current.aggregateEvents event.aggregate) = .ok (some state) ∧
      shared.current.verifyAggregate event.aggregate = true := by
  have contiguous := reached.contiguous
  obtain ⟨state, stored, folded, _⟩ :=
    reached.replays event.aggregate work (contiguous.present committed)
  rw [← contiguous.aggregateEvents] at folded
  exact ⟨state, stored, folded, by simp [Store.verifyAggregate, stored, folded]⟩

namespace Sample

set_option maxRecDepth 4096

def completeTask : List Entry :=
  [entry registerEvidence, entry registerExecution, entry createTask, entry bindWorkProfile,
    entry authorizeAssignment, entry markReady, entry acquireOwnership, entry activate] ++
    reviewed 15 task 1 6 ++
    [entry (asActor (requestCompletion 18 .actor .taskRequestCompletion task 1 6 17))]

def completed : Shared Store := evaluator.script start completeTask

def reopened : Shared Store := evaluator.script completed [entry (reopen 19 task 7 false)]

theorem completed_keeps : evaluator.Reaches ReopensKeepOwner completed := by
  refine (Evaluator.Reaches.start policy .none).script fun entry member _ _ reopens => ?_
  have other : ∀ entry ∈ completeTask, entry.command.commandType ≠ .workReopen := by decide
  exact absurd reopens (other entry member)

theorem reopened_reachable : evaluator.Reachable reopened :=
  ((Evaluator.Reaches.start policy .none).script fun _ _ _ _ => trivial).script
    fun _ _ _ _ => trivial

/-- The task has been reopened and its replay differs from its state. -/
theorem reopened_unverified :
    evaluator.Reachable reopened ∧
      (reopened.current.states.lookup task).map
        (fun state => (state.lifecycleEpoch, state.ownership.ownerFQN)) = some (2, none) ∧
      reopened.current.verifyAggregate task = false :=
  ⟨reopened_reachable, by decide⟩

theorem completed_replays :
    ∃ state, completed.current.states.lookup task = some state ∧
      foldAggregate (completed.current.aggregateEvents task) = .ok (some state) ∧
      completed.current.verifyAggregate task = true := by
  have committed : ∃ event ∈ completed.current.events, event.aggregate = task := by
    decide
  obtain ⟨event, member, same⟩ := committed
  rw [← same]
  exact replay_equals_state completed_keeps member (.inr (by rw [same]; rfl))

end Sample

open Store

variable {evaluator : Evaluator} {shared : Shared Store}

def Store.CausesFirst (store : Store) : Prop :=
  ∀ before event, before ++ [event] <+: store.events → ∀ parent ∈ event.parents,
    ∃ cause ∈ before, cause.eventID = parent.parentEventID

theorem causes_first (reached : evaluator.Reachable shared) : shared.current.CausesFirst := by
  refine reached.holds (by simp [CausesFirst, Store.new]) (fun same held => ?_) ?_
  · rwa [CausesFirst, same.events]
  intro shared copy applied reached taken _ _ held before event listed parent named
  rcases List.prefix_concat_iff.mp listed with last | earlier
  · obtain ⟨rfl, rfl⟩ := List.append_singleton_inj.mp last
    have logged := applied.parents_logged (mem_canonicalParents.mp named)
    obtain ⟨cause, found, same⟩ := List.find?_isSome.mp logged
    exact ⟨cause, (reached.growth taken).events.subset found, by simpa using same⟩
  · exact held before event earlier parent named

theorem Sample.reopened_causes : reopened.current.CausesFirst := causes_first reopened_reachable

end Tekroo.Kernel
