import Tekroo.Properties.Continuity
import Tekroo.Properties.Replay

namespace Tekroo.Kernel

open Lib Checked DomainEvent

/-! # Replay of systems, participants and interactions -/

def Store.PeopleReplayed (store : Store) : Prop :=
  ∀ item, item.kind.ofPeople = true → (store.revisions.lookup item).isSome →
    ∃ state, store.states.lookup item = some state ∧
      foldAggregate (entriesOf aggregate store.events item) = .ok (some state)

namespace AppliedCommand

variable {evaluator : Evaluator} {copy current : Store}
  (applied : AppliedCommand evaluator copy current)
  (people : applied.target.kind.ofPeople = true)

include people

theorem forPeople : applied.command.commandType.forPeople = true := by
  rw [CommandType.forPeople, applied.entry]
  exact List.any_eq_true.mpr ⟨_, applied.targetKind, people⟩

theorem people_payload : applied.event.payload = applied.command.payload :=
  applied.event_payload (CommandType.forPeople_passes (applied.forPeople people)).2.1

theorem people_created (contiguous : current.Contiguous)
    (absent : current.revisions.lookup applied.target = none) :
    ∃ state, applied.after.states.lookup applied.target = some state ∧
      foldAggregate (entriesOf aggregate applied.after.events applied.target) =
        .ok (some state) := by
  have creates : commandCreatesAggregate applied.command = true := by
    simpa [absent] using applied.target_present
  obtain ⟨state, made, created⟩ :=
    evolveState_people (applied.forPeople people) creates applied.admitted.evolved
  have folded := foldNext_people applied.source (applied.people_payload people) rfl created
    (applied.targetKind_of rfl) (by rw [applied.event_revision, absent, Option.getD_none])
    applied.event_valid (applied.event_epoch made)
  exact ⟨state, by simp [applied.after_states, made], applied.folded_first contiguous absent folded⟩

theorem people_moved (grown : copy.Extends current) (held : current.StatesCurrent)
    (contiguous : current.Contiguous) {state : AggregateState}
    (stored : current.states.lookup applied.target = some state)
    (folded : foldAggregate (entriesOf aggregate current.events applied.target) =
      .ok (some state)) :
    ∃ next, applied.after.states.lookup applied.target = some next ∧
      foldAggregate (entriesOf aggregate applied.after.events applied.target) =
        .ok (some next) := by
  obtain ⟨next, moved, evolved⟩ := applied.evolves grown held stored
  have following : applied.event.aggregateRevision = applied.snapshot.revision + 1 := by
    rw [applied.event_revision, applied.snapshot_revision]
  obtain ⟨after, stepped, rfl⟩ := foldEvent_people applied.source (applied.people_payload people)
    rfl (applied.forPeople people) following evolved
  exact ⟨_, by simp [applied.after_states, moved],
    applied.folded_next contiguous folded moved stepped⟩

omit people in
theorem peopleReplayed (grown : copy.Extends current) (held : current.StatesCurrent)
    (contiguous : current.Contiguous) (replayed : current.PeopleReplayed) :
    applied.after.PeopleReplayed := by
  intro item people present
  by_cases target : item = applied.target
  · subst target
    cases absent : current.revisions.lookup applied.target with
    | none => exact applied.people_created people contiguous absent
    | some revision =>
      obtain ⟨state, stored, folded⟩ := replayed applied.target people (by simp [absent])
      exact applied.people_moved people grown held contiguous stored folded
  · rw [applied.after_revisions, if_neg target] at present
    obtain ⟨state, stored, folded⟩ := replayed item people present
    refine ⟨state, by rw [applied.after_states, if_neg target, stored], ?_⟩
    rw [applied.after_events, entriesOf_append,
      if_neg (fun same => target (applied.event_aggregate ▸ same.symm)), folded]

end AppliedCommand

theorem Evaluator.Reaches.peopleReplayed {evaluator : Evaluator} {shared : Shared Store}
    (reached : evaluator.Reachable shared) : shared.current.PeopleReplayed := by
  refine reached.holds (fun _ _ => by simp [Store.PeopleReplayed, Store.new])
    (fun same replayed => ?_)
    (fun applied reached taken _ _ replayed => applied.peopleReplayed (reached.growth taken)
      reached.statesCurrent reached.contiguous replayed)
  rwa [Store.PeopleReplayed, same.revisions, same.states, same.events]

/-- In every interleaving the replay of the events of a system, a participant or an interaction is
its stored state: operator role, participant, interaction and continuity. -/
theorem people_replay_equals_state {evaluator : Evaluator} {shared : Shared Store}
    (reached : evaluator.Reachable shared) {event : DomainEvent}
    (committed : event ∈ shared.current.events) (people : event.aggregate.kind.ofPeople = true) :
    ∃ state, shared.current.states.lookup event.aggregate = some state ∧
      foldAggregate (shared.current.aggregateEvents event.aggregate) = .ok (some state) := by
  have contiguous := reached.contiguous
  obtain ⟨state, stored, folded⟩ :=
    reached.peopleReplayed event.aggregate people (contiguous.present committed)
  exact ⟨state, stored, contiguous.aggregateEvents _ ▸ folded⟩

namespace Sample

theorem reconfigured_reachable (epoch : UInt64) : evaluator.Reachable (reconfigured epoch) :=
  configured_reachable.copy.script fun _ _ _ _ => trivial

theorem reconfigured_replayed :
    ∃ state, (reconfigured 6).current.states.lookup system = some state ∧
      foldAggregate ((reconfigured 6).current.aggregateEvents system) = .ok (some state) := by
  have committed : ∃ event ∈ (reconfigured 6).current.events, event.aggregate = system := by decide
  obtain ⟨event, member, same⟩ := committed
  rw [← same]
  exact people_replay_equals_state (reconfigured_reachable 6) member (by rw [same]; rfl)

end Sample

end Tekroo.Kernel
