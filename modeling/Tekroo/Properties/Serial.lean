import Tekroo.Lib.Log
import Tekroo.Properties.Fencing

namespace Tekroo.Kernel

open Lib

/-! # Commits are atomic and serial -/

structure Store.Recorded (hashes : Hashes) (before : Store) (decision : Decision)
    (after : Store) : Prop where
  state : ∀ state, decision.nextState = some state →
    after.states.lookup decision.receipt.target = some state
  revision : ∀ revision, decision.receipt.resultingRevision = some revision →
    after.revisions.lookup decision.receipt.target = some revision
  events : after.events = before.events ++ decision.events
  receipt : after.receipts.lookup decision.receipt.commandID = some decision.receipt
  binding : (after.commandBindings.lookup decision.receipt.commandID) =
    some ⟨decision.receipt.commandID, decision.commandFingerprint, decision.idempotencyScope⟩
  scope : (after.idempotency.lookup decision.idempotencyScope) =
    some ⟨decision.receipt.commandID, decision.commandFingerprint, decision.idempotencyScope⟩
  authority : after.authority.lookup decision.receipt.commandID = some decision.authority
  provenance : after.provenance.lookup (decision.provenance.digest hashes) =
    some decision.provenance
  outbox : ∀ intent ∈ decision.outbox, after.outbox.lookup intent.intentID = some intent
  projections : ∃ projections, before.prepareProjections decision = .ok projections ∧
    after = before.write hashes decision projections

/-- `Commit` leaves the store alone or records the whole decision. -/
def Store.CommitsAtomically (hashes : Hashes) (store : Store) (expected : Snapshot)
    (decision : Decision) : Prop :=
  match store.commit hashes expected decision with
  | (after, .failed _) => after = store
  | (after, _) => store.Recorded hashes decision after

theorem lookup_outbox {outbox : Table UUIDv7 OutboxIntent} {intents : List OutboxIntent}
    (distinct : (intents.map (·.intentID)).Nodup) {intent : OutboxIntent}
    (member : intent ∈ intents) :
    (insertAll outbox (intents.map fun intent => (intent.intentID, intent))).lookup
      intent.intentID = some intent := by
  induction intents generalizing outbox with
  | nil => simp at member
  | cons first rest induction =>
    simp only [List.map_cons, List.nodup_cons, List.mem_map, not_exists, not_and] at distinct
    rw [List.map_cons, insertAll_cons]
    rcases List.mem_cons.mp member with rfl | later
    · rw [lookup_insertAll_of_notMem, lookup_insert_eq_ite, if_pos rfl]
      rintro entry found
      obtain ⟨other, member, rfl⟩ := List.mem_map.mp found
      exact distinct.1 other member
    · exact induction distinct.2 later

theorem Store.commit_atomic (hashes : Hashes) (store : Store) (expected : Snapshot)
    (decision : Decision) : store.CommitsAtomically hashes expected decision := by
  unfold CommitsAtomically commit
  cases result : store.prepare hashes expected decision with
  | error reason => rfl
  | ok projections =>
    have prepared := prepare_ok.mp result
    have recorded : store.Recorded hashes decision
        (store.write hashes decision projections) := {
      state := fun state next => by simp [write, next]
      revision := fun revision next => by simp [write, next]
      events := rfl
      receipt := by simp [write]
      binding := by simp [write]
      scope := by simp [write]
      authority := by simp [write]
      provenance := by simp [write]
      outbox := fun intent member => by
        refine lookup_outbox ?_ member
        have tuple := prepared.formed.tuple
        simp only [validDecisionTuple, tests_iff] at tuple
        have shape := tuple.2
        split at shape
        · simp only [tests_iff, List.isEmpty_iff] at shape
          simp [shape.1.2]
        · simp only [tests_iff] at shape
          exact shape.2
      projections := ⟨projections, prepared.prepared, rfl⟩ }
    cases uncertain : store.faultPoint == .afterCommitBeforeAck <;>
      simpa [uncertain] using recorded

/-- The events of every aggregate are numbered without gap or repetition, up to its
revision. -/
structure Store.Contiguous (store : Store) : Prop where
  numbered : Numbered DomainEvent.aggregate DomainEvent.aggregateRevision store.events
  length : ∀ reference, (entriesOf DomainEvent.aggregate store.events reference).length =
    (store.revisions.lookup reference).getD 0

theorem Store.SameWork.contiguous {before after : Store} (same : before.SameWork after)
    (held : before.Contiguous) : after.Contiguous := by
  refine ⟨same.events ▸ held.numbered, fun reference => ?_⟩
  rw [same.events, same.revisions]
  exact held.length reference

variable {evaluator : Evaluator} {copy : Store} {allowed : Store → Store → StoreInput → Prop}
  {first last : Shared Store}

theorem AppliedCommand.contiguous {current : Store}
    (applied : AppliedCommand evaluator copy current) (held : current.Contiguous) :
    applied.after.Contiguous := by
  refine ⟨?_, fun reference => ?_⟩
  · rw [applied.after_events]
    refine held.numbered.append ?_
    rw [applied.event_revision, ← held.length]
    rfl
  · rw [applied.after_events, entriesOf_append, applied.after_revisions]
    by_cases target : reference = applied.target
    · subst target
      simp [held.length, applied.event_revision]
    · rw [if_neg (fun same => target same.symm), if_neg target]
      exact held.length reference

theorem Evaluator.Reaches.contiguous {shared : Shared Store}
    (reached : evaluator.Reaches allowed shared) :
    shared.current.Contiguous :=
  reached.holds (fun _ _ => ⟨fun _ => rfl, fun _ => rfl⟩)
    (fun same held => same.contiguous held) (fun applied _ _ _ _ held => applied.contiguous held)

theorem Evaluator.run_growth (run : Run evaluator.update allowed first last) :
    first.current.Extends last.current := by
  have step : ∀ {shared : Shared Store} {copy : Store} {input : StoreInput},
      first.current.Extends shared.current →
        first.current.Extends (evaluator.update copy shared.current input) := by
    intro shared copy input grown
    obtain same | ⟨applied, _, written⟩ := evaluator.update_cases copy shared.current input
    · exact grown.trans (.of_sameWork same)
    · rw [written]
      exact grown.trans applied.growth
  exact run.holds (fun _ _ _ grown => step grown) (.refl _)

/-- Once a command has been applied, no other command that was evaluated at the same revision
of the same aggregate can be. -/
theorem Evaluator.applies_once {other : Store} {command rival : KernelCommand}
    {context rivalContext : DecisionContext}
    (applies : evaluator.applies copy first.current command context = true)
    (run : Run evaluator.update (fun _ _ _ => True) (first.apply evaluator.update copy (.decide
      command context)) last) (target : rival.target = command.target)
    (revision : (other.loadDecision rival).revision = (copy.loadDecision command).revision) :
    evaluator.applies other last.current rival rivalContext = false := by
  cases result : evaluator.applies other last.current rival rivalContext with
  | false => rfl
  | true =>
    obtain ⟨applied, rfl, rfl, written⟩ := applies_update applies
    obtain ⟨second, rfl, rfl, _⟩ := applies_update result
    have grown := run_growth run
    have advanced := applied.after_revisions applied.target
    rw [if_pos rfl, applied.event_revision] at advanced
    obtain ⟨later, found, increased⟩ := grown.revisions applied.target _ (by
      rw [← advanced]
      exact congrArg (fun store => store.revisions.lookup applied.target) written)
    have now := second.snapshot_revision
    rw [show second.target = applied.target from target, found] at now
    have before := applied.snapshot_revision
    simp only [AcceptedCommand.snapshot, Option.getD_some] at now before
    omega

/-- Commits are atomic and serial: whatever a store and a decision are, `Commit` leaves the
store alone or records all of the decision; in every interleaving the events of an aggregate
are numbered 1 to n; and of the commands evaluated at one revision of an aggregate at most one
is applied. -/
theorem commit_atomic_and_serial (evaluator : Evaluator) :
    (∀ store expected decision, Store.CommitsAtomically evaluator.hashes store expected decision) ∧
    (∀ shared, evaluator.Reachable shared → ∀ reference,
      (entriesOf DomainEvent.aggregate shared.current.events reference).map
          DomainEvent.aggregateRevision =
        List.range' 1 (entriesOf DomainEvent.aggregate shared.current.events reference).length) ∧
    ∀ (first last : Shared Store) (copy other : Store) (command rival : KernelCommand)
      (context rivalContext : DecisionContext),
      evaluator.Reachable first → copy ∈ first.copies →
      evaluator.applies copy first.current command context = true →
      Run evaluator.update (fun _ _ _ => True)
        (first.apply evaluator.update copy (.decide command context)) last →
      other ∈ last.copies → rival.target = command.target →
      (other.loadDecision rival).revision = (copy.loadDecision command).revision →
      evaluator.applies other last.current rival rivalContext = false :=
  ⟨Store.commit_atomic evaluator.hashes, fun _ reached => reached.contiguous.numbered,
    fun _ _ _ _ _ _ _ _ _ _ applies run _ target revision =>
      Evaluator.applies_once applies run target revision⟩

namespace Sample

set_option maxRecDepth 4096 in
/-- Of two replacements that were evaluated on one copy the second is not applied. -/
theorem rival_replacement_refused :
    ((entriesOf DomainEvent.aggregate replaced.current.events ⟨.execution, .number 30⟩).map
        DomainEvent.aggregateRevision = [1, 2]) ∧
      Sample.evaluator.applies profiled.current replaced.current (replaceExecution 7)
        (context 7) = false := by
  obtain ⟨_, numbered, serial⟩ := commit_atomic_and_serial Sample.evaluator
  have both : (entriesOf DomainEvent.aggregate replaced.current.events
      ⟨.execution, .number 30⟩).length = 2 := by
    decide
  constructor
  · rw [numbered replaced replaced_reachable, both]
    rfl
  · exact serial profiled.copy.copy replaced profiled.current profiled.current
      (replaceExecution 6) (replaceExecution 7) (context 6) (context 7)
      profiled_reachable.copy.copy profiled.copy.current_copied (by decide) .refl profiled_taken
      rfl rfl

end Sample

end Tekroo.Kernel
