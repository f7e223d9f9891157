import Tekroo.Application.Handler

namespace Tekroo.Application

open Kernel Lib

/-! # A call that runs alone

`Handle` from its first step to its last, with nothing in between.
-/

def Call.proceed (evaluator : Evaluator) (around : Surroundings) (store : Store) (call : Call) :
    Store × Call :=
  let (store, progress) := call.step evaluator store around
  (store, { call with progress })

structure Surroundings.Provides (around : Surroundings) (provenance : ProvenanceBasis)
    (context : DecisionContext) : Prop where
  running : around.canceled = false
  eventID : around.eventID = some context.eventID
  intentID : around.intentID = some context.intentID
  receivedAt : context.receivedAt = around.now
  decidedAt : context.decidedAt = around.later
  provenance : context.provenance = provenance

structure Unseen (evaluator : Evaluator) (store : Store) (command : KernelCommand) : Prop where
  commandID : store.receipts.lookup command.commandID = none
  scope : store.idempotency.lookup (idempotencyScopeDigest evaluator.hashes command) = none

theorem Unseen.lookup {evaluator : Evaluator} {store : Store} {command : KernelCommand}
    (unseen : Unseen evaluator store command) (moment : Time) :
    store.lookupReceipt evaluator.hashes command moment = .ok none := by
  simp [Store.lookupReceipt, unseen.commandID, unseen.scope]

section Alone

variable {κ : Type} {Answer : κ → Type} {step : Call → Program κ Answer Call}
  {serve : Store → (call : κ) → Store × Answer call} {evaluator : Evaluator}
  {around : KernelCommand → Surroundings} {store : Store} {command : KernelCommand}
  {provenance : ProvenanceBasis} {context : DecisionContext}
  (serves : ∀ store call, (step call).run serve store = call.proceed evaluator (around call.command)
    store) {call : Call}

include serves in
theorem follow_step (pending : call.progress.result = none) (steps : Nat) :
    (Call.follow step (steps + 1) call).run serve store =
      (Call.follow step steps (call.proceed evaluator (around call.command) store).2).run serve
        (call.proceed evaluator (around call.command) store).1 := by
  rw [Call.follow, pending]
  simp only [Program.run_bind, serves]

theorem follow_done {result : Except HandleError CommandReceipt}
    (ended : call.progress.result = some result) (steps : Nat) :
    (Call.follow step steps call).run serve store = (store, result) := by
  cases steps with
  | zero | succ steps => simp [Call.follow, ended]

include serves in
theorem handle_unseen (unseen : Unseen evaluator store command)
    (provides : (around command).Provides provenance context) :
    (handle step command provenance).run serve store =
      match evaluator.evaluate command (store.loadDecision command) context with
      | .ok decision =>
        (Call.follow step 2
          ⟨command, provenance, .commit (store.loadDecision command) decision⟩).run serve store
      | .error reason => (store, .error (.evaluate reason)) := by
  obtain ⟨receivedAt, decidedAt, eventID, intentID, basis⟩ := context
  obtain ⟨running, event, intent, rfl, rfl, rfl⟩ := provides
  have looked : (⟨command, basis, .lookup⟩ : Call).proceed evaluator (around command) store =
      (store, ⟨command, basis, .load⟩) := by
    simp [Call.proceed, Call.step, Call.lookupStep, running, unseen.lookup]
  have loaded : (⟨command, basis, .load⟩ : Call).proceed evaluator (around command) store =
      (store, ⟨command, basis, .evaluate (store.loadDecision command)⟩) := by
    simp [Call.proceed, Call.step, running]
  rw [handle, follow_step serves rfl, looked, follow_step serves rfl, loaded,
    follow_step serves rfl]
  cases evaluated : evaluator.evaluate command (store.loadDecision command)
      ⟨(around command).now, (around command).later, eventID, intentID, basis⟩ with
  | ok decision =>
    simp [Call.proceed, Call.step, Call.evaluateStep, event, intent, evaluated]
  | error reason =>
    have failed : (⟨command, basis, .evaluate (store.loadDecision command)⟩ : Call).proceed
        evaluator (around command) store =
        (store, ⟨command, basis, .failed (.evaluate reason)⟩) := by
      simp [Call.proceed, Call.step, Call.evaluateStep, event, intent, evaluated]
    rw [failed, follow_done rfl]

include serves in
theorem follow_commit (unseen : Unseen evaluator store command)
    (running : (around command).canceled = false) (noFault : store.faultPoint = .none)
    (snapshot : Snapshot) (decision : Decision) :
    (Call.follow step 2 ⟨command, provenance, .commit snapshot decision⟩).run serve store =
      if (store.commit evaluator.hashes snapshot decision).2.applied then
        ((store.commit evaluator.hashes snapshot decision).1, .ok decision.receipt)
      else (store, .error (.commit (store.commit evaluator.hashes snapshot decision).2)) := by
  rw [follow_step serves rfl]
  unfold Store.commit
  cases result : store.prepare evaluator.hashes snapshot decision with
  | error reason =>
    have unwritten : (⟨command, provenance, .commit snapshot decision⟩ : Call).proceed evaluator
        (around command) store =
        (store, ⟨command, provenance, Call.committed decision (.failed reason)⟩) := by
      simp [Call.proceed, Call.step, running, Store.commit, result]
    rw [unwritten]
    by_cases repeated : reason = .decisionAlreadyCommitted
    · subst repeated
      have unknown : (⟨command, provenance, .reconcile (.failed .decisionAlreadyCommitted)⟩ :
          Call).proceed evaluator (around command) store =
          (store, ⟨command, provenance,
            .failed (.commit (.failed .decisionAlreadyCommitted))⟩) := by
        simp [Call.proceed, Call.step, running, Call.reconcileStep, unseen.lookup]
      rw [Call.committed, follow_step serves rfl, unknown, follow_done rfl]
      rfl
    · have failed : (Call.committed decision (.failed reason)).result =
          some (.error (.commit (.failed reason))) := by
        cases reason <;> first | rfl | exact absurd rfl repeated
      rw [follow_done failed]
      rfl
  | ok projections =>
    have written : (⟨command, provenance, .commit snapshot decision⟩ : Call).proceed evaluator
        (around command) store = (store.write evaluator.hashes decision projections,
          ⟨command, provenance, .returned decision.receipt⟩) := by
      simp [Call.proceed, Call.step, running, Store.commit, result, Call.committed, noFault]
    rw [written, follow_done rfl]
    simp [noFault, CommitResult.applied]

include serves in
theorem handle_applies (unseen : Unseen evaluator store command)
    (provides : (around command).Provides provenance context) (noFault : store.faultPoint = .none)
    (applies : evaluator.applies store store command context = true) :
    ∃ applied : AppliedCommand evaluator store store,
      applied.command = command ∧ applied.context = context ∧
        (handle step command provenance).run serve store =
          (applied.after, .ok applied.decision.receipt) := by
  rw [handle_unseen serves unseen provides]
  simp only [Evaluator.applies] at applies
  cases evaluated : evaluator.evaluate command (store.loadDecision command) context with
  | error reason => simp [evaluated] at applies
  | ok decision =>
    simp only [evaluated, tests_iff] at applies
    obtain ⟨outcome, written⟩ := applies
    simp only [follow_commit serves unseen provides.running noFault, written, if_true]
    obtain ⟨reason, failed⟩ | ⟨rejected, _⟩ | ⟨applied, same, context, rfl, after⟩ :=
      Evaluator.commit_cases store evaluated
    · simp [failed, CommitResult.applied] at written
    · exact absurd outcome rejected
    · exact ⟨applied, same, context, by rw [after]⟩

include serves in
theorem applies_of_handle {receipt : CommandReceipt} (unseen : Unseen evaluator store command)
    (provides : (around command).Provides provenance context) (noFault : store.faultPoint = .none)
    (returned : ((handle step command provenance).run serve store).2 = .ok receipt)
    (outcome : receipt.outcomeCode = .applied) :
    evaluator.applies store store command context = true := by
  rw [handle_unseen serves unseen provides] at returned
  cases evaluated : evaluator.evaluate command (store.loadDecision command) context with
  | error reason => simp [evaluated] at returned
  | ok decision =>
    simp only [evaluated, follow_commit serves unseen provides.running noFault] at returned
    split at returned
    · next written =>
      cases returned
      simp [Evaluator.applies, evaluated, outcome, written]
    · cases returned

end Alone

end Tekroo.Application
