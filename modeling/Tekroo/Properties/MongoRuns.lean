import Tekroo.Properties.Reviews
import Tekroo.Store.WorkHistory

namespace Tekroo.Kernel

open Lib Store ReviewBoard

variable {evaluator : Evaluator} {copy current : Store}

/-! # Runs over the review projection of the Mongo store

The Mongo store completes a result with the actor and the execution of its event, and a projection
that fails aborts the transaction.  Everything else is as in the in-memory store.
-/

namespace ReviewBoard

def insertReview (board : ReviewBoard) (event : DomainEvent)
    (value : CompletionReviewOpenPayload) : Option ReviewBoard :=
  match value.key, value.review with
  | some key, some review =>
    if key ∈ board.openReviews ∨ event.aggregate ∈ board.reviews then none
    else some { board with
      openReviews := board.openReviews.insert key event.aggregate
      reviews :=
        board.reviews.insert event.aggregate { review with reviewID := event.aggregate.id } }
  | _, _ => none

/-- The review events in `applyRegistryAndReview` of the Mongo store; `none` is an error, which
aborts the commit. -/
def applyMongoEvent (board : ReviewBoard) (event : DomainEvent) : Option ReviewBoard :=
  match event.eventType with
  | .completionReviewOpened =>
    match event.payload with
    | .reviewOpen value => board.insertReview event value
    | _ => none
  | .completionReviewResultRecorded =>
    (board.reviews.lookup event.aggregate).bind fun current =>
      (current.mongoResult event).map fun next => board.moved event (next, true)
  | .completionReviewFinalized =>
    match event.payload, board.reviews.lookup event.aggregate with
    | .reviewFinalize value, some current =>
      match current.applyReviewFinalization event.eventID value with
      | (next, true) => some (board.moved event (next, true))
      | (_, false) => none
    | _, _ => none
  | _ => some board

end ReviewBoard

def Store.withReviews (store : Store) (board : ReviewBoard) : Store :=
  { store with
    openReviews := board.openReviews
    reviews := board.reviews
    eventQualifications := board.eventQualifications }

/-- `Commit` with the review projection of the Mongo store. -/
def Store.mongoCommit (hashes : Hashes) (store : Store) (expected : Snapshot)
    (decision : Decision) : Store × CommitResult :=
  match store.prepare hashes expected decision with
  | .error reason => (store, .failed reason)
  | .ok projections =>
    match decision.events.foldlM applyMongoEvent store.reviewBoard with
    | none => (store, .failed .conflict)
    | some board =>
      ((store.write hashes decision projections).withReviews board,
        if store.faultPoint == .afterCommitBeforeAck then .uncertain else .acknowledged)

namespace Evaluator

variable (evaluator : Evaluator) (copy current : Store)

def mongoUpdate : StoreInput → Store
  | .decide command context =>
    match evaluator.evaluate command (copy.loadDecision command) context with
    | .ok decision =>
      (current.mongoCommit evaluator.hashes (copy.loadDecision command) decision).1
    | .error _ => current
  | input => evaluator.update copy current input

def mongoApplies (command : KernelCommand) (context : DecisionContext) : Bool :=
  match evaluator.evaluate command (copy.loadDecision command) context with
  | .ok decision =>
    decision.receipt.outcomeCode == .applied &&
      (current.mongoCommit evaluator.hashes (copy.loadDecision command) decision).2.applied
  | .error _ => false

def MongoReaches (shared : Shared Store) : Prop :=
  ∃ policy faultPoint,
    Run evaluator.mongoUpdate (fun _ _ _ => True) ⟨.new policy faultPoint, []⟩ shared

end Evaluator

structure ProjectedCommand (evaluator : Evaluator) (copy current : Store) extends
    AppliedCommand evaluator copy current where
  board : ReviewBoard
  reviewed : current.reviewBoard.applyMongoEvent toAppliedCommand.event = some board

def ProjectedCommand.result {evaluator : Evaluator} {copy current : Store}
    (projected : ProjectedCommand evaluator copy current) : Store :=
  projected.toAppliedCommand.after.withReviews projected.board

section Updates

variable {command : KernelCommand} {context : DecisionContext} {decision : Decision}
  {hashes : Hashes} {expected : Snapshot} {projections : Projections}

theorem Store.mongoCommit_of_board {board : ReviewBoard}
    (prepared : current.prepare hashes expected decision = .ok projections)
    (reviewed : decision.events.foldlM applyMongoEvent current.reviewBoard = some board) :
    (current.mongoCommit hashes expected decision).1 =
      (current.write hashes decision projections).withReviews board := by
  simp [mongoCommit, prepared, reviewed]

theorem Store.mongoCommit_of_none
    (prepared : current.prepare hashes expected decision = .ok projections)
    (reviewed : decision.events.foldlM applyMongoEvent current.reviewBoard = none) :
    current.mongoCommit hashes expected decision = (current, .failed .conflict) := by
  simp [mongoCommit, prepared, reviewed]

theorem Store.withReviews_sameWork {before after : Store} (same : before.SameWork after) :
    before.SameWork (after.withReviews before.reviewBoard) :=
  { same with openReviews := rfl, reviews := rfl, eventQualifications := rfl }

theorem Evaluator.mongoCommit_cases (current : Store)
    (evaluated : evaluator.evaluate command (copy.loadDecision command) context = .ok decision) :
    (∃ reason, current.mongoCommit evaluator.hashes (copy.loadDecision command) decision =
        (current, .failed reason)) ∨
      (decision.receipt.outcomeCode ≠ .applied ∧ current.SameWork
        (current.mongoCommit evaluator.hashes (copy.loadDecision command) decision).1) ∨
      ∃ projected : ProjectedCommand evaluator copy current,
        projected.command = command ∧ projected.context = context ∧
          (current.mongoCommit evaluator.hashes (copy.loadDecision command) decision).1 =
            projected.result := by
  cases result : current.prepare evaluator.hashes (copy.loadDecision command) decision with
  | error reason => exact .inl ⟨reason, by simp [mongoCommit, result]⟩
  | ok projections =>
    obtain ⟨rejected, eventless, same⟩ | ⟨applied, same, also, rfl, rfl⟩ :=
      prepared_cases evaluated result
    · have board : decision.events.foldlM applyMongoEvent current.reviewBoard =
          some current.reviewBoard := by simp [eventless]
      refine .inr (.inl ⟨rejected, ?_⟩)
      rw [mongoCommit_of_board result board]
      exact withReviews_sameWork same
    · have folded : applied.decision.events.foldlM applyMongoEvent
          current.reviewBoard = current.reviewBoard.applyMongoEvent applied.event := by
        rw [applied.decision_events]
        simp
      cases reviewed : current.reviewBoard.applyMongoEvent applied.event with
      | none =>
        exact .inl ⟨_, mongoCommit_of_none result (folded.trans reviewed)⟩
      | some board =>
        exact .inr (.inr ⟨⟨applied, board, reviewed⟩, same, also,
          mongoCommit_of_board result (folded.trans reviewed)⟩)

theorem Evaluator.mongoUpdate_cases (evaluator : Evaluator) (copy current : Store)
    (input : StoreInput) :
    current.SameWork (evaluator.mongoUpdate copy current input) ∨
      ∃ projected : ProjectedCommand evaluator copy current,
        input = .decide projected.command projected.context ∧
          evaluator.mongoUpdate copy current input = projected.result := by
  have recorded : ∀ other : StoreInput, (∀ command context, other ≠ .decide command context) →
      current.SameWork (evaluator.update copy current other) := by
    intro other undecided
    obtain same | ⟨applied, decided, _⟩ := evaluator.update_cases copy current other
    · exact same
    · exact absurd decided (undecided _ _)
  cases input with
  | decide command context =>
    simp only [mongoUpdate]
    cases evaluated : evaluator.evaluate command (copy.loadDecision command) context with
    | error reason => exact .inl (.refl current)
    | ok decision =>
      obtain ⟨reason, failed⟩ | ⟨_, same⟩ | ⟨projected, rfl, rfl, written⟩ :=
        mongoCommit_cases current evaluated
      · simp only [failed]
        exact .inl (.refl current)
      · exact .inl same
      · exact .inr ⟨projected, rfl, written⟩
  | setPolicy policy => exact .inl (recorded (.setPolicy policy) (by simp))
  | recordConflict audit => exact .inl (recorded (.recordConflict audit) (by simp))

theorem Evaluator.mongoApplies_update
    (applies : evaluator.mongoApplies copy current command context = true) :
    ∃ projected : ProjectedCommand evaluator copy current,
      projected.command = command ∧ projected.context = context ∧
        evaluator.mongoUpdate copy current (.decide command context) = projected.result := by
  simp only [mongoApplies] at applies
  cases evaluated : evaluator.evaluate command (copy.loadDecision command) context with
  | error reason => simp [evaluated] at applies
  | ok decision =>
    simp only [evaluated, tests_iff] at applies
    obtain ⟨outcome, written⟩ := applies
    obtain ⟨reason, failed⟩ | ⟨rejected, _⟩ | ⟨projected, same, context, after⟩ :=
      mongoCommit_cases current evaluated
    · simp [failed, CommitResult.applied] at written
    · exact absurd outcome rejected
    · exact ⟨projected, same, context, by simp only [mongoUpdate, evaluated, after]⟩

end Updates

inductive ReviewMove (event : DomainEvent) :
    Option CompletionReviewSnapshot → Option CompletionReviewSnapshot → Prop
  | opened {value : CompletionReviewOpenPayload} {review : CompletionReviewSnapshot}
      (eventType : event.eventType = .completionReviewOpened)
      (payload : event.payload = .reviewOpen value) (opening : value.review = some review) :
      ReviewMove event none (some { review with reviewID := event.aggregate.id })
  | recorded {review next : CompletionReviewSnapshot}
      (eventType : event.eventType = .completionReviewResultRecorded)
      (moved : review.mongoResult event = some next) : ReviewMove event (some review) (some next)
  | finalized {value : ReviewFinalizePayload} {review next : CompletionReviewSnapshot}
      (eventType : event.eventType = .completionReviewFinalized)
      (payload : event.payload = .reviewFinalize value)
      (moved : review.applyReviewFinalization event.eventID value = (next, true)) :
      ReviewMove event (some review) (some next)
  | kept {review : Option CompletionReviewSnapshot}
      (eventType : event.eventType ≠ .completionReviewResultRecorded) :
      ReviewMove event review review

theorem ReviewBoard.applyMongoEvent_some {board next : ReviewBoard} {event : DomainEvent}
    (applied : board.applyMongoEvent event = some next) :
    ∃ after, ReviewMove event (board.reviews.lookup event.aggregate) after ∧
      ∀ reference, next.reviews.lookup reference =
        if reference = event.aggregate then after else board.reviews.lookup reference := by
  unfold applyMongoEvent at applied
  split at applied
  · next eventType =>
    split at applied
    · next value payload =>
      unfold insertReview at applied
      split at applied
      · next key review _ opening =>
        split at applied
        · cases applied
        · next absent =>
          cases applied
          rw [AList.lookup_eq_none.mpr (not_or.mp absent).2]
          exact ⟨_, .opened eventType payload opening, fun _ => lookup_insert_eq_ite ..⟩
      · cases applied
    · cases applied
  · next eventType =>
    simp only [Option.bind_eq_some_iff, Option.map_eq_some_iff] at applied
    obtain ⟨current, found, moved, recorded, rfl⟩ := applied
    exact ⟨_, found ▸ .recorded eventType recorded, fun _ => lookup_insert_eq_ite ..⟩
  · next eventType =>
    split at applied
    · next value current payload found =>
      split at applied
      · next moved finalized =>
        cases applied
        exact ⟨_, found ▸ .finalized eventType payload finalized, fun _ => lookup_insert_eq_ite ..⟩
      · cases applied
    · cases applied
  · cases applied
    refine ⟨_, .kept fun recorded => by simp_all, fun reference => ?_⟩
    split
    · next same => rw [same]
    · rfl

namespace ProjectedCommand

variable (projected : ProjectedCommand evaluator copy current)

theorem result_reviews {reference : AggregateRef} (other : reference ≠ projected.target) :
    projected.result.reviews.lookup reference = current.reviews.lookup reference := by
  obtain ⟨_, _, reviews⟩ := applyMongoEvent_some projected.reviewed
  exact (reviews reference).trans (if_neg other)

theorem moves : ReviewMove projected.event (current.reviews.lookup projected.target)
    (projected.result.reviews.lookup projected.target) := by
  obtain ⟨_, move, reviews⟩ := applyMongoEvent_some projected.reviewed
  have moved := (reviews projected.target).trans (if_pos rfl)
  exact moved ▸ move

theorem growth : current.Extends projected.result := by
  have growth := projected.toAppliedCommand.growth
  refine { growth with unmoved := fun reference same => ?_ }
  refine { growth.unmoved reference same with
    reviews := (projected.result_reviews fun target => ?_).symm }
  subst target
  rw [show projected.result.revisions = projected.toAppliedCommand.after.revisions from rfl,
    projected.after_revisions, if_pos rfl, projected.event_revision] at same
  cases found : current.revisions.lookup projected.target <;> simp [found] at same

end ProjectedCommand

namespace Evaluator.MongoReaches

variable {shared : Shared Store} {copy : Store}

theorem holds {Holds : Store → Prop}
    (start : ∀ policy faultPoint, Holds (.new policy faultPoint))
    (recorded : ∀ {before after : Store}, before.SameWork after → Holds before → Holds after)
    (accepted : ∀ {shared : Shared Store} {copy : Store}
      (projected : ProjectedCommand evaluator copy shared.current),
      evaluator.MongoReaches shared → copy ∈ shared.copies → Holds shared.current →
      Holds projected.result)
    (reached : evaluator.MongoReaches shared) : Holds shared.current := by
  obtain ⟨policy, faultPoint, run⟩ := reached
  refine run.holds (fun {shared copy input} run taken _ held => ?_) (start policy faultPoint)
  obtain same | ⟨projected, rfl, written⟩ := evaluator.mongoUpdate_cases copy shared.current input
  · exact recorded same held
  · rw [written]
    exact accepted projected ⟨policy, faultPoint, run⟩ taken held

theorem grows {Grows : Store → Store → Prop} (refl : ∀ store, Grows store store)
    (trans : ∀ {before between after}, Grows before between → Grows between after →
      Grows before after)
    (recorded : ∀ {before after : Store}, before.SameWork after → Grows before after)
    (accepted : ∀ {shared : Shared Store} {copy : Store}
      (projected : ProjectedCommand evaluator copy shared.current),
      evaluator.MongoReaches shared → copy ∈ shared.copies → Grows shared.current projected.result)
    (reached : evaluator.MongoReaches shared) (taken : copy ∈ shared.copies) :
    Grows copy shared.current := by
  obtain ⟨policy, faultPoint, run⟩ := reached
  refine (run.grows refl trans (fun {shared copy input} run taken _ => ?_) (by simp)).2 copy taken
  obtain same | ⟨projected, rfl, written⟩ := evaluator.mongoUpdate_cases copy shared.current input
  · exact recorded same
  · rw [written]
    exact accepted projected ⟨policy, faultPoint, run⟩ taken

theorem growth (reached : evaluator.MongoReaches shared) (taken : copy ∈ shared.copies) :
    copy.Extends shared.current :=
  reached.grows Extends.refl Extends.trans Extends.of_sameWork
    (fun projected _ _ => projected.growth) taken

theorem statesCurrent (reached : evaluator.MongoReaches shared) : shared.current.StatesCurrent := by
  refine reached.holds (fun _ _ => by simp [StatesCurrent, new])
    (fun same held => ?_)
    (fun projected reached taken held =>
      projected.toAppliedCommand.statesCurrent (reached.growth taken) held)
  rwa [StatesCurrent, same.states, same.revisions]

end Evaluator.MongoReaches

end Tekroo.Kernel
