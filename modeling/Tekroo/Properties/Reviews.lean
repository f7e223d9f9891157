import Tekroo.Kernel.ReviewForm
import Tekroo.Store.Growth
import Tekroo.Store.Script

namespace Tekroo.Kernel

open Lib Checked ReviewBoard

/-! # Reviews follow the results that were accepted

The policy checks a result with the actor and the execution of its command.  The Mongo store
applies it with both; the in-memory store applies it with neither.
-/

/-- The result as `applyReviewEvent` of the Mongo store completes it. -/
def ReviewBranchResult.attributedBy (result : ReviewBranchResult) (event : DomainEvent) :
    ReviewBranchResult :=
  { result.recordedBy event with
    actorFQN := event.actorFQN.or result.actorFQN
    execution := event.execution.or result.execution }

/-- What `applyReviewEvent` of the Mongo store makes of its stored review when a result was
recorded; `none` is `ErrConflict`, which aborts the commit. -/
def CompletionReviewSnapshot.mongoResult (progress : CompletionReviewSnapshot)
    (event : DomainEvent) : Option CompletionReviewSnapshot :=
  match event.payload with
  | .reviewResult value =>
    match value.branchResult with
    | some (reviewID, policyRevision, result) =>
      if reviewID != event.aggregate.id || progress.branchPolicyRevision != policyRevision then
        none
      else
        match progress.applyReviewBranchResult (result.attributedBy event) with
        | (next, true) => some next
        | (_, false) => none
    | none => none
  | _ => none

variable {event : DomainEvent}

theorem CompletionReviewSnapshot.mongoResult_ok {review next : CompletionReviewSnapshot}
    (moved : review.mongoResult event = some next) :
    ∃ value reviewID policyRevision result, event.payload = .reviewResult value ∧
      value.branchResult = some (reviewID, policyRevision, result) ∧
      review.applyReviewBranchResult (result.attributedBy event) = (next, true) := by
  unfold mongoResult at moved
  split at moved
  · next value payload =>
    split at moved
    · next reviewID policyRevision result parsed =>
      split at moved
      · cases moved
      · split at moved
        · next applied =>
          cases moved
          exact ⟨value, reviewID, policyRevision, result, payload, parsed, applied⟩
        · cases moved
    · cases moved
  · cases moved

def Store.ReviewsFormed (store : Store) : Prop :=
  ∀ reference review, store.reviews.lookup reference = some review → review.Formed

theorem ReviewBoard.moved_formed {board : ReviewBoard} {next : CompletionReviewSnapshot × Bool}
    {reference : AggregateRef} {review : CompletionReviewSnapshot}
    (found : (board.moved event next).reviews.lookup reference = some review)
    (moved : next.1.Formed)
    (formed : ∀ reference review, board.reviews.lookup reference = some review → review.Formed) :
    review.Formed := by
  obtain ⟨next, valid⟩ := next
  cases valid with
  | false => exact formed reference review found
  | true =>
    simp only [ReviewBoard.moved, lookup_insert_eq_ite] at found
    split at found
    · cases found
      exact moved
    · exact formed reference review found

theorem AppliedCommand.reviewsFormed {evaluator : Evaluator} {copy current : Store}
    (applied : AppliedCommand evaluator copy current) (formed : current.ReviewsFormed) :
    applied.after.ReviewsFormed := by
  intro reference review found
  rw [show applied.after.reviews =
    (current.reviewBoard.applyReviewEvent applied.event).reviews from rfl] at found
  unfold applyReviewEvent at found
  split at found
  · next value eventType payload =>
    have type := applied.commandType_of eventType rfl
    have format := applied.format
    rw [← applied.event_payload (by simp [type]), payload] at format
    simp only [Payload.hasFormat, tests_iff, List.isEmpty_eq_false_iff] at format
    simp only [opened] at found
    split at found
    · next opened =>
      rw [lookup_insert_eq_ite] at found
      split at found
      · cases found
        exact CompletionReviewOpenPayload.review_formed opened format.1 _
      · exact formed reference review found
    · exact formed reference review found
  · next earlier =>
    split at found
    · split at found
      · exact formed reference review found
      · exact moved_formed found ((formed _ _ earlier).applied _) formed
    · exact formed reference review found
  · next earlier =>
    exact moved_formed found ((formed _ _ earlier).finalized _ _) formed
  · exact formed reference review found

theorem Evaluator.Reaches.reviewsFormed {evaluator : Evaluator}
    {allowed : Store → Store → StoreInput → Prop} {shared : Shared Store}
    (reached : evaluator.Reaches allowed shared) : shared.current.ReviewsFormed := by
  refine reached.holds (fun _ _ => by simp [Store.ReviewsFormed, Store.new])
    (fun same formed => ?_) (fun applied _ _ _ _ formed => applied.reviewsFormed formed)
  rwa [Store.ReviewsFormed, same.reviews]

theorem ReviewBranchResultPayload.branchResult_unattributed {value : ReviewBranchResultPayload}
    {reviewID : UUIDv7} {policyRevision : Nat} {result : ReviewBranchResult}
    (parsed : value.branchResult = some (reviewID, policyRevision, result)) :
    result.actorFQN = none ∧ result.execution = none := by
  simp only [ReviewBranchResultPayload.branchResult, tests_iff, Prod.mk.injEq] at parsed
  obtain ⟨_, _, _, rfl⟩ := parsed
  exact ⟨rfl, rfl⟩

namespace AppliedCommand

variable {evaluator : Evaluator} {copy current : Store}
  (applied : AppliedCommand evaluator copy current)

theorem records_result (grown : copy.Extends current)
    (type : applied.command.commandType = .completionReviewRecordResult) :
    ∃ value policyRevision result review, applied.command.payload = .reviewResult value ∧
      value.branchResult = some (applied.target.id, policyRevision, result) ∧
      current.reviews.lookup applied.target = some review ∧
      review.branchPolicyRevision = policyRevision ∧
      (review.branches.keys.isEmpty = false → review.boundedReviewResultReason
        (result.attributedTo applied.command applied.context) = none) := by
  have policy := applied.commandTypePolicy_of type rfl
  simp only [commandTypePolicy, type] at policy
  obtain ⟨value, reviewID, policyRevision, result, review, payload, parsed, found, rfl, revision,
    decided⟩ := recordReviewResultPolicy_ok policy
  refine ⟨value, policyRevision, result, review, payload, parsed,
    (grown.unmoved _ applied.target_revision).reviews.symm.trans found, revision, ?_⟩
  intro bounded
  rwa [bounded] at decided

theorem attributedBy_event {value : ReviewBranchResultPayload} {reviewID : UUIDv7}
    {policyRevision : Nat} {result : ReviewBranchResult}
    (parsed : value.branchResult = some (reviewID, policyRevision, result)) :
    result.attributedBy applied.event = result.attributedTo applied.command applied.context := by
  obtain ⟨actor, execution⟩ := ReviewBranchResultPayload.branchResult_unattributed parsed
  have fields : applied.event.actorFQN = applied.command.actorFQN ∧
    applied.event.execution = applied.command.execution := ⟨rfl, rfl⟩
  simp only [ReviewBranchResult.attributedBy, fields, actor, execution, Option.or_none]
  rfl

theorem after_result {value : ReviewBranchResultPayload} {policyRevision : Nat}
    {result : ReviewBranchResult} {review : CompletionReviewSnapshot}
    (type : applied.command.commandType = .completionReviewRecordResult)
    (payload : applied.command.payload = .reviewResult value)
    (parsed : value.branchResult = some (applied.target.id, policyRevision, result))
    (found : current.reviews.lookup applied.target = some review)
    (revision : review.branchPolicyRevision = policyRevision) :
    applied.after.reviews.lookup applied.target =
      match review.applyReviewBranchResult (result.recordedBy applied.event) with
      | (next, true) => some next
      | (_, false) => some review := by
  have eventType : applied.event.eventType = .completionReviewResultRecorded :=
    applied.eventType_of type rfl
  have carried : applied.event.payload = .reviewResult value :=
    (applied.event_payload (by simp [type])).trans payload
  have listed : current.reviewBoard.reviews.lookup applied.target = some review := found
  rw [show applied.after.reviews =
    (current.reviewBoard.applyReviewEvent applied.event).reviews from rfl]
  unfold applyReviewEvent
  simp only [eventType, carried, listed, parsed, applied.event_aggregate, bne_self_eq_false,
    revision, Bool.or_self, Bool.false_eq_true, if_false]
  split
  · next valid => simp [valid, ReviewBoard.moved]
  · next invalid => rw [invalid, ReviewBoard.moved, listed]

end AppliedCommand

/-- Whenever a result is recorded, the Mongo store's projection of its event is the previous
review with the result applied as attributed to its command, at the next review revision; the
in-memory store holds that review exactly when the command names neither an actor nor an
execution. -/
theorem recorded_result_projected_iff {evaluator : Evaluator} {shared : Shared Store}
    {copy : Store} {command : KernelCommand} {context : DecisionContext}
    (reached : evaluator.Reachable shared) (taken : copy ∈ shared.copies)
    (applies : evaluator.applies copy shared.current command context = true)
    (type : command.commandType = .completionReviewRecordResult) :
    ∃ value policyRevision result review next event,
      command.payload = .reviewResult value ∧
      value.branchResult = some (command.target.id, policyRevision, result) ∧
      shared.current.reviews.lookup command.target = some review ∧
      review.applyReviewBranchResult (result.attributedTo command context) = (next, true) ∧
      next.reviewRevision = review.reviewRevision + 1 ∧
      (evaluator.update copy shared.current (.decide command context)).events =
        shared.current.events ++ [event] ∧
      review.mongoResult event = some next ∧
      ((evaluator.update copy shared.current (.decide command context)).reviews.lookup
          command.target = some next ↔
        command.actorFQN = none ∧ command.execution = none) := by
  obtain ⟨applied, rfl, rfl, written⟩ := Evaluator.applies_update applies
  obtain ⟨value, policyRevision, result, review, payload, parsed, found, revision, decided⟩ :=
    applied.records_result (reached.growth taken) type
  have formed := reached.reviewsFormed _ _ found
  obtain ⟨next, moved⟩ := formed.applies (decided formed.bounded)
  obtain ⟨kept, advanced⟩ := formed.records moved
  have stored := applied.after_result type payload parsed found revision
  have carried : applied.event.payload = .reviewResult value :=
    (applied.event_payload (by simp [type])).trans payload
  refine ⟨value, policyRevision, result, review, next, applied.event, payload, parsed, found,
    moved, advanced, by rw [written, applied.after_events], ?_, ?_⟩
  · simp [CompletionReviewSnapshot.mongoResult, carried, parsed, revision,
      applied.attributedBy_event parsed, moved]
  · rw [written, show applied.command.target = applied.target from rfl, stored]
    obtain ⟨actor, execution⟩ := ReviewBranchResultPayload.branchResult_unattributed parsed
    constructor
    · intro same
      split at same
      · next other valid =>
        cases same
        have both := (formed.records valid).1.symm.trans kept
        have same := Option.some.inj both
        exact ⟨actor ▸ (congrArg ReviewBranchResult.actorFQN same).symm,
          execution ▸ (congrArg ReviewBranchResult.execution same).symm⟩
      · cases same
        omega
    · rintro ⟨noActor, noExecution⟩
      have unattributed : result.recordedBy applied.event =
          result.attributedTo applied.command applied.context := by
        simp only [ReviewBranchResult.attributedTo, noActor, noExecution, ← actor, ← execution]
        rfl
      simp [unattributed, moved]

namespace Sample

set_option maxRecDepth 4096

def story : AggregateRef := ⟨.story, .number 60⟩

def activeStory : List Entry :=
  [entry registerEvidence, entry registerExecution,
    entry (command 15 .human .storyCreate story create (.unread "")),
    entry (workCommand 16 .policy .storyAuthorize story 1 1 (.unread "")),
    entry (workCommand 17 .policy .storyBeginPlanning story 1 2 (.unread "")),
    entry (workCommand 18 .policy .storyActivate story 1 3 (.unread ""))]

/-- The profile that a review of an epoch is bound to; scope revisions advance with epochs. -/
def reviewedProfile (epoch : Nat) : WorkProfileBinding :=
  { profile.binding with lifecycleEpoch := epoch, scopeRevision := epoch }

def review (epoch : Nat) : AggregateRef := ⟨.completionReview, .number (70 + epoch)⟩

def implementer : WorkExecutionIdentity :=
  ⟨principal .policy, ⟨"t::r-2"⟩, .number 80, 1, .number 0, .number 0, .number 0⟩

def branch (validator : PrincipalRef) (dimensions : List IndependenceDimension) :
    ReviewBranchSpec :=
  ⟨"b", validator, actor, ["a"], [.number 1], 100, 1, dimensions, ["m"]⟩

def openReview (value : Nat) (work : AggregateRef) (epoch expected : Nat)
    (branch : ReviewBranchSpec) : KernelCommand :=
  { command value .policy .completionReviewOpen (review epoch) create (.reviewOpen {
      subjectKind := work.kind
      subjectID := work.id
      lifecycleEpoch := epoch
      criteriaRevision := 1
      evidenceSetDigest := .number epoch
      branchPolicyRevision := 1
      branches := [branch]
      adjudication := ⟨principal .human, 100, 1⟩
      joinRule := .allPass
      partialResultPolicy := .waitAll
      scopeRevision := epoch
      workProfile := reviewedProfile epoch
      candidateArtifactDigest := .number 0
      implementer
      verificationTopologyDigest := .number 0
      variantGroupID := none }) with
    preconditions := [⟨work, revision expected⟩] }

def recordResult (value : Nat) (kind : PrincipalKind) (epoch : Nat)
    (dimensions : List IndependenceDimension) : KernelCommand :=
  { command value kind .completionReviewRecordResult (review epoch) (revision 1)
      (.reviewResult ⟨(review epoch).id, "b", 1, .validator, 1, .pass, [], [.number 1], [], [], [],
        .number 0, ⟨dimensions, .number 0, ["m"], [.number 1]⟩⟩) with
    causation := [⟨.number 1, .causal⟩]
    evidenceRefs := [evidence] }

def opened : Shared Store :=
  (evaluator.script start (activeStory ++
    [entry (openReview 19 story 1 4 (branch (principal .actor) [.actor, .execution]))])).copy

def actorResult : KernelCommand := asActor (recordResult 20 .actor 1 [.actor, .execution])

theorem opened_reachable : evaluator.Reachable opened :=
  ((Evaluator.Reaches.start policy .none).script fun _ _ _ _ => trivial).copy

theorem opened_taken : opened.current ∈ opened.copies := Shared.current_copied _

/-- The result is applied and its event is kept, and the review has no result. -/
theorem actor_result_unprojected :
    evaluator.Reachable opened ∧ opened.current ∈ opened.copies ∧
      evaluator.applies opened.current opened.current actorResult (context 20) = true ∧
      ((evaluator.update opened.current opened.current
          (.decide actorResult (context 20))).events.map (·.eventID)).contains (.number 20) ∧
      ((evaluator.update opened.current opened.current
          (.decide actorResult (context 20))).reviews.lookup (review 1)).map
        (fun review => (review.reviewRevision, review.resultRecords.keys)) = some (1, []) :=
  ⟨opened_reachable, opened_taken, by decide⟩

theorem actor_result_projected_iff :
    ∃ value policyRevision result review next event,
      actorResult.payload = .reviewResult value ∧
      value.branchResult = some (actorResult.target.id, policyRevision, result) ∧
      opened.current.reviews.lookup actorResult.target = some review ∧
      review.applyReviewBranchResult (result.attributedTo actorResult (context 20)) = (next, true) ∧
      next.reviewRevision = review.reviewRevision + 1 ∧
      (evaluator.update opened.current opened.current
        (.decide actorResult (context 20))).events = opened.current.events ++ [event] ∧
      review.mongoResult event = some next ∧
      ((evaluator.update opened.current opened.current
          (.decide actorResult (context 20))).reviews.lookup actorResult.target = some next ↔
        actorResult.actorFQN = none ∧ actorResult.execution = none) := by
  have applies : evaluator.applies opened.current opened.current actorResult (context 20) =
    true := by decide
  exact recorded_result_projected_iff opened_reachable opened_taken applies rfl

end Sample

end Tekroo.Kernel
