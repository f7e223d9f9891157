import Tekroo.Properties.MongoRuns
import Tekroo.Properties.Release

namespace Tekroo.Kernel

open Lib Store

/-! # Work is completed on a review that passed -/

theorem lookup_collectFindings (findings : List ReviewFinding)
    (known : Table Digest ReviewFinding) (key : Digest) :
    (findings.foldl
        (fun known finding => if finding.findingKey ∈ known then known
          else known.insert finding.findingKey finding) known).lookup key =
      (known.lookup key).or (findings.find? fun finding => finding.findingKey == key) := by
  induction findings generalizing known with
  | nil => simp
  | cons finding rest induction =>
    rw [List.foldl_cons, induction, List.find?_cons]
    by_cases same : finding.findingKey = key
    · subst same
      cases found : known.lookup finding.findingKey <;> simp [← AList.lookup_isSome, found]
    · split <;> simp [AList.lookup_insert_ne (Ne.symm same), beq_eq_false_iff_ne.mpr same]

theorem lookup_currentFindingSet {records : Table String ReviewBranchResult}
    {findings : Table Digest ReviewFinding} (collected : currentFindingSet records = some findings)
    (key : Digest) (finding : ReviewFinding) :
    findings.lookup key = some finding ↔ finding.findingKey = key ∧
      ∃ branch result, records.lookup branch = some result ∧ finding ∈ result.findings := by
  simp only [currentFindingSet, tests_iff] at collected
  obtain ⟨agree, rfl⟩ := collected
  have member : finding ∈ records.entries.flatMap (·.2.findings) ↔
      ∃ branch result, records.lookup branch = some result ∧ finding ∈ result.findings := by
    simp only [List.mem_flatMap, Sigma.exists, ← AList.mem_lookup_iff, Option.mem_def]
  rw [← member, lookup_collectFindings, AList.lookup_empty, Option.none_or]
  constructor
  · intro found
    exact ⟨by simpa using List.find?_some found, List.mem_of_find?_eq_some found⟩
  · rintro ⟨rfl, listed⟩
    cases found : (records.entries.flatMap (·.2.findings)).find? fun other =>
      other.findingKey == finding.findingKey with
    | none => simpa using List.find?_eq_none.mp found finding listed
    | some other =>
      have same : other.findingKey = finding.findingKey := by simpa using List.find?_some found
      rcases agree finding listed other (List.mem_of_find?_eq_some found) with differ | equal
      · exact absurd same differ
      · rw [equal]

/-- The result is a pass by somebody who is entitled to report it, with every dimension of
independence that the branch requires proven. -/
structure CompletionReviewSnapshot.PassedBy (review : CompletionReviewSnapshot)
    (spec : ReviewBranchSpec) (result : ReviewBranchResult) : Prop where
  pass : result.result = .pass
  entitled : result.sourceRole = .validator ∧ result.authority = spec.validator ∨
    result.sourceRole = .adjudicator ∧ result.authority = review.adjudication.adjudicator
  proven : result.independenceReceipt.proves spec.requiredIndependenceDimensions
    spec.requiredMethodIDs = true
  separated : requiredSeparationProven review.implementer result.authority result.actorFQN
    result.execution spec.requiredIndependenceDimensions result.independenceReceipt = true

namespace CompletionReviewSnapshot

structure Audited (review : CompletionReviewSnapshot) : Prop extends Formed review where
  topology : review.subject.kind = .story ∨ review.subject.kind = .task →
    review.topologyBound = true
  specified : ∀ branch ∈ review.requiredBranchIDs,
    ∃ spec, review.branches.lookup branch = some spec
  passes : ∀ branch result, review.resultRecords.lookup branch = some result →
    ∀ spec, review.branches.lookup branch = some spec → review.topologyBound = true →
    result.result = .pass → review.PassedBy spec result
  mirrored : ∀ branch,
    review.results.lookup branch = (review.resultRecords.lookup branch).map (·.result)
  joined : review.join.complete = true → review.join = review.joinResults review.results
  collected : currentFindingSet review.resultRecords = some review.currentFindings
  finalized : ∀ finalization, review.finalization = some finalization →
    review.join = ⟨true, .terminal finalization.terminalStatus⟩

variable {review next : CompletionReviewSnapshot} {result : ReviewBranchResult}

theorem Takes.passedBy {spec : ReviewBranchSpec} (takes : review.Takes result spec)
    (bound : review.topologyBound = true) (pass : result.result = .pass) :
    review.PassedBy spec result := by
  rcases sourceRoleReason_none takes.source with
    ⟨role, authority, _⟩ | ⟨role, authority, _⟩ | ⟨_, other⟩
  · obtain ⟨proven, separated⟩ := takes.independent bound (by simp [role])
    exact ⟨pass, .inl ⟨role, authority⟩, proven, separated⟩
  · obtain ⟨proven, separated⟩ := takes.independent bound (by simp [role])
    exact ⟨pass, .inr ⟨role, authority⟩, proven, separated⟩
  · exact absurd pass other

theorem Audited.passed (audited : review.Audited) {finalization : ReviewFinalization}
    (finalized : review.finalization = some finalization)
    (pass : finalization.terminalStatus = .pass)
    (work : review.subject.kind = .story ∨ review.subject.kind = .task) :
    ∀ branch ∈ review.requiredBranchIDs, ∃ spec result,
      review.branches.lookup branch = some spec ∧
      review.resultRecords.lookup branch = some result ∧ review.PassedBy spec result := by
  intro branch required
  have join := audited.finalized finalization finalized
  have joined := audited.joined (by rw [join])
  rw [join, pass] at joined
  obtain ⟨⟨name, status⟩, listed, same⟩ :=
    List.mem_map.mp (evaluateReviewJoin_pass joined.symm required)
  obtain ⟨rfl, rfl⟩ : name = branch ∧ status = .pass := Prod.mk.inj same
  have mirrored := audited.mirrored name
  rw [AList.mem_lookup_iff.mpr listed] at mirrored
  obtain ⟨result, recorded, passed⟩ := Option.map_eq_some_iff.mp mirrored.symm
  obtain ⟨spec, specified⟩ := audited.specified name required
  exact ⟨spec, result, specified, recorded,
    audited.passes name result recorded spec specified (audited.topology work) passed⟩

theorem Audited.applied (audited : review.Audited)
    (applied : review.applyReviewBranchResult result = (next, true)) :
    review.finalization = none ∧ next.finalization = none ∧ next.Audited := by
  have formed := audited.toFormed.applied result
  rw [applied] at formed
  simp only [applyReviewBranchResult, audited.bounded, Bool.not_false, if_true,
    applyBoundedReviewBranchResult] at applied
  split at applied
  · simp at applied
  next free =>
  obtain ⟨spec, takes⟩ := boundedReviewResultReason_none (by simpa using free)
  obtain ⟨collected, found⟩ := Option.isSome_iff_exists.mp takes.findings
  simp only [Prod.mk.injEq] at applied
  obtain ⟨rfl, _⟩ := applied
  refine ⟨takes.pending, takes.pending, { audited with
    toFormed := formed
    passes := fun branch recorded known spec specified bound pass => ?_
    mirrored := fun branch => ?_
    joined := fun _ => rfl
    collected := by rw [found, Option.getD_some]
    finalized := fun finalization finalized => by simp [takes.pending] at finalized }⟩
  · rw [lookup_insert_eq_ite] at known
    split at known
    · next same =>
      cases known
      have equal := Option.some.inj (specified.symm.trans (same ▸ takes.branch))
      obtain ⟨pass, entitled, proven, separated⟩ := (equal ▸ takes).passedBy bound pass
      exact ⟨pass, entitled, proven, separated⟩
    · obtain ⟨pass, entitled, proven, separated⟩ :=
        audited.passes branch recorded known spec specified bound pass
      exact ⟨pass, entitled, proven, separated⟩
  · simp only [lookup_insert_eq_ite]
    split
    · rfl
    · exact audited.mirrored branch

theorem Audited.finalization (audited : review.Audited) {eventID : UUIDv7}
    {value : ReviewFinalizePayload}
    (moved : review.applyReviewFinalization eventID value = (next, true)) :
    review.finalization = none ∧
      (∃ finalization, next.finalization = some finalization ∧
        finalization.eventID = eventID) ∧ next.Audited := by
  have formed := audited.toFormed.finalized eventID value
  rw [moved] at formed
  simp only [applyReviewFinalization] at moved
  split at moved
  · next checked =>
    simp only [tests_iff, Option.isNone_iff_eq_none] at checked
    obtain ⟨rfl, _⟩ := Prod.mk.inj moved
    have join : review.join = ⟨true, .terminal value.terminalStatus⟩ := by
      cases joined : review.join
      simp_all
    refine ⟨checked.1.1.1.1.1.1.1.1.1.1.2, ⟨_, rfl, rfl⟩, { audited with
      toFormed := formed
      passes := fun branch recorded known spec specified bound pass => ?_
      finalized := fun finalization finalized => ?_ }⟩
    · obtain ⟨pass, entitled, proven, separated⟩ :=
        audited.passes branch recorded known spec specified bound pass
      exact ⟨pass, entitled, proven, separated⟩
    · cases finalized
      exact join
  · simp at moved

end CompletionReviewSnapshot

theorem CompletionReviewOpenPayload.review_audited {value : CompletionReviewOpenPayload}
    {review : CompletionReviewSnapshot} (opened : value.review = some review)
    (bounded : value.branches ≠ [])
    (scopes : value.subject.kind = .story ∨ value.subject.kind = .task →
      0 < review.scopeRevision) (reviewID : UUIDv7) :
    { review with reviewID }.Audited ∧ review.finalization = none := by
  have formed := CompletionReviewOpenPayload.review_formed opened bounded reviewID
  have table := CompletionReviewOpenPayload.review_branches opened
  simp only [CompletionReviewOpenPayload.review, tests_iff] at opened
  obtain ⟨_, rfl⟩ := opened
  refine ⟨{
    toFormed := formed
    topology := fun work => by simp [topologyBound, scopes work]
    specified := fun branch required => ?_
    passes := fun branch result known => by simp at known
    mirrored := fun branch => by simp
    joined := fun complete => by simp [evaluateReviewJoin_nil] at complete
    collected := rfl
    finalized := fun finalization finalized => by simp at finalized }, rfl⟩
  have listed : branch ∈ value.branches.map (·.branchID) := by
    have member := (List.perm_insertionSort (· ≤ ·) value.required).mem_iff.mp required
    simpa [CompletionReviewOpenPayload.required, bounded] using member
  obtain ⟨spec, member, rfl⟩ := List.mem_map.mp listed
  refine Option.isSome_iff_exists.mp (AList.lookup_isSome.mpr ?_)
  rw [table]
  exact (mem_insertAll _).mpr
    (.inr ⟨_, List.mem_map_of_mem member, rfl⟩)

def DomainEvent.recordsResult (event : DomainEvent) (review : AggregateRef) : Bool :=
  event.eventType == .completionReviewResultRecorded && event.aggregate == review

def Store.resultSince (store : Store) (eventID : UUIDv7) (review : AggregateRef) : Bool :=
  (since (fun event => event.eventID == eventID) store.events).any fun event =>
    event.recordsResult review

structure Store.Sealed (store : Store) (review : AggregateRef)
    (finalization : ReviewFinalization) : Prop where
  logged : ∃ event ∈ store.events, event.eventID = finalization.eventID
  last : store.resultSince finalization.eventID review = false

structure Store.Audited (store : Store) : Prop where
  scopes : ∀ reference state, reference.kind = .story ∨ reference.kind = .task →
    store.states.lookup reference = some state → 0 < state.scopeRevision
  reviews : ∀ reference review, store.reviews.lookup reference = some review → review.Audited
  finalized : ∀ reference review finalization, store.reviews.lookup reference = some review →
    review.finalization = some finalization → store.Sealed reference finalization

def Store.KeepsFinalized (before after : Store) : Prop :=
  ∀ reference review, before.reviews.lookup reference = some review →
    review.finalization.isSome = true → after.reviews.lookup reference = some review

theorem Store.Audited.congr {before after : Store} (same : before.SameWork after)
    (audited : before.Audited) : after.Audited where
  scopes := same.states ▸ audited.scopes
  reviews := same.reviews ▸ audited.reviews
  finalized := fun reference review finalization found finalized => by
    rw [same.reviews] at found
    obtain ⟨logged, last⟩ := audited.finalized reference review finalization found finalized
    rw [resultSince] at last
    exact ⟨same.events ▸ logged, by rw [resultSince, same.events, last]⟩

namespace ProjectedCommand

variable {evaluator : Evaluator} {copy current : Store}
  (projected : ProjectedCommand evaluator copy current)

theorem opens_review (grown : copy.Extends current)
    (type : projected.command.commandType = .completionReviewOpen) :
    ∃ value review state, projected.event.payload = .reviewOpen value ∧
      value.branches ≠ [] ∧ value.review = some review ∧
      current.states.lookup value.subject = some state ∧
      review.scopeRevision = state.scopeRevision := by
  have policy := projected.commandTypePolicy_of type rfl
  simp only [commandTypePolicy, type] at policy
  obtain ⟨value, _, review, related, state, payload, _, _, opened, found, stored, scope⟩ :=
    openReviewPolicy_ok policy
  obtain ⟨rfl, named⟩ := projected.related_lookup found
  have format := projected.format
  rw [payload] at format
  simp only [Payload.hasFormat, tests_iff, List.isEmpty_eq_false_iff] at format
  refine ⟨value, review, state, (projected.event_payload (by simp [type])).trans payload,
    format.1, opened, ?_, scope⟩
  exact (grown.unmoved _ (projected.pinned named)).states.symm.trans stored

/-- A review after the command is the one before it, for which no result was recorded, or has
just moved; only the command's own event finalizes it then. -/
theorem review_cases (grown : copy.Extends current) (audited : current.Audited)
    {reference : AggregateRef} {review : CompletionReviewSnapshot}
    (found : projected.result.reviews.lookup reference = some review) :
    (current.reviews.lookup reference = some review ∧
        projected.event.recordsResult reference = false) ∨
      (review.Audited ∧ ∀ finalization, review.finalization = some finalization →
        finalization.eventID = projected.event.eventID) := by
  by_cases target : reference = projected.target
  · subst target
    have moves := projected.moves
    rw [found] at moves
    generalize earlier : current.reviews.lookup projected.target = before at moves
    cases moves with
    | @opened value review eventType payload opening =>
      obtain ⟨_, _, state, carried, bounded, opened, stored, scope⟩ :=
        projected.opens_review grown (projected.commandType_of eventType rfl)
      rw [carried] at payload
      cases payload
      rw [opening] at opened
      cases opened
      obtain ⟨audited, pending⟩ := CompletionReviewOpenPayload.review_audited opening bounded
        (fun work => scope ▸ audited.scopes _ _ work stored) projected.event.aggregate.id
      exact .inr ⟨audited, fun finalization finalized => by simp [pending] at finalized⟩
    | recorded eventType moved =>
      obtain ⟨_, _, _, _, _, _, applied⟩ := CompletionReviewSnapshot.mongoResult_ok moved
      obtain ⟨_, pending, kept⟩ := (audited.reviews _ _ earlier).applied applied
      exact .inr ⟨kept, fun finalization finalized => by simp [pending] at finalized⟩
    | finalized eventType payload moved =>
      obtain ⟨_, ⟨finalization, finalized, eventID⟩, kept⟩ :=
        (audited.reviews _ _ earlier).finalization moved
      refine .inr ⟨kept, fun other same => ?_⟩
      rw [finalized] at same
      cases same
      exact eventID
    | kept eventType =>
      exact .inl ⟨rfl, by simp [DomainEvent.recordsResult, eventType]⟩
  · rw [projected.result_reviews target] at found
    refine .inl ⟨found, ?_⟩
    simp [DomainEvent.recordsResult, Ne.symm target]

theorem audited (grown : copy.Extends current) (states : current.StatesCurrent)
    (audited : current.Audited) : projected.result.Audited where
  scopes := fun reference state work found => by
    rw [show projected.result.states = projected.toAppliedCommand.after.states from rfl,
      projected.after_states] at found
    split at found
    · next target =>
      subst target
      have evolved := projected.admitted.evolved
      cases next : projected.acceptance.nextState with
      | none =>
        rw [next, Option.none_or] at found
        exact audited.scopes _ _ work found
      | some moved =>
        rw [next, Option.some_or] at found
        cases found
        rw [next] at evolved
        refine evolveState_scope (projected.forWork work) evolved fun state loaded => ?_
        exact audited.scopes _ _ work
          ((projected.snapshot_state grown states).symm.trans loaded)
    · exact audited.scopes _ _ work found
  reviews := fun reference review found => by
    rcases projected.review_cases grown audited found with ⟨same, _⟩ | ⟨moved, _⟩
    · exact audited.reviews _ _ same
    · exact moved
  finalized := fun reference review finalization found finalized => by
    have events : projected.result.events = current.events ++ [projected.event] := rfl
    rcases projected.review_cases grown audited found with ⟨same, unrecorded⟩ | ⟨_, own⟩
    · obtain ⟨⟨event, member, eventID⟩, last⟩ :=
        audited.finalized _ _ _ same finalized
      refine ⟨⟨event, by simp [events, member], eventID⟩, ?_⟩
      rw [resultSince] at last
      rw [resultSince, events, since_append _ ⟨event, member, by simp [eventID]⟩]
      simp [last, unrecorded]
    · have eventID := own finalization finalized
      refine ⟨⟨projected.event, by simp [events], eventID.symm⟩, ?_⟩
      rw [resultSince, events, eventID, since_append_start
        (fun event member => by simpa using projected.event_notMem member) (by simp)]
      rfl

theorem keepsFinalized (audited : current.Audited) : current.KeepsFinalized projected.result := by
  intro reference review found finalized
  by_cases target : reference = projected.target
  · subst target
    have moves := projected.moves
    rw [found] at moves
    generalize projected.result.reviews.lookup projected.target = after at moves ⊢
    cases moves with
    | recorded eventType moved =>
      obtain ⟨_, _, _, _, _, _, applied⟩ := CompletionReviewSnapshot.mongoResult_ok moved
      simp [((audited.reviews _ _ found).applied applied).1] at finalized
    | finalized eventType payload moved =>
      simp [((audited.reviews _ _ found).finalization moved).1] at finalized
    | kept eventType => rfl
  · exact (projected.result_reviews target).trans found

end ProjectedCommand

namespace Evaluator.MongoReaches

variable {evaluator : Evaluator} {shared : Shared Store} {copy : Store}

theorem audited (reached : evaluator.MongoReaches shared) : shared.current.Audited :=
  reached.holds
    (fun _ _ => ⟨by simp [new], by simp [new], by simp [new]⟩)
    Store.Audited.congr
    (fun projected reached taken audited =>
      projected.audited (reached.growth taken) reached.statesCurrent audited)

theorem keeps_finalized (reached : evaluator.MongoReaches shared) (taken : copy ∈ shared.copies)
    {reference : AggregateRef} {review : CompletionReviewSnapshot}
    (found : copy.reviews.lookup reference = some review)
    (finalized : review.finalization.isSome = true) :
    shared.current.reviews.lookup reference = some review := by
  have kept : copy.KeepsFinalized shared.current :=
    reached.grows (fun _ _ _ found _ => found)
      (fun left right reference review found finalized =>
        right _ _ (left _ _ found finalized) finalized)
      (fun same _ _ found _ => same.reviews ▸ found)
      (fun projected reached _ => projected.keepsFinalized reached.audited) taken
  exact kept _ _ found finalized

end Evaluator.MongoReaches

/-- The review that a request for completion cites. -/
def KernelCommand.Cites (command : KernelCommand) (review : AggregateRef) : Prop :=
  ∃ value, command.payload = .requestCompletion value ∧
    review = ⟨.completionReview, value.completionReviewID⟩

theorem KernelCommand.Cites.unique {command : KernelCommand} {review other : AggregateRef}
    (cites : command.Cites review) (also : command.Cites other) : other = review := by
  obtain ⟨value, payload, rfl⟩ := cites
  obtain ⟨value, same, rfl⟩ := also
  cases payload.symm.trans same
  rfl

/-- The review of an item in an epoch was finalized as passed.  Every branch that it requires
has a pass, its open findings are those that its results carry, and no result was accepted after
the finalization. -/
structure Store.PassedReview (store : Store) (item : AggregateRef) (epoch : Nat)
    (reference : AggregateRef) (review : CompletionReviewSnapshot)
    (finalization : ReviewFinalization) : Prop where
  stored : store.reviews.lookup reference = some review
  subject : review.subject = item
  epoch : review.lifecycleEpoch = epoch
  finalized : review.finalization = some finalization
  pass : finalization.terminalStatus = .pass
  branches : ∀ branch ∈ review.requiredBranchIDs, ∃ spec result,
    review.branches.lookup branch = some spec ∧
    review.resultRecords.lookup branch = some result ∧ review.PassedBy spec result
  findings : ∀ key finding, review.currentFindings.lookup key = some finding ↔
    finding.findingKey = key ∧ ∃ branch result,
      review.resultRecords.lookup branch = some result ∧ finding ∈ result.findings
  closed : store.Sealed reference finalization

theorem AppliedCommand.completes {evaluator : Evaluator} {copy current : Store}
    (applied : AppliedCommand evaluator copy current)
    (type : applied.command.commandType = .taskRequestCompletion ∨
      applied.command.commandType = .storyRequestCompletion) :
    (applied.target.kind = .story ∨ applied.target.kind = .task) ∧
      ∃ value state, applied.command.payload = .requestCompletion value ∧
        applied.snapshot.state = some state ∧ state.lifecycleEpoch = value.lifecycleEpoch ∧
        acceptedFinalizedReview value applied.target applied.snapshot = true := by
  have work : applied.target.kind = .story ∨ applied.target.kind = .task := by
    rcases type with type | type
    · exact .inr (applied.target_kind type rfl)
    · exact .inl (applied.target_kind type rfl)
  have required : commandRequiresLifecycleEpoch applied.command = true := by
    rcases type with type | type <;>
      simpa [commandRequiresLifecycleEpoch, type, AcceptedCommand.target] using work
  have policy : commandTypePolicy applied.command applied.snapshot applied.granted = .ok () := by
    rcases type with type | type <;> exact applied.commandTypePolicy_of type rfl
  obtain ⟨value, payload, accepted⟩ := requestCompletionPolicy_ok type policy
  have expected := validateCommandPolicy_epoch applied.admitted.policy required
    (by rw [payload]; rfl)
  have epoch := applied.admitted.epoch
  simp only [expectedLifecycleEpochMatches, required, if_true, tests_iff,
    Option.any_eq_true] at epoch
  obtain ⟨_, state, loaded, same⟩ := epoch
  rw [expected] at same
  exact ⟨work, value, state, payload, loaded, (Option.some.inj same).symm, accepted⟩

/-- Whenever a task or a story is completed, the one review that the command cites is of that
item and its current epoch and was finalized as passed. -/
theorem completion_review_passed {evaluator : Evaluator} {shared : Shared Store} {copy : Store}
    {command : KernelCommand} {context : DecisionContext}
    (reached : evaluator.MongoReaches shared) (taken : copy ∈ shared.copies)
    (applies : evaluator.mongoApplies copy shared.current command context = true)
    (type : command.commandType = .taskRequestCompletion ∨
      command.commandType = .storyRequestCompletion) :
    ∃ state, shared.current.states.lookup command.target = some state ∧
      ∃! reference, command.Cites reference ∧ ∃ review finalization,
        shared.current.PassedReview command.target state.lifecycleEpoch reference review
          finalization := by
  obtain ⟨projected, rfl, rfl, _⟩ := Evaluator.mongoApplies_update applies
  obtain ⟨work, value, state, payload, loaded, epoch, accepted⟩ :=
    projected.toAppliedCommand.completes type
  obtain ⟨review, finalization, found, subject, reviewed, finalized, pass⟩ :=
    acceptedFinalizedReview_ok accepted
  have stored := (projected.snapshot_state (reached.growth taken) reached.statesCurrent).symm.trans
    loaded
  have kept := reached.keeps_finalized taken found (by rw [finalized]; rfl)
  have audited := reached.audited.reviews _ _ kept
  have cites : projected.command.Cites ⟨.completionReview, value.completionReviewID⟩ :=
    ⟨value, payload, rfl⟩
  refine ⟨state, stored, ⟨.completionReview, value.completionReviewID⟩,
    ⟨cites, review, finalization, ?_⟩, fun other also => cites.unique also.1⟩
  exact {
    stored := kept
    subject
    epoch := reviewed.trans epoch.symm
    finalized
    pass
    branches := audited.passed finalized pass (by rw [subject]; exact work)
    findings := lookup_currentFindingSet audited.collected
    closed := reached.audited.finalized _ _ _ kept finalized }

namespace Evaluator

def mongoPerform (evaluator : Evaluator) (shared : Shared Store) (entry : Entry) : Shared Store :=
  shared.copy.apply evaluator.mongoUpdate shared.current (.decide entry.command entry.context)

def mongoScript (evaluator : Evaluator) (shared : Shared Store) (entries : List Entry) :
    Shared Store :=
  entries.foldl evaluator.mongoPerform shared

theorem MongoReaches.script {evaluator : Evaluator} {shared : Shared Store}
    {entries : List Entry} (reached : evaluator.MongoReaches shared) :
    evaluator.MongoReaches (evaluator.mongoScript shared entries) := by
  induction entries generalizing shared with
  | nil => exact reached
  | cons entry rest induction =>
    obtain ⟨policy, faultPoint, run⟩ := reached
    exact induction ⟨policy, faultPoint,
      run.copy.update (List.mem_append.mpr (.inr List.mem_cons_self)) trivial⟩

end Evaluator

namespace Sample

set_option maxRecDepth 4096

def defect : ReviewFinding := ⟨.number 50, .number 50, "DEFECT", "s", [.number 1]⟩

def passWithDefect : KernelCommand :=
  match asActor (recordResult 20 .actor 1 [.actor, .execution]) with
  | command =>
    match command.payload with
    | .reviewResult value =>
      { command with payload := .reviewResult { value with findings := [defect] } }
    | _ => command

def reviewedWithDefect : Shared Store :=
  (evaluator.mongoScript start (activeStory ++
    [entry (openReview 19 story 1 4 (branch (principal .actor) [.actor, .execution])),
      entry passWithDefect, entry (finalizeReview 21 story 1 20)])).copy

def completeStory : KernelCommand :=
  requestCompletion 22 .human .storyRequestCompletion story 1 4 21

theorem reviewedWithDefect_reached : evaluator.MongoReaches reviewedWithDefect := by
  obtain ⟨policy, faultPoint, run⟩ := Evaluator.MongoReaches.script ⟨policy, .none, .refl⟩
  exact ⟨policy, faultPoint, run.copy⟩

/-- The story is completed although its review has an open finding. -/
theorem completed_with_defect :
    evaluator.MongoReaches reviewedWithDefect ∧
      reviewedWithDefect.current ∈ reviewedWithDefect.copies ∧
      evaluator.mongoApplies reviewedWithDefect.current reviewedWithDefect.current completeStory
        (context 22) = true ∧
      completeStory.Cites (review 1) ∧
      (reviewedWithDefect.current.reviews.lookup (review 1)).map
        (fun review => review.currentFindings.lookup (.number 50)) = some (some defect) :=
  ⟨reviewedWithDefect_reached, Shared.current_copied _, by decide, ⟨_, rfl, rfl⟩, by decide⟩

theorem defect_review_passed :
    ∃ state, reviewedWithDefect.current.states.lookup story = some state ∧
      ∃! reference, completeStory.Cites reference ∧ ∃ review finalization,
        reviewedWithDefect.current.PassedReview story state.lifecycleEpoch reference review
          finalization := by
  have applies : evaluator.mongoApplies reviewedWithDefect.current reviewedWithDefect.current
    completeStory (context 22) = true := by decide
  exact completion_review_passed reviewedWithDefect_reached (Shared.current_copied _) applies
    (.inr rfl)

end Sample

end Tekroo.Kernel
