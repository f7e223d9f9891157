import Mathlib.Algebra.GroupWithZero.Nat
import Mathlib.Logic.Relation
import Tekroo.Properties.Reviews

namespace Tekroo.Kernel

open Lib CompletionReviewOpenPayload

/-! # How often a review is iterated

`BoundedReviewResultReason` compares the round of a result with the latest result of its branch
only, and only when both come from the same source.
-/

/-- The branch, the source and the round of a recorded result. -/
abbrev ReviewSlot := String × ReviewSourceRole × Nat

def DomainEvent.reviewSlot (event : DomainEvent) : Option ReviewSlot :=
  match event.payload with
  | .reviewResult value => some (value.branchID, value.sourceRole, value.round)
  | _ => none

/-- A later result of the same branch and source is of a higher round. -/
def DomainEvent.Advances (earlier later : DomainEvent) : Prop :=
  ∀ branch role round next, earlier.reviewSlot = some (branch, role, round) →
    later.reviewSlot = some (branch, role, next) → round < next

/-- The review after a sequence of results, each of which it accepts. -/
def CompletionReviewSnapshot.recordResults (review : CompletionReviewSnapshot)
    (events : List DomainEvent) : Option CompletionReviewSnapshot :=
  events.foldlM mongoResult review

namespace CompletionReviewOpenPayload

variable (value : CompletionReviewOpenPayload)

/-- The slots that a branch policy has room for.  A timeout has no round limit of its own; no
payload has a round above 1000. -/
def resultSlots : List ReviewSlot :=
  value.branches.flatMap fun branch =>
    (List.range' 1 branch.roundLimit).map (fun round => (branch.branchID, .validator, round)) ++
    (List.range' 1 value.adjudication.roundLimit).map
      (fun round => (branch.branchID, .adjudicator, round)) ++
    (List.range' 1 1000).map (fun round => (branch.branchID, .policyTimeout, round))

def resultBound : Nat :=
  (value.branches.map fun branch =>
    branch.roundLimit + value.adjudication.roundLimit + 1000).sum

theorem length_resultSlots : value.resultSlots.length = value.resultBound := by
  simp [resultSlots, resultBound, List.length_flatMap, Nat.add_assoc]

end CompletionReviewOpenPayload

/-- The review has the branch policy it was opened with. -/
structure CompletionReviewOpenPayload.Governs (value : CompletionReviewOpenPayload)
    (review : CompletionReviewSnapshot) : Prop where
  bounded : review.branches.keys.isEmpty = false
  branches : ∀ branch spec, review.branches.lookup branch = some spec →
    ∃ listed ∈ value.branches, listed.branchID = branch ∧ listed.roundLimit = spec.roundLimit
  adjudication : review.adjudication = value.adjudication

namespace CompletionReviewSnapshot

variable {review next : CompletionReviewSnapshot} {result : ReviewBranchResult}
  {event : DomainEvent} {value : CompletionReviewOpenPayload}

theorem branchResult_slot {payload : ReviewBranchResultPayload} {reviewID : UUIDv7}
    {policyRevision : Nat}
    (parsed : payload.branchResult = some (reviewID, policyRevision, result)) :
    result.branchID = payload.branchID ∧ result.sourceRole = payload.sourceRole ∧
      result.round = payload.round ∧
      (payload.sourceRole = .other "" ∨ payload.round ≤ 1000) := by
  simp only [ReviewBranchResultPayload.branchResult, tests_iff, Prod.mk.injEq,
    ReviewBranchResultPayload.validBounded] at parsed
  obtain ⟨⟨_, bounded⟩, _, _, rfl⟩ := parsed
  exact ⟨rfl, rfl, rfl, bounded.imp id fun checked => checked.1.1.1.2⟩

variable (governs : value.Governs review)

include governs

theorem mem_resultSlots (free : review.boundedReviewResultReason result = none)
    (bounded : result.sourceRole = .other "" ∨ result.round ≤ 1000) :
    (result.branchID, result.sourceRole, result.round) ∈ value.resultSlots := by
  obtain ⟨spec, takes⟩ := boundedReviewResultReason_none free
  have positive := takes.round
  obtain ⟨listed, member, named, limit⟩ := governs.branches _ _ takes.branch
  simp only [resultSlots, List.mem_flatMap, List.mem_append,
    List.mem_map, List.mem_range'_1, Prod.mk.injEq]
  refine ⟨listed, member, ?_⟩
  rcases sourceRoleReason_none takes.source with ⟨role, _, most⟩ | ⟨role, _, most⟩ | ⟨role, _⟩
  · exact .inl (.inl ⟨result.round, by omega, named, role.symm, rfl⟩)
  · rw [governs.adjudication] at most
    exact .inl (.inr ⟨result.round, by omega, named, role.symm, rfl⟩)
  · have most : result.round ≤ 1000 := by simpa [role] using bounded
    exact .inr ⟨result.round, by omega, named, role.symm, rfl⟩

theorem accepts_slot (moved : review.mongoResult event = some next) :
    (∃ slot ∈ value.resultSlots, event.reviewSlot = some slot) ∧ value.Governs next := by
  obtain ⟨payload, reviewID, policyRevision, result, carried, parsed, applied⟩ :=
    mongoResult_ok moved
  simp only [applyReviewBranchResult, governs.bounded, Bool.not_false, if_true,
    applyBoundedReviewBranchResult] at applied
  split at applied
  · simp at applied
  · next free =>
    obtain ⟨branch, role, round, bounded⟩ := branchResult_slot parsed
    have slot := mem_resultSlots governs (Option.isNone_iff_eq_none.mp (by simpa using free))
      (by rw [← role, ← round] at bounded; exact bounded)
    simp only [Prod.mk.injEq] at applied
    obtain ⟨rfl, _⟩ := applied
    refine ⟨⟨_, slot, ?_⟩, governs.bounded, governs.branches, governs.adjudication⟩
    simp [DomainEvent.reviewSlot, carried, ReviewBranchResult.attributedBy,
      ReviewBranchResult.recordedBy, branch, role, round]

theorem recordResults_slots {events : List DomainEvent}
    (recorded : review.recordResults events = some next) :
    ∀ event ∈ events, ∃ slot ∈ value.resultSlots, event.reviewSlot = some slot := by
  induction events generalizing review with
  | nil => simp
  | cons event rest induction =>
    simp only [recordResults, List.foldlM_cons, Option.bind_eq_bind,
      Option.bind_eq_some_iff] at recorded
    obtain ⟨between, first, remaining⟩ := recorded
    obtain ⟨slot, kept⟩ := accepts_slot governs first
    intro other member
    rcases List.mem_cons.mp member with rfl | later
    · exact slot
    · exact induction kept remaining other later

end CompletionReviewSnapshot

theorem CompletionReviewOpenPayload.review_governs {value : CompletionReviewOpenPayload}
    {review : CompletionReviewSnapshot} (opened : value.review = some review)
    (bounded : value.branches ≠ []) (reviewID : UUIDv7) :
    value.Governs { review with reviewID } := by
  have formed := review_formed opened bounded reviewID
  refine ⟨formed.bounded, fun branch spec found => ?_, ?_⟩
  · obtain absurd | listed := lookup_insertAll_some
      (review_branches opened ▸ found)
    · simp at absurd
    · obtain ⟨opening, member, same⟩ := List.mem_map.mp listed
      obtain ⟨rfl, rfl⟩ := Prod.mk.inj same
      exact ⟨opening, member, rfl, rfl⟩
  · simp only [CompletionReviewOpenPayload.review, tests_iff] at opened
    obtain ⟨_, rfl⟩ := opened
    rfl

/-- As long as every result of a branch and a source has a higher round than the earlier ones,
the branch policy bounds the number of results that are accepted. -/
theorem review_results_bounded {value : CompletionReviewOpenPayload} {reviewID : UUIDv7}
    {review final : CompletionReviewSnapshot} {events : List DomainEvent}
    (format : (Payload.reviewOpen value).hasFormat = true) (opened : value.review = some review)
    (recorded : { review with reviewID }.recordResults events = some final)
    (advancing : events.Pairwise DomainEvent.Advances) :
    events.length ≤ value.resultBound := by
  have bounded : value.branches ≠ [] := by
    simp only [Payload.hasFormat, tests_iff, List.isEmpty_eq_false_iff] at format
    exact format.1
  have slots := CompletionReviewSnapshot.recordResults_slots
    (review_governs opened bounded reviewID) recorded
  have distinct : (events.map DomainEvent.reviewSlot).Nodup := by
    rw [List.Nodup, List.pairwise_map]
    refine advancing.imp_of_mem fun {earlier later} first _ advances same => ?_
    obtain ⟨⟨branch, role, round⟩, _, taken⟩ := slots earlier first
    exact Nat.lt_irrefl round (advances branch role round round taken (same ▸ taken))
  have within : events.map DomainEvent.reviewSlot ⊆ value.resultSlots.map some := by
    intro slot member
    obtain ⟨event, listed, rfl⟩ := List.mem_map.mp member
    obtain ⟨slot, room, taken⟩ := slots event listed
    exact List.mem_map.mpr ⟨slot, room, taken.symm⟩
  calc events.length = (events.map DomainEvent.reviewSlot).length := by simp
    _ ≤ (value.resultSlots.map some).length := distinct.length_le_of_subset within
    _ = value.resultBound := by rw [List.length_map, value.length_resultSlots]

open CompletionReviewSnapshot

namespace Sample

def iteratedPolicy : CompletionReviewOpenPayload where
  subjectKind := story.kind
  subjectID := story.id
  lifecycleEpoch := 1
  criteriaRevision := 1
  evidenceSetDigest := .number 1
  branchPolicyRevision := 1
  branches := [branch (principal .human) [.principal]]
  adjudication := ⟨principal .human, 100, 1⟩
  joinRule := .allPass
  partialResultPolicy := .waitAll
  scopeRevision := 1
  workProfile := reviewedProfile 1
  candidateArtifactDigest := .number 0
  implementer
  verificationTopologyDigest := .number 0
  variantGroupID := none

variable (turn : Nat)

def iteratedRole : ReviewSourceRole :=
  if turn % 2 = 0 then .validator else .adjudicator

def iteratedPayload : ReviewBranchResultPayload where
  reviewID := (review 1).id
  branchID := "b"
  branchPolicyRevision := 1
  sourceRole := iteratedRole turn
  round := 1
  result := .pass
  reasons := []
  evidenceIDs := [.number 1]
  findings := []
  supersedesResultEventIDs := if turn = 0 then [] else [.number (turn - 1)]
  changedConditionEvidenceIDs := if turn = 0 then [] else [.number 1]
  candidateArtifactDigest := .number 0
  independenceReceipt := ⟨[.principal], .number 0, ["m"], [.number 1]⟩

/-- Validator and adjudicator take turns, always in round 1. -/
def iteratedResult : DomainEvent :=
  { DomainEvent.trial .completionReviewResultRecorded (.number turn) (review 1) (turn + 2) 1
      (.reviewResult (iteratedPayload turn)) with authority := principal .human }

def iteratedRecord : ReviewBranchResult where
  branchID := "b"
  sourceRole := iteratedRole turn
  authority := principal .human
  round := 1
  result := .pass
  reasons := []
  evidenceIDs := [.number 1]
  findings := []
  supersedesResultEventIDs := if turn = 0 then [] else [.number (turn - 1)]
  changedConditionEvidenceIDs := if turn = 0 then [] else [.number 1]
  eventID := .number turn
  decidedAt := 1
  candidateArtifactDigest := .number 0
  independenceReceipt := ⟨[.principal], .number 0, ["m"], [.number 1]⟩
  actorFQN := none
  execution := none

def afterTurns {α : Type} (value : Nat → α) : Nat → AList fun _ : String => α
  | 0 => ∅
  | turn + 1 => AList.insert "b" (value turn) ∅

def Iterated (review : CompletionReviewSnapshot) : Prop :=
  (∀ id ∈ review.knownResultEvents, ∃ earlier < turn, id = .number earlier) ∧
    ∃ opened, iteratedPolicy.review = some opened ∧
      review = { opened with
        reviewID := review.reviewID
        results := afterTurns (fun _ => .pass) turn
        resultRecords := afterTurns iteratedRecord turn
        knownResultEvents := review.knownResultEvents
        currentFindings := review.currentFindings
        reviewRevision := review.reviewRevision
        join := review.join }

theorem iteratedRole_cases :
    iteratedRole turn = .validator ∨ iteratedRole turn = .adjudicator := by
  unfold iteratedRole
  split
  · exact .inl rfl
  · exact .inr rfl

theorem iteratedRole_alternates : iteratedRole (turn + 1) ≠ iteratedRole turn := by
  unfold iteratedRole
  split <;> split <;> first | omega | simp

theorem iteratedPayload_parsed :
    ∃ result, (iteratedPayload turn).branchResult = some ((review 1).id, 1, result) ∧
      result.attributedBy (iteratedResult turn) = iteratedRecord turn := by
  have listed : ∀ value, validUUIDSet (if turn = 0 then [] else [.number value]) false =
      true := by
    split <;> simp [validUUIDSet, UUIDv7.valid]
  have sorted : ∀ value : UUIDv7, canonicalUUIDs (if turn = 0 then [] else [value]) =
      if turn = 0 then [] else [value] := by
    intro value
    split <;> rfl
  refine ⟨_, if_pos ?_, ?_⟩
  · simp only [iteratedPayload, ReviewBranchResultPayload.validBounded, listed]
    rcases iteratedRole_cases turn with role | role <;> rw [role] <;> rfl
  · simp only [ReviewBranchResult.attributedBy, iteratedPayload, iteratedRecord, sorted]
    rfl

theorem Iterated.step {review : CompletionReviewSnapshot} (iterated : Iterated turn review) :
    ∃ next, review.mongoResult (iteratedResult turn) = some next ∧ Iterated (turn + 1) next := by
  obtain ⟨known, opened, opens, same⟩ := iterated
  obtain ⟨result, parsed, attributed⟩ := iteratedPayload_parsed turn
  obtain rfl := Option.some.inj (opens.symm.trans rfl)
  have fresh : UUIDv7.number turn ∉ review.knownResultEvents := by
    intro member
    obtain ⟨earlier, before, same⟩ := known _ member
    cases same
    exact Nat.lt_irrefl turn before
  have prior : review.priorResultReason (iteratedRecord turn) = none := by
    refine (if_neg fresh).trans ?_
    rw [same]
    cases turn with
    | zero => rfl
    | succ turn =>
      rw [show AList.lookup (iteratedRecord (turn + 1)).branchID
        (afterTurns iteratedRecord (turn + 1)) = _ from AList.lookup_insert _]
      simp [iteratedRecord, iteratedRole_alternates turn]
  have free : review.boundedReviewResultReason (iteratedRecord turn) = none := by
    simp only [boundedReviewResultReason, prior]
    rw [same]
    cases turn with
    | zero =>
      simp only [iteratedRecord, iteratedRole]
      rfl
    | succ turn =>
      rcases iteratedRole_cases (turn + 1) with role | role <;>
        simp only [iteratedRecord, role] <;> rfl
  have bounded : review.branches.keys.isEmpty = false := by rw [same]; rfl
  have accepted : ∃ next, review.applyReviewBranchResult (iteratedRecord turn) = (next, true) ∧
      Iterated (turn + 1) next := by
    rw [applyReviewBranchResult, bounded, applyBoundedReviewBranchResult, free]
    refine ⟨_, Prod.ext rfl ?_, fun id member => ?_, _, opens, ?_⟩
    · rw [same]
      cases turn <;> rfl
    · rcases AList.mem_insert _ |>.mp member with rfl | member
      · exact ⟨turn, Nat.lt_succ_self turn, rfl⟩
      · obtain ⟨earlier, before, same⟩ := known id member
        exact ⟨earlier, Nat.lt_succ_of_lt before, same⟩
    · rw [same]
      cases turn <;> rfl
  obtain ⟨next, applied, later⟩ := accepted
  have revised : review.branchPolicyRevision = 1 := by rw [same]; rfl
  have payload : (iteratedResult turn).payload = .reviewResult (iteratedPayload turn) := rfl
  refine ⟨next, ?_, later⟩
  simp only [mongoResult, payload, parsed, attributed, applied, revised]
  rfl

theorem iterated_run {opened : CompletionReviewSnapshot}
    (opens : iteratedPolicy.review = some opened) (reviewID : UUIDv7) :
    ∃ final, { opened with reviewID }.recordResults ((List.range turn).map iteratedResult) =
      some final ∧ Iterated turn final := by
  induction turn with
  | zero =>
    cases opens
    exact ⟨_, rfl, fun id member => absurd member (AList.notMem_empty id), _, rfl, rfl⟩
  | succ turn induction =>
    obtain ⟨reached, recorded, iterated⟩ := induction
    obtain ⟨final, moved, later⟩ := iterated.step
    refine ⟨final, ?_, later⟩
    rw [recordResults] at recorded
    simp [recordResults, List.range_succ, recorded, moved]

theorem reviewed_without_end : ∃ review, (Payload.reviewOpen iteratedPolicy).hasFormat = true ∧
    iteratedPolicy.review = some review ∧
    ∀ bound, ∃ events final, bound < events.length ∧
      { review with reviewID := (Sample.review 1).id }.recordResults events = some final := by
  refine ⟨_, by decide, rfl, fun bound => ?_⟩
  obtain ⟨final, recorded, _⟩ := iterated_run (bound + 1) rfl (Sample.review 1).id
  exact ⟨_, final, by simp, recorded⟩

def twoRounds : CompletionReviewOpenPayload :=
  { iteratedPolicy with
    branches := [{ branch (principal .human) [.principal] with roundLimit := 2 }] }

def roundResult : DomainEvent :=
  { iteratedResult turn with payload := .reviewResult { iteratedPayload turn with
      sourceRole := .validator
      round := turn + 1 } }

theorem review_results_bounded_twice : ∃ review final,
    twoRounds.review = some review ∧
    review.recordResults [roundResult 0, roundResult 1] = some final ∧
    [roundResult 0, roundResult 1].length ≤ twoRounds.resultBound := by
  obtain ⟨review, opened⟩ : ∃ review, twoRounds.review = some review := ⟨_, rfl⟩
  obtain ⟨final, recorded⟩ : ∃ final,
      review.recordResults [roundResult 0, roundResult 1] = some final := by
    cases opened
    exact ⟨_, rfl⟩
  have advancing : [roundResult 0, roundResult 1].Pairwise DomainEvent.Advances := by
    refine List.pairwise_pair.mpr fun branch role round next first second => ?_
    cases first
    cases second
    decide
  exact ⟨review, final, opened, recorded,
    @review_results_bounded twoRounds review.reviewID review final _ (by decide) opened
      recorded advancing⟩

end Sample

namespace CompletionReviewSnapshot

def Records : CompletionReviewSnapshot → CompletionReviewSnapshot → Prop :=
  Relation.ReflTransGen fun before after =>
    ∃ result, before.applyReviewBranchResult result = (after, true)

variable (review : CompletionReviewSnapshot)

/-- A finalization with the status of the join is accepted, and nothing after it. -/
def Finalizes : Prop :=
  (∃ eventID value, (review.applyReviewFinalization eventID value).2 = true ∧
    review.join.status = .terminal value.terminalStatus) ∧
  ∀ eventID value next, review.applyReviewFinalization eventID value = (next, true) →
    (∀ result, (next.applyReviewBranchResult result).2 = false) ∧
      ∀ eventID value, (next.applyReviewFinalization eventID value).2 = false

/-- A finalization has to name the events of the records. -/
structure Counted : Prop where
  pending : review.finalization = none
  unbounded : review.branches.keys = [] → review.resultRecords = ∅
  known : ∀ entry ∈ review.resultRecords.entries,
    entry.2.eventID.valid = true ∧ entry.2.eventID ∈ review.knownResultEvents
  distinct : (review.resultRecords.entries.map (·.2.eventID)).Nodup
  recorded : review.branches.keys ≠ [] → review.join.complete = true →
    review.resultRecords.entries ≠ []
  terminal : review.join.complete = true → ∃ status, review.join.status = .terminal status

variable {review} {next : CompletionReviewSnapshot} {result : ReviewBranchResult}

theorem boundedReviewResultReason_fresh (free : review.boundedReviewResultReason result = none) :
    result.eventID.valid = true ∧ result.eventID ∉ review.knownResultEvents := by
  simp only [boundedReviewResultReason, priorResultReason] at free
  grind

theorem joinResults_terminal {results : Table String ReviewResult}
    (complete : (review.joinResults results).complete = true) :
    ∃ status, (review.joinResults results).status = .terminal status := by
  unfold joinResults evaluateReviewJoin at complete ⊢
  grind

theorem Counted.applied (counted : review.Counted)
    (applied : review.applyReviewBranchResult result = (next, true)) : next.Counted := by
  unfold applyReviewBranchResult at applied
  split at applied
  · next branched =>
    unfold applyBoundedReviewBranchResult at applied
    split at applied
    · cases applied
    next free =>
    obtain ⟨rfl, _⟩ := Prod.mk.inj applied
    obtain ⟨valid, fresh⟩ := boundedReviewResultReason_fresh (by simpa using free)
    have kept := List.kerase_sublist result.branchID review.resultRecords.entries
    refine ⟨counted.pending, fun none => ?_, ?_, ?_, ?_, joinResults_terminal⟩
    · simp [show review.branches.keys = [] from none] at branched
    · simp only [AList.entries_insert, List.forall_mem_cons, AList.mem_insert]
      refine ⟨⟨valid, by simp⟩, fun entry member => ?_⟩
      obtain ⟨valid, known⟩ := counted.known entry (kept.subset member)
      exact ⟨valid, .inr known⟩
    · simp only [AList.entries_insert, List.map_cons]
      refine List.nodup_cons.mpr ⟨fun listed => ?_, counted.distinct.sublist (kept.map _)⟩
      obtain ⟨entry, member, same⟩ := List.mem_map.mp listed
      exact fresh (same ▸ (counted.known entry (kept.subset member)).2)
    · simp [AList.entries_insert]
  · next unbranched =>
    split at applied
    · cases applied
    obtain ⟨rfl, _⟩ := Prod.mk.inj applied
    exact { counted with
      recorded := fun branched => absurd (by simpa using branched) unbranched
      terminal := joinResults_terminal }

theorem Counted.finalizes_iff (counted : review.Counted)
    (complete : review.join.complete = true) :
    review.Finalizes ↔ review.branches.keys ≠ [] := by
  constructor
  · rintro ⟨⟨eventID, value, accepted, _⟩, _⟩ none
    simp only [applyReviewFinalization] at accepted
    split at accepted
    · next checked =>
      simp only [tests_iff, counted.unbounded none, validUUIDSet] at checked
      have named := (List.perm_insertionSort _ value.resultEventIDs).symm.trans
        (.of_eq checked.2.symm)
      simp [List.perm_nil.mp named] at checked
    · cases accepted
  · intro bounded
    obtain ⟨status, decided⟩ := counted.terminal complete
    refine ⟨⟨.number 1, {
      reviewID := .number 1
      subjectKind := review.subject.kind
      subjectID := review.subject.id
      lifecycleEpoch := review.lifecycleEpoch
      branchPolicyRevision := review.branchPolicyRevision
      expectedReviewRevision := review.reviewRevision
      terminalStatus := status
      resultEventIDs := review.resultRecords.entries.map (·.2.eventID)
      evidenceIDs := [.number 1]
      scopeRevision := review.scopeRevision
      workProfile := review.workProfile
      candidateArtifactDigest := review.candidateArtifactDigest
      verificationTopologyDigest := review.verificationTopologyDigest }, ?_, decided⟩,
      fun eventID value next applied => ?_⟩
    · have one : validUUIDSet [.number 1] true = true := by decide
      have named : validUUIDSet (review.resultRecords.entries.map (·.2.eventID)) true = true := by
        simpa [validUUIDSet, counted.recorded bounded complete, counted.distinct] using
          fun entry member => (counted.known entry member).1
      simp [applyReviewFinalization, counted.pending, complete, decided, named, one, UUIDv7.valid]
    · simp only [applyReviewFinalization] at applied
      split at applied
      · obtain ⟨rfl, _⟩ := Prod.mk.inj applied
        simp [applyReviewFinalization, applyReviewBranchResult, bounded,
          applyBoundedReviewBranchResult, boundedReviewResultReason]
      · cases applied

theorem Records.counted {value : CompletionReviewOpenPayload} {opened : CompletionReviewSnapshot}
    {reviewID : UUIDv7} (opens : value.review = some opened)
    (records : Records { opened with reviewID } review) : review.Counted := by
  induction records with
  | refl =>
    simp only [CompletionReviewOpenPayload.review, tests_iff] at opens
    obtain ⟨_, rfl⟩ := opens
    refine ⟨rfl, fun _ => rfl, by simp, .nil, fun _ complete => ?_, fun complete => ?_⟩
    all_goals simp [evaluateReviewJoin_nil] at complete
  | tail _ step counted =>
    obtain ⟨result, applied⟩ := step
    exact counted.applied applied

end CompletionReviewSnapshot

/-- A decided review can be finalized exactly when it has bounded branches: without them no result
leaves a record that a finalization could name. -/
theorem decided_review_finalizes_iff {value : CompletionReviewOpenPayload}
    {opened review : CompletionReviewSnapshot} {reviewID : UUIDv7}
    (opens : value.review = some opened) (records : Records { opened with reviewID } review)
    (complete : review.join.complete = true) :
    review.Finalizes ↔ review.branches.keys ≠ [] :=
  (records.counted opens).finalizes_iff complete

namespace Sample

def unboundedPolicy : CompletionReviewOpenPayload :=
  { iteratedPolicy with branches := [], requiredBranchIDs := ["b"] }

theorem decided_once (policy : CompletionReviewOpenPayload) (bounded : Bool)
    (decides : policy.review.any (fun opened =>
      let step := opened.applyReviewBranchResult (iteratedRecord 0)
      step.2 && step.1.join.complete && (!step.1.branches.keys.isEmpty) == bounded) = true) :
    ∃ opened review, policy.review = some opened ∧ Records opened review ∧
      review.join.complete = true ∧ (review.branches.keys ≠ [] ↔ bounded = true) := by
  obtain ⟨opened, opens, accepted⟩ := (Option.any_eq_true _ _).mp decides
  simp only [tests_iff] at accepted
  exact ⟨opened, _, opens, .single ⟨iteratedRecord 0, Prod.ext rfl accepted.1.1⟩, accepted.1.2,
    by simp [← accepted.2]⟩

theorem decided_review_finalizes : ∃ opened review, iteratedPolicy.review = some opened ∧
    Records opened review ∧ review.join.complete = true ∧ review.Finalizes := by
  obtain ⟨opened, review, opens, records, complete, bounded⟩ :=
    decided_once iteratedPolicy true (by decide)
  exact ⟨opened, review, opens, records, complete,
    (decided_review_finalizes_iff opens records complete).mpr (bounded.mpr rfl)⟩

theorem unbounded_review_never_finalizes : ∃ opened review,
    unboundedPolicy.review = some opened ∧ Records opened review ∧
      review.join.complete = true ∧ ¬review.Finalizes := by
  obtain ⟨opened, review, opens, records, complete, bounded⟩ :=
    decided_once unboundedPolicy false (by decide)
  refine ⟨opened, review, opens, records, complete, fun finalizes => ?_⟩
  have branched := ((records.counted opens).finalizes_iff complete).mp finalizes
  exact Bool.false_ne_true (bounded.mp branched)

end Sample

end Tekroo.Kernel
