import Mathlib.Data.List.Dedup
import Tekroo.Kernel.Review
import Tekroo.Lib.Table

namespace Tekroo.Kernel

open Lib

/-! # Reviews whose results can be joined

A review that was opened with bounded branches never has malformed branches or results that do not
fit them.
-/

structure JoinReady (required : List String) (policy : PartialResultPolicy) : Prop where
  known : policy.known = true
  nonempty : required ≠ []
  bounded : required.length ≤ 32
  names : ∀ branch ∈ required, branch ≠ "" ∧ branch.utf8ByteSize ≤ 4096
  distinct : required.Nodup

variable {required : List String} {policy : PartialResultPolicy} {review : CompletionReviewSnapshot}
  {value : CompletionReviewOpenPayload}

theorem JoinReady.of_opened
    (opened : (evaluateReviewJoin required policy []).status ≠ .conflict) :
    JoinReady required policy := by
  unfold evaluateReviewJoin at opened
  split at opened
  · exact absurd rfl opened
  · next passed =>
    simp at passed
    obtain ⟨⟨⟨⟨known, nonempty⟩, bounded⟩, names⟩, distinct⟩ := passed
    exact ⟨known, nonempty, bounded, names, distinct⟩

theorem JoinReady.perm {other : List String} (ready : JoinReady required policy)
    (same : required.Perm other) : JoinReady other policy where
  known := ready.known
  nonempty := fun empty => ready.nonempty (List.perm_nil.mp (empty ▸ same))
  bounded := same.length_eq ▸ ready.bounded
  names := fun branch member => ready.names branch (same.mem_iff.mpr member)
  distinct := same.nodup ready.distinct

theorem JoinReady.joins (ready : JoinReady required policy)
    {results : List (String × ReviewResult)}
    (fit : ∀ result ∈ results, result.1 ∈ required ∧ result.2.valid = true)
    (distinct : (results.map (·.1)).Nodup) :
    (evaluateReviewJoin required policy results).status ≠ .conflict := by
  have few : results.length ≤ 32 := by
    have within : (results.map (·.1)).length ≤ required.length :=
      (List.subperm_of_subset distinct fun branch member => by
        obtain ⟨result, listed, rfl⟩ := List.mem_map.mp member
        exact (fit result listed).1).length_le
    simpa using Nat.le_trans within ready.bounded
  have agree : ∀ result ∈ results, ∀ prior ∈ results, prior.1 = result.1 → prior.2 = result.2 :=
    fun result member prior listed same =>
      congrArg Prod.snd (List.inj_on_of_nodup_map distinct listed member same)
  unfold evaluateReviewJoin
  split
  · next refused =>
    simp at refused
    rcases refused with ((((((unknown | empty) | many) | long) | ⟨branch, member, bad⟩) |
      repeated) | ⟨branch, result, member, bad⟩) | ⟨branch, result, member, prior, listed, differ⟩
    · simp [ready.known] at unknown
    · exact absurd empty ready.nonempty
    · exact absurd ready.bounded (by omega)
    · omega
    · have fine := ready.names branch member
      rcases bad with empty | long
      · exact absurd empty fine.1
      · omega
    · exact absurd ready.distinct repeated
    · have fine := fit _ member
      rcases bad with invalid | missing
      · simp [fine.2] at invalid
      · exact absurd fine.1 missing
    · exact absurd (agree _ member _ listed rfl) differ
  · dsimp only
    split
    · simp
    · split <;> simp

theorem deterministicReviewFailure_some {results : List ReviewResult} {failure : ReviewResult}
    (found : deterministicReviewFailure results = some failure) : failure ≠ .pass := by
  rintro rfl
  simpa using List.mem_of_find?_eq_some found

theorem deterministicReviewFailure_none {results : List ReviewResult} {result : ReviewResult}
    (absent : deterministicReviewFailure results = none) (listed : result ∈ results)
    (valid : result.valid = true) : result = .pass := by
  simp only [deterministicReviewFailure, List.find?_eq_none, List.contains_iff_mem] at absent
  cases result with
  | pass => rfl
  | other text => simp [ReviewResult.valid] at valid
  | _ => exact absurd listed (absent _ (by simp))

theorem evaluateReviewJoin_nil : (evaluateReviewJoin required policy []).complete = false := by
  unfold evaluateReviewJoin
  split
  · rfl
  next ready =>
  have nonempty : 0 ≠ required.length := by
    intro empty
    simp [List.length_eq_zero_iff.mp empty.symm] at ready
  simp [deterministicReviewFailure, nonempty]

theorem evaluateReviewJoin_pass {results : List (String × ReviewResult)} {branch : String}
    (passed : evaluateReviewJoin required policy results = ⟨true, .terminal .pass⟩)
    (listed : branch ∈ required) : (branch, .pass) ∈ results := by
  unfold evaluateReviewJoin at passed
  split at passed
  · simp at passed
  next fit =>
  simp only [tests_iff, not_or, Bool.not_eq_true, List.any_eq_false] at fit
  obtain ⟨⟨⟨_, distinct⟩, fit⟩, _⟩ := fit
  replace fit : ∀ result ∈ results, result.2.valid = true ∧ result.1 ∈ required := by
    simpa using fit
  have absent : deterministicReviewFailure (results.map (·.2)) = none := by
    by_contra present
    obtain ⟨failure, found⟩ := Option.ne_none_iff_exists'.mp present
    have failed := deterministicReviewFailure_some found
    simp only [found] at passed
    split at passed
    · simp_all
    · split at passed <;> simp_all
  simp only [absent] at passed
  split at passed
  · simp at passed
  next complete =>
  -- As many branches have a result as are required, so every required one has.
  have covered : (results.map (·.1)).dedup.Perm required := by
    have length : (results.map (·.1)).dedup.length = required.length := by simpa using complete
    refine (List.subperm_of_subset (List.nodup_dedup _) fun name member => ?_).perm_of_length_le
      length.ge
    obtain ⟨result, reported, rfl⟩ := List.mem_map.mp (List.mem_dedup.mp member)
    exact (fit result reported).2
  obtain ⟨result, reported, rfl⟩ := List.mem_map.mp (List.mem_dedup.mp (covered.mem_iff.mpr listed))
  have pass := deterministicReviewFailure_none absent (List.mem_map_of_mem reported)
    (fit result reported).1
  exact pass ▸ reported

structure CompletionReviewSnapshot.Formed (review : CompletionReviewSnapshot) : Prop where
  bounded : review.branches.keys.isEmpty = false
  ready : JoinReady review.requiredBranchIDs review.partialResultPolicy
  branches : ∀ branch spec, review.branches.lookup branch = some spec →
    branch ∈ review.requiredBranchIDs
  results : ∀ branch result, review.results.lookup branch = some result →
    branch ∈ review.requiredBranchIDs ∧ result.valid = true

namespace CompletionReviewSnapshot

variable {review next : CompletionReviewSnapshot} {result : ReviewBranchResult}

theorem Formed.joins (formed : review.Formed) {branch : String} {value : ReviewResult}
    (listed : branch ∈ review.requiredBranchIDs) (valid : value.valid = true) :
    (review.joinResults (review.results.insert branch value)).status ≠ .conflict := by
  refine formed.ready.joins (fun entry member => ?_) ?_
  · obtain ⟨⟨other, found⟩, stored, rfl⟩ := List.mem_map.mp member
    have known := AList.mem_lookup_iff.mpr stored
    rw [Option.mem_def, lookup_insert_eq_ite] at known
    split at known
    · next same =>
      cases known
      exact ⟨same ▸ listed, valid⟩
    · exact formed.results _ _ known
  · rw [List.map_map]
    exact (review.results.insert branch value).nodupKeys

structure Takes (review : CompletionReviewSnapshot) (result : ReviewBranchResult)
    (spec : ReviewBranchSpec) : Prop where
  pending : review.finalization = none
  branch : review.branches.lookup result.branchID = some spec
  round : 0 < result.round
  valid : result.result.valid = true
  independent : review.topologyBound = true → result.sourceRole ≠ .policyTimeout →
    result.independenceReceipt.proves spec.requiredIndependenceDimensions
        spec.requiredMethodIDs = true ∧
      requiredSeparationProven review.implementer result.authority result.actorFQN
        result.execution spec.requiredIndependenceDimensions result.independenceReceipt = true
  source : review.sourceRoleReason spec result = none
  findings : (currentFindingSet (review.resultRecords.insert result.branchID result)).isSome

theorem boundedReviewResultReason_none (free : review.boundedReviewResultReason result = none) :
    ∃ spec, review.Takes result spec := by
  unfold boundedReviewResultReason at free
  split at free
  · cases free
  next pending =>
  split at free
  · cases free
  next spec found =>
  split at free
  · cases free
  next checked =>
  split at free
  · cases free
  split at free
  · cases free
  next independent =>
  simp only [tests_iff, not_or, Bool.not_eq_false] at checked
  cases source : review.sourceRoleReason spec result with
  | some reason => simp [source] at free
  | none =>
    cases prior : review.priorResultReason result with
    | some reason => simp [source, prior] at free
    | none =>
      refine ⟨spec, by simpa using pending, found, Nat.pos_of_ne_zero checked.1.1.2,
        checked.1.2, fun bound role => ?_, source, ?_⟩
      · simpa [bound, role] using independent
      · simpa [source, prior, Option.isSome_iff_ne_none] using free

theorem sourceRoleReason_none {spec : ReviewBranchSpec}
    (free : review.sourceRoleReason spec result = none) :
    (result.sourceRole = .validator ∧ result.authority = spec.validator ∧
        result.round ≤ spec.roundLimit) ∨
      (result.sourceRole = .adjudicator ∧
        result.authority = review.adjudication.adjudicator ∧
        result.round ≤ review.adjudication.roundLimit) ∨
      (result.sourceRole = .policyTimeout ∧ result.result ≠ .pass) := by
  unfold sourceRoleReason at free
  split at free
  · next role =>
    split at free
    · cases free
    next same =>
    split at free
    · cases free
    next most => exact .inl ⟨role, by simpa using same, Nat.le_of_not_lt most⟩
  · next role =>
    split at free
    · cases free
    next same =>
    split at free
    · cases free
    next most => exact .inr (.inl ⟨role, by simpa using same, Nat.le_of_not_lt most⟩)
  · next role =>
    refine .inr (.inr ⟨role, fun passed => ?_⟩)
    simp only [passed] at free
    split at free
    · cases free
    · split at free <;> cases free
  · cases free

variable (formed : review.Formed)

include formed

theorem Formed.applies (free : review.boundedReviewResultReason result = none) :
    ∃ next, review.applyReviewBranchResult result = (next, true) := by
  obtain ⟨spec, takes⟩ := boundedReviewResultReason_none free
  have joined := formed.joins (formed.branches _ _ takes.branch) takes.valid
  simp only [applyReviewBranchResult, formed.bounded, Bool.not_false, if_true,
    applyBoundedReviewBranchResult, free, Option.isSome_none, Bool.false_eq_true, if_false]
  exact ⟨_, by rw [bne_iff_ne.mpr joined]⟩

theorem Formed.records (applied : review.applyReviewBranchResult result = (next, true)) :
    next.resultRecords.lookup result.branchID = some result ∧
      next.reviewRevision = review.reviewRevision + 1 := by
  simp only [applyReviewBranchResult, formed.bounded, Bool.not_false, if_true,
    applyBoundedReviewBranchResult] at applied
  split at applied
  · simp at applied
  · simp only [Prod.mk.injEq] at applied
    obtain ⟨rfl, _⟩ := applied
    exact ⟨AList.lookup_insert _, rfl⟩

theorem Formed.applied (result : ReviewBranchResult) :
    (review.applyReviewBranchResult result).1.Formed := by
  simp only [applyReviewBranchResult, formed.bounded, Bool.not_false, if_true,
    applyBoundedReviewBranchResult]
  split
  · exact formed
  · next free =>
    obtain ⟨spec, takes⟩ := boundedReviewResultReason_none (by simpa using free)
    refine ⟨formed.bounded, formed.ready, formed.branches, fun branch value known => ?_⟩
    simp only [lookup_insert_eq_ite] at known
    split at known
    · next same =>
      cases known
      exact ⟨same.symm ▸ formed.branches _ _ takes.branch, takes.valid⟩
    · exact formed.results _ _ known

theorem Formed.finalized (eventID : UUIDv7) (value : ReviewFinalizePayload) :
    (review.applyReviewFinalization eventID value).1.Formed := by
  simp only [applyReviewFinalization]
  split
  · exact ⟨formed.bounded, formed.ready, formed.branches, formed.results⟩
  · exact formed

end CompletionReviewSnapshot

theorem CompletionReviewOpenPayload.review_branches (opened : value.review = some review) :
    review.branches = insertAll ∅ (value.branches.map fun branch =>
      (branch.branchID, canonicalBranch branch)) := by
  simp only [CompletionReviewOpenPayload.review, tests_iff] at opened
  obtain ⟨_, rfl⟩ := opened
  rw [insertAll, List.foldl_map]

theorem CompletionReviewOpenPayload.review_formed (opened : value.review = some review)
    (bounded : value.branches ≠ []) (reviewID : UUIDv7) :
    { review with reviewID }.Formed := by
  have table := CompletionReviewOpenPayload.review_branches opened
  simp only [CompletionReviewOpenPayload.review, tests_iff] at opened
  obtain ⟨⟨_, joined⟩, rfl⟩ := opened
  have required : value.required = value.branches.map (·.branchID) := by
    simp [CompletionReviewOpenPayload.required, bounded]
  have sorted := (List.perm_insertionSort (· ≤ ·) value.required).symm
  refine ⟨?_, (JoinReady.of_opened joined).perm sorted, fun branch spec found => ?_, by simp⟩
  · obtain ⟨first, rest, same⟩ := List.exists_cons_of_ne_nil bounded
    have listed : first.branchID ∈ insertAll ∅ (value.branches.map fun branch =>
        (branch.branchID, canonicalBranch branch)) :=
      (mem_insertAll _).mpr
        (.inr ⟨(first.branchID, canonicalBranch first), by simp [same], rfl⟩)
    rw [table, List.isEmpty_eq_false_iff]
    exact List.ne_nil_of_mem (AList.mem_keys.mp listed)
  · rw [table] at found
    obtain absurd | listed := lookup_insertAll_some found
    · simp at absurd
    · obtain ⟨opened, member, same⟩ := List.mem_map.mp listed
      obtain ⟨rfl, _⟩ := Prod.mk.inj same
      exact sorted.mem_iff.mp (required ▸ List.mem_map.mpr ⟨opened, member, rfl⟩)

end Tekroo.Kernel
