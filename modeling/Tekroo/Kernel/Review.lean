import Tekroo.Kernel.WorkProfile

namespace Tekroo.Kernel

/-! # Completion reviews -/

inductive ReviewResult where
  | pass | fail | blocked | inconclusive | superseded | cancelled
  | other (text : String)
deriving DecidableEq

/-- `validReviewResult` -/
def ReviewResult.valid : ReviewResult → Bool
  | .other _ => false
  | _ => true

inductive ReviewSourceRole where
  | validator | adjudicator | policyTimeout
  | other (text : String)
deriving DecidableEq

inductive PartialResultPolicy where
  | waitAll | failFast
  | other (text : String)

def PartialResultPolicy.known : PartialResultPolicy → Bool
  | .other _ => false
  | _ => true

inductive JoinRule where
  | allPass
  | other (text : String)
deriving DecidableEq

structure ReviewFinding where
  findingID : UUIDv7
  findingKey : Digest
  classification : String
  summary : String
  evidenceIDs : List UUIDv7
deriving DecidableEq

structure ReviewBranchResult where
  branchID : String
  sourceRole : ReviewSourceRole
  authority : PrincipalRef
  round : Nat
  result : ReviewResult
  reasons : List String
  evidenceIDs : List UUIDv7
  findings : List ReviewFinding
  supersedesResultEventIDs : List UUIDv7
  changedConditionEvidenceIDs : List UUIDv7
  eventID : UUIDv7
  decidedAt : Time
  candidateArtifactDigest : Digest
  independenceReceipt : IndependenceReceipt
  actorFQN : Option ActorFQN
  execution : Option ExecutionTuple

structure ReviewBranchSpec where
  branchID : String
  validator : PrincipalRef
  resolutionOwnerFQN : ActorFQN
  acceptanceCriteria : List String
  inputEvidenceIDs : List UUIDv7
  deadlineAt : Time
  roundLimit : Nat
  requiredIndependenceDimensions : List IndependenceDimension
  requiredMethodIDs : List String

structure ReviewAdjudication where
  adjudicator : PrincipalRef
  deadlineAt : Time
  roundLimit : Nat

structure ReviewFinalization where
  eventID : UUIDv7
  reviewRevision : Nat
  terminalStatus : ReviewResult
  resultEventIDs : List UUIDv7
  evidenceIDs : List UUIDv7
  scopeRevision : Nat
  workProfile : WorkProfileBinding
  candidateArtifactDigest : Digest
  verificationTopologyDigest : Digest

/-- The status texts of a join: `CONFLICT`, `PENDING`, or the terminal result. -/
inductive JoinStatus where
  | conflict | pending
  | terminal (result : ReviewResult)
deriving DecidableEq

structure ReviewJoinResult where
  complete : Bool
  status : JoinStatus

structure CompletionReviewSnapshot where
  reviewID : UUIDv7
  subject : AggregateRef
  lifecycleEpoch : Nat
  criteriaRevision : Nat
  evidenceSetDigest : Digest
  branchPolicyRevision : Nat
  requiredBranchIDs : List String
  branches : Table String ReviewBranchSpec
  adjudication : ReviewAdjudication
  partialResultPolicy : PartialResultPolicy
  results : Table String ReviewResult
  resultRecords : Table String ReviewBranchResult
  knownResultEvents : Table UUIDv7 ReviewBranchResult
  currentFindings : Table Digest ReviewFinding
  reviewRevision : Nat
  finalization : Option ReviewFinalization
  join : ReviewJoinResult
  topologyBound : Bool
  scopeRevision : Nat
  workProfile : WorkProfileBinding
  candidateArtifactDigest : Digest
  implementer : WorkExecutionIdentity
  verificationTopologyDigest : Digest
  variantGroupID : Option UUIDv7

def deterministicReviewFailure (results : List ReviewResult) : Option ReviewResult :=
  [.fail, .blocked, .inconclusive, .cancelled, .superseded].find? results.contains

/-- `EvaluateReviewJoin`, over the branch and result of each result: the only parts it
reads.  A repeated branch is fine as long as its results agree. -/
def evaluateReviewJoin (required : List String) (policy : PartialResultPolicy)
    (results : List (String × ReviewResult)) : ReviewJoinResult :=
  if !policy.known || required.isEmpty || decide (32 < required.length) ||
      decide (64 < results.length) ||
      required.any (fun branch => branch == "" || decide (4096 < branch.utf8ByteSize)) ||
      !decide required.Nodup ||
      results.any (fun result => !result.2.valid || !required.contains result.1) ||
      results.any (fun result =>
        results.any (fun prior => prior.1 == result.1 && prior.2 != result.2)) then
    ⟨false, .conflict⟩
  else
    let terminal := deterministicReviewFailure (results.map (·.2))
    match terminal, policy with
    | some failure, .failFast => ⟨true, .terminal failure⟩
    | _, _ =>
      if (results.map (·.1)).dedup.length != required.length then ⟨false, .pending⟩
      else ⟨true, .terminal (terminal.getD .pass)⟩

def validUniqueBoundedStrings (values : List String) : Bool :=
  validUniqueStrings values 1 64

/-- `currentFindingSet`: the findings of all current results by key, unless two results
disagree about one key. -/
def currentFindingSet (results : Table String ReviewBranchResult) :
    Option (Table Digest ReviewFinding) :=
  let findings := results.entries.flatMap (·.2.findings)
  if findings.all (fun finding =>
      findings.all (fun prior => prior.findingKey != finding.findingKey || prior == finding)) then
    some (findings.foldl
      (fun known finding => if finding.findingKey ∈ known then known
        else known.insert finding.findingKey finding) ∅)
  else none

structure CompletionReviewOpenPayload where
  subjectKind : AggregateKind
  subjectID : UUIDv7
  lifecycleEpoch : Nat
  criteriaRevision : Nat
  evidenceSetDigest : Digest
  branchPolicyRevision : Nat
  requiredBranchIDs : List String := []
  branches : List ReviewBranchSpec
  adjudication : ReviewAdjudication
  joinRule : JoinRule
  partialResultPolicy : PartialResultPolicy
  scopeRevision : Nat
  workProfile : WorkProfileBinding
  candidateArtifactDigest : Digest
  implementer : WorkExecutionIdentity
  verificationTopologyDigest : Digest
  variantGroupID : Option UUIDv7

structure CompletionReviewKey where
  subject : AggregateRef
  lifecycleEpoch : Nat
  criteriaRevision : Nat
  evidenceSetDigest : Digest
deriving DecidableEq

namespace CompletionReviewOpenPayload

variable (value : CompletionReviewOpenPayload)

def subject : AggregateRef :=
  ⟨value.subjectKind, value.subjectID⟩

/-- `CompletionReviewKeyFromPayload` -/
def key : Option CompletionReviewKey :=
  if value.subject.valid && decide (0 < value.lifecycleEpoch) &&
      decide (0 < value.criteriaRevision) && value.evidenceSetDigest.valid then
    some ⟨value.subject, value.lifecycleEpoch, value.criteriaRevision, value.evidenceSetDigest⟩
  else none

def topologyBound : Bool :=
  decide (0 < value.scopeRevision) || value.workProfile.profileID != .text "" ||
    value.candidateArtifactDigest != .text "" || value.verificationTopologyDigest != .text ""

def validTopology : Bool :=
  !value.topologyBound ||
    (decide (0 < value.scopeRevision) && value.workProfile.valid &&
      value.workProfile.lifecycleEpoch == value.lifecycleEpoch &&
      value.workProfile.scopeRevision == value.scopeRevision &&
      value.candidateArtifactDigest.valid && value.implementer.valid &&
      value.verificationTopologyDigest.valid && value.variantGroupID.all UUIDv7.valid)

def validBranch (branch : ReviewBranchSpec) : Bool :=
  branch.branchID != "" && branch.validator.valid && branch.resolutionOwnerFQN.valid &&
    validUniqueBoundedStrings branch.acceptanceCriteria &&
    validUUIDSet branch.inputEvidenceIDs true && !branch.deadlineAt.isZero &&
    decide (0 < branch.roundLimit) && decide (branch.roundLimit ≤ 1000) &&
    (!value.topologyBound ||
      (validUniqueDimensions branch.requiredIndependenceDimensions &&
        validUniqueStrings branch.requiredMethodIDs 1 64))

def canonicalBranch (branch : ReviewBranchSpec) : ReviewBranchSpec :=
  { branch with
    acceptanceCriteria := canonicalStrings branch.acceptanceCriteria
    inputEvidenceIDs := canonicalUUIDs branch.inputEvidenceIDs }

def required : List String :=
  if value.branches.isEmpty then value.requiredBranchIDs else value.branches.map (·.branchID)

/-- `CompletionReviewFromPayload`.  A payload without bounded branches names its required
branches directly; `reviewID` is left to the event that carries the payload. -/
def review : Option CompletionReviewSnapshot :=
  let join := evaluateReviewJoin value.required value.partialResultPolicy []
  if value.subject.valid && decide (0 < value.lifecycleEpoch) &&
      decide (0 < value.criteriaRevision) && value.evidenceSetDigest.valid &&
      decide (0 < value.branchPolicyRevision) && value.joinRule == .allPass &&
      value.partialResultPolicy.known && value.validTopology &&
      !(value.branches.isEmpty && value.requiredBranchIDs.isEmpty) &&
      value.branches.all value.validBranch &&
      decide (value.branches.map (·.branchID)).Nodup &&
      (value.branches.isEmpty ||
        (value.adjudication.adjudicator.valid && !value.adjudication.deadlineAt.isZero &&
          decide (0 < value.adjudication.roundLimit) &&
          decide (value.adjudication.roundLimit ≤ 1000))) &&
      join.status != .conflict then
    some {
      reviewID := .text ""
      subject := value.subject
      lifecycleEpoch := value.lifecycleEpoch
      criteriaRevision := value.criteriaRevision
      evidenceSetDigest := value.evidenceSetDigest
      branchPolicyRevision := value.branchPolicyRevision
      requiredBranchIDs := canonicalStrings value.required
      branches := value.branches.foldl
        (fun branches branch => branches.insert branch.branchID (canonicalBranch branch)) ∅
      adjudication := value.adjudication
      partialResultPolicy := value.partialResultPolicy
      results := ∅
      resultRecords := ∅
      knownResultEvents := ∅
      currentFindings := ∅
      reviewRevision := 1
      finalization := none
      join
      topologyBound := value.topologyBound
      scopeRevision := value.scopeRevision
      workProfile := value.workProfile
      candidateArtifactDigest := value.candidateArtifactDigest
      implementer := value.implementer
      verificationTopologyDigest := value.verificationTopologyDigest
      variantGroupID := value.variantGroupID }
  else none

end CompletionReviewOpenPayload

structure ReviewBranchResultPayload where
  reviewID : UUIDv7
  branchID : String
  branchPolicyRevision : Nat
  sourceRole : ReviewSourceRole
  round : Nat
  result : ReviewResult
  reasons : List String
  evidenceIDs : List UUIDv7
  findings : List ReviewFinding
  supersedesResultEventIDs : List UUIDv7
  changedConditionEvidenceIDs : List UUIDv7
  candidateArtifactDigest : Digest
  independenceReceipt : IndependenceReceipt

namespace ReviewBranchResultPayload

def validFinding (finding : ReviewFinding) : Bool :=
  finding.findingID.valid && finding.findingKey.valid && finding.summary != "" &&
    validUUIDSet finding.evidenceIDs true

def canonicalFinding (finding : ReviewFinding) : ReviewFinding :=
  { finding with evidenceIDs := canonicalUUIDs finding.evidenceIDs }

variable (value : ReviewBranchResultPayload)

/-- The checks a result with a source role must also pass. -/
def validBounded : Bool :=
  decide (0 < value.round) && decide (value.round ≤ 1000) &&
    validUUIDSet value.evidenceIDs true && validUUIDSet value.supersedesResultEventIDs false &&
    validUUIDSet value.changedConditionEvidenceIDs false

/-- `ReviewBranchResultFromPayload`.  Authority, actor, execution, event and time are not
in the payload: whoever applies the result fills them in. -/
def branchResult : Option (UUIDv7 × Nat × ReviewBranchResult) :=
  if value.reviewID.valid && value.branchID != "" &&
      decide (0 < value.branchPolicyRevision) && value.result.valid &&
      value.findings.all validFinding && decide (value.findings.map (·.findingKey)).Nodup &&
      (value.sourceRole == .other "" || value.validBounded) then
    some (value.reviewID, value.branchPolicyRevision, {
      branchID := value.branchID
      sourceRole := value.sourceRole
      authority := ⟨.other "", ""⟩
      round := value.round
      result := value.result
      reasons := canonicalStrings value.reasons
      evidenceIDs := canonicalUUIDs value.evidenceIDs
      findings := (value.findings.map canonicalFinding).insertionSort
        fun left right => left.findingKey.le right.findingKey
      supersedesResultEventIDs := canonicalUUIDs value.supersedesResultEventIDs
      changedConditionEvidenceIDs := canonicalUUIDs value.changedConditionEvidenceIDs
      eventID := .text ""
      decidedAt := 0
      candidateArtifactDigest := value.candidateArtifactDigest
      independenceReceipt := value.independenceReceipt
      actorFQN := none
      execution := none })
  else none

end ReviewBranchResultPayload

namespace CompletionReviewSnapshot

variable (snapshot : CompletionReviewSnapshot) (result : ReviewBranchResult)

/-- The part of `BoundedReviewResultReason` that depends on who reports the result. -/
def sourceRoleReason (spec : ReviewBranchSpec) (result : ReviewBranchResult) : Option String :=
  match result.sourceRole with
  | .validator =>
    if result.authority != spec.validator then some "VALIDATOR_MISMATCH"
    else if spec.roundLimit < result.round then some "BRANCH_ROUND_EXHAUSTED"
    else if spec.deadlineAt < result.decidedAt then some "BRANCH_DEADLINE_EXCEEDED"
    else none
  | .adjudicator =>
    if result.authority != snapshot.adjudication.adjudicator then some "ADJUDICATOR_MISMATCH"
    else if snapshot.adjudication.roundLimit < result.round then some "ADJUDICATION_EXHAUSTED"
    else if snapshot.adjudication.deadlineAt < result.decidedAt then
      some "ADJUDICATION_DEADLINE_EXCEEDED"
    else none
  | .policyTimeout =>
    if result.authority.kind != .policy then some "POLICY_AUTHORITY_REQUIRED"
    else if ¬ spec.deadlineAt < result.decidedAt then some "DEADLINE_NOT_REACHED"
    else if result.result != .blocked && result.result != .cancelled then
      some "INVALID_TIMEOUT_RESULT"
    else none
  | .other _ => some "INVALID_SOURCE_ROLE"

/-- The part of `BoundedReviewResultReason` that compares a result with those recorded. -/
def priorResultReason : Option String :=
  if result.eventID ∈ snapshot.knownResultEvents then some "DUPLICATE_RESULT_EVENT"
  else
    match snapshot.resultRecords.lookup result.branchID with
    | some prior =>
      if result.supersedesResultEventIDs != [prior.eventID] ||
          result.changedConditionEvidenceIDs.isEmpty ||
          (result.sourceRole == prior.sourceRole && decide (result.round ≤ prior.round)) then
        some "CHANGED_CONDITION_REQUIRED"
      else none
    | none =>
      if !result.supersedesResultEventIDs.isEmpty then some "UNKNOWN_SUPERSEDED_RESULT"
      else none

/-- `BoundedReviewResultReason`; the empty text is `none`. -/
def boundedReviewResultReason : Option String :=
  if snapshot.finalization.isSome then some "REVIEW_ALREADY_FINALIZED"
  else
    match snapshot.branches.lookup result.branchID with
    | none => some "INVALID_REVIEW_RESULT"
    | some spec =>
      if !result.eventID.valid || result.decidedAt.isZero || !result.authority.valid ||
          result.round == 0 || !result.result.valid ||
          !validUUIDSet result.evidenceIDs true then
        some "INVALID_REVIEW_RESULT"
      else if snapshot.topologyBound &&
          result.candidateArtifactDigest != snapshot.candidateArtifactDigest then
        some "INDEPENDENCE_NOT_PROVEN"
      -- A policy timeout closes an expired branch and evaluates nothing, so it owes no
      -- separation from the implementer.
      else if snapshot.topologyBound && result.sourceRole != .policyTimeout &&
          (!result.independenceReceipt.proves spec.requiredIndependenceDimensions
              spec.requiredMethodIDs ||
            !requiredSeparationProven snapshot.implementer result.authority result.actorFQN
              result.execution spec.requiredIndependenceDimensions
              result.independenceReceipt) then
        some "INDEPENDENCE_NOT_PROVEN"
      else
        (snapshot.sourceRoleReason spec result).orElse fun _ =>
          (snapshot.priorResultReason result).orElse fun _ =>
            if (currentFindingSet
                (snapshot.resultRecords.insert result.branchID result)).isNone then
              some "FINDING_KEY_CONFLICT"
            else none

def joinResults (results : Table String ReviewResult) : ReviewJoinResult :=
  evaluateReviewJoin snapshot.requiredBranchIDs snapshot.partialResultPolicy
    (results.entries.map fun entry => (entry.1, entry.2))

def applyBoundedReviewBranchResult : CompletionReviewSnapshot × Bool :=
  if (snapshot.boundedReviewResultReason result).isSome then (snapshot, false)
  else
    let resultRecords := snapshot.resultRecords.insert result.branchID result
    let results := snapshot.results.insert result.branchID result.result
    let join := snapshot.joinResults results
    ({ snapshot with
        resultRecords, results, join
        knownResultEvents := snapshot.knownResultEvents.insert result.eventID result
        currentFindings := (currentFindingSet resultRecords).getD ∅
        reviewRevision := snapshot.reviewRevision + 1 },
      join.status != .conflict)

/-- `ApplyReviewBranchResult`.  A review without bounded branches keeps only the result
itself and accepts a repeat that agrees. -/
def applyReviewBranchResult : CompletionReviewSnapshot × Bool :=
  if !snapshot.branches.keys.isEmpty then snapshot.applyBoundedReviewBranchResult result
  else if !snapshot.requiredBranchIDs.contains result.branchID ||
      (snapshot.results.lookup result.branchID).any (· != result.result) then
    (snapshot, false)
  else
    let results := snapshot.results.insert result.branchID result.result
    let join := snapshot.joinResults results
    ({ snapshot with results, join }, join.status != .conflict)

end CompletionReviewSnapshot

structure ReviewFinalizePayload where
  reviewID : UUIDv7
  subjectKind : AggregateKind
  subjectID : UUIDv7
  lifecycleEpoch : Nat
  branchPolicyRevision : Nat
  expectedReviewRevision : Nat
  terminalStatus : ReviewResult
  resultEventIDs : List UUIDv7
  evidenceIDs : List UUIDv7
  scopeRevision : Nat
  workProfile : WorkProfileBinding
  candidateArtifactDigest : Digest
  verificationTopologyDigest : Digest

/-- `ApplyReviewFinalization`; a refused finalization leaves the review as it was. -/
def CompletionReviewSnapshot.applyReviewFinalization (snapshot : CompletionReviewSnapshot)
    (eventID : UUIDv7) (value : ReviewFinalizePayload) : CompletionReviewSnapshot × Bool :=
  let want := canonicalUUIDs (snapshot.resultRecords.entries.map (·.2.eventID))
  let got := canonicalUUIDs value.resultEventIDs
  if value.reviewID.valid && eventID.valid && snapshot.finalization.isNone &&
      (⟨value.subjectKind, value.subjectID⟩ : AggregateRef) == snapshot.subject &&
      value.lifecycleEpoch == snapshot.lifecycleEpoch &&
      value.branchPolicyRevision == snapshot.branchPolicyRevision &&
      value.expectedReviewRevision == snapshot.reviewRevision && snapshot.join.complete &&
      .terminal value.terminalStatus == snapshot.join.status &&
      validUUIDSet value.resultEventIDs true && validUUIDSet value.evidenceIDs true &&
      (!snapshot.topologyBound ||
        (value.scopeRevision == snapshot.scopeRevision &&
          value.workProfile == snapshot.workProfile &&
          value.candidateArtifactDigest == snapshot.candidateArtifactDigest &&
          value.verificationTopologyDigest == snapshot.verificationTopologyDigest)) &&
      want == got then
    ({ snapshot with
        finalization := some {
          eventID
          reviewRevision := value.expectedReviewRevision
          terminalStatus := value.terminalStatus
          resultEventIDs := got
          evidenceIDs := value.evidenceIDs
          scopeRevision := value.scopeRevision
          workProfile := value.workProfile
          candidateArtifactDigest := value.candidateArtifactDigest
          verificationTopologyDigest := value.verificationTopologyDigest } }, true)
  else (snapshot, false)

/-- `CanonicalSuccessorIDs`: valid and strictly increasing. -/
def canonicalSuccessorIDs (ids : List UUIDv7) : Bool :=
  !ids.isEmpty && ids.all UUIDv7.valid &&
    decide (ids.IsChain fun left right => left.le right = true ∧ left ≠ right)

end Tekroo.Kernel
