import Tekroo.Kernel.Review

namespace Tekroo.Kernel

/-! # Release plans

The durable release plan of `release.go` and its event transitions.  Provider
execution stays outside the kernel.  A text field that a payload variant leaves
out decodes to the empty text.
-/

def contractIdentity : String := "tekroo.kernel.contracts/0.12.0"

inductive ReleaseState where
  | absent | planned | qualified | executing | reconciling | readyForAcceptance
  | failed | blocked | notRequired
  | other (text : String)
deriving DecidableEq

inductive ReleaseMode where
  | code | notRequired
  | other (text : String)
deriving DecidableEq

inductive ReleaseOutcome where
  | merged | alreadyMerged | failed | unknown
  | other (text : String)
deriving DecidableEq

namespace ReleaseOutcome

def known : ReleaseOutcome → Bool
  | .other _ => false
  | _ => true

def isMerged : ReleaseOutcome → Bool
  | .merged | .alreadyMerged => true
  | _ => false

end ReleaseOutcome

inductive ReleaseProviderState where
  | merged | «open» | closedUnmerged | missing | unavailable
  | other (text : String)
deriving DecidableEq

structure ReleasePlanKey where
  story : AggregateRef
  lifecycleEpoch : Nat
deriving DecidableEq

def ReleasePlanKey.valid (key : ReleasePlanKey) : Bool :=
  key.story.kind == .story && key.story.valid && decide (0 < key.lifecycleEpoch)

structure ReleaseMergePlan where
  mergeID : UUIDv7
  changeRef : String
  headCommit : String
  role : String

structure ReleaseQualification where
  eventID : UUIDv7
  qualificationID : UUIDv7
  qualifiedBaseCommit : String
  orderedHeadCommits : List String
  qualifiedTreeDigest : String
  gateDefinition : Digest
  toolchain : Digest
  dependencyLock : Digest
  artifactDigests : List Digest

structure ReleaseAttempt where
  mergeID : UUIDv7
  attemptID : UUIDv7
  round : Nat
  providerIdempotencyKey : String
  requestEventID : UUIDv7

structure ReleaseResult where
  mergeID : UUIDv7
  attemptID : UUIDv7
  outcome : ReleaseOutcome
  resultEventID : UUIDv7
  observedTree : String
  reconciled : Bool
  reconciliationEventID : UUIDv7

structure ReleasePlanCreatePayload where
  releasePlanID : UUIDv7
  storyID : UUIDv7
  storyLifecycleEpoch : Nat
  expectedStoryRevision : Nat
  author : PrincipalRef
  authorApprovalEventID : UUIDv7
  authorApprovalRevision : Nat
  policyRevision : Nat
  planDigest : Digest
  evidenceIDs : List UUIDv7
  mode : ReleaseMode
  repositoryURL : String := ""
  baseRef : String := ""
  baseCommit : String := ""
  orderedMerges : List ReleaseMergePlan := []
  mergeStrategy : String := ""
  gitVersion : String := ""
  conflictPolicy : String := ""
  contractManifest : String := ""
  manifestSHA256 : Digest := .text ""
  requiredProfiles : List String := []
  expectedQualifiedTree : String := ""
  executionRoundLimit : Nat := 0
  noReleaseReason : String := ""

/-- A plan keeps the payload that created it as `plan`; the other fields change with the
release. -/
structure ReleasePlanSnapshot where
  plan : ReleasePlanCreatePayload
  openingEventID : UUIDv7
  revision : Nat
  state : ReleaseState
  qualification : Option ReleaseQualification
  nextMergeIndex : Nat
  nextRound : Nat
  activeAttempt : Option ReleaseAttempt
  results : Table UUIDv7 ReleaseResult
  finalizationEventID : UUIDv7
  providerTreeDigest : String

namespace ReleasePlanCreatePayload

def story (plan : ReleasePlanCreatePayload) : AggregateRef := ⟨.story, plan.storyID⟩

variable (plan : ReleasePlanCreatePayload)

def key : ReleasePlanKey :=
  ⟨plan.story, plan.storyLifecycleEpoch⟩

/-- `ReleasePlanKeyFromCreatePayload` -/
def validKey : Option ReleasePlanKey :=
  if plan.key.valid then some plan.key else none

def headCommits : List String :=
  plan.orderedMerges.map (·.headCommit)

def validCode : Bool :=
  plan.mode == .code && plan.repositoryURL != "" && plan.baseRef != "" &&
    plan.baseCommit != "" && !plan.orderedMerges.isEmpty &&
    plan.mergeStrategy == "FF_ONLY_ORDERED" &&
    plan.conflictPolicy == "FAIL_NO_IMPROVISATION" &&
    plan.contractManifest == contractIdentity && plan.manifestSHA256.valid &&
    plan.expectedQualifiedTree != "" && decide (0 < plan.executionRoundLimit) &&
    decide (plan.executionRoundLimit ≤ 1000) &&
    plan.orderedMerges.all (fun merge => merge.mergeID.valid && merge.changeRef != "" &&
      merge.headCommit != "" && merge.role != "") &&
    decide (plan.orderedMerges.map (·.mergeID)).Nodup

end ReleasePlanCreatePayload

namespace ReleasePlanSnapshot

variable (snapshot : ReleasePlanSnapshot)

def story : AggregateRef := snapshot.plan.story

def storyLifecycleEpoch : Nat :=
  snapshot.plan.storyLifecycleEpoch

def validNotRequired : Bool :=
  snapshot.plan.noReleaseReason != "" && snapshot.plan.orderedMerges.isEmpty &&
    snapshot.nextMergeIndex == 0 && snapshot.nextRound == 1 &&
    snapshot.activeAttempt.isNone && snapshot.qualification.isNone &&
    snapshot.results.keys.isEmpty &&
    if snapshot.state == .planned then
      snapshot.finalizationEventID == .text "" && snapshot.providerTreeDigest == ""
    else
      snapshot.state == .notRequired && snapshot.finalizationEventID.valid &&
        snapshot.providerTreeDigest == ""

def validResult (entry : (_ : UUIDv7) × ReleaseResult) : Bool :=
  entry.1 == entry.2.mergeID && entry.2.mergeID.valid && entry.2.attemptID.valid &&
    entry.2.resultEventID.valid && entry.2.outcome.known &&
    (!entry.2.reconciled || entry.2.reconciliationEventID.valid)

def validQualification : Bool :=
  match snapshot.qualification with
  | none => snapshot.state == .planned
  | some qualification =>
    qualification.eventID.valid && qualification.qualificationID.valid &&
      qualification.qualifiedBaseCommit == snapshot.plan.baseCommit &&
      qualification.orderedHeadCommits == snapshot.plan.headCommits &&
      qualification.qualifiedTreeDigest == snapshot.plan.expectedQualifiedTree

def validState : Bool :=
  match snapshot.state with
  | .planned =>
    snapshot.qualification.isNone && snapshot.activeAttempt.isNone &&
      snapshot.nextMergeIndex == 0 && snapshot.finalizationEventID == .text ""
  | .qualified => snapshot.activeAttempt.isNone && snapshot.finalizationEventID == .text ""
  | .executing | .reconciling =>
    snapshot.activeAttempt.any (fun attempt => attempt.mergeID.valid &&
      attempt.attemptID.valid && decide (0 < attempt.round) &&
      attempt.providerIdempotencyKey != "" && attempt.requestEventID.valid) &&
      snapshot.finalizationEventID == .text ""
  | .readyForAcceptance =>
    snapshot.activeAttempt.isNone &&
      snapshot.nextMergeIndex == snapshot.plan.orderedMerges.length &&
      snapshot.finalizationEventID.valid &&
      snapshot.providerTreeDigest == snapshot.plan.expectedQualifiedTree
  | .failed => snapshot.activeAttempt.isNone && snapshot.finalizationEventID == .text ""
  | _ => false

def valid : Bool :=
  snapshot.plan.releasePlanID.valid && snapshot.openingEventID.valid &&
    decide (0 < snapshot.revision) && snapshot.plan.key.valid &&
    decide (0 < snapshot.plan.expectedStoryRevision) && snapshot.plan.author.valid &&
    snapshot.plan.authorApprovalEventID.valid &&
    decide (0 < snapshot.plan.authorApprovalRevision) &&
    decide (0 < snapshot.plan.policyRevision) && snapshot.plan.planDigest.valid &&
    !snapshot.plan.evidenceIDs.isEmpty && validUUIDSet snapshot.plan.evidenceIDs false &&
    if snapshot.plan.mode == .notRequired then snapshot.validNotRequired
    else
      snapshot.plan.validCode &&
        decide (snapshot.nextMergeIndex ≤ snapshot.plan.orderedMerges.length) &&
        decide (0 < snapshot.nextRound) &&
        decide (snapshot.nextRound ≤ snapshot.plan.executionRoundLimit) &&
        snapshot.results.entries.all validResult && snapshot.validQualification &&
        snapshot.validState

end ReleasePlanSnapshot

/-- `ReleasePlanFromCreatePayload` -/
def ReleasePlanCreatePayload.snapshot (plan : ReleasePlanCreatePayload)
    (openingEventID : UUIDv7) : Option ReleasePlanSnapshot :=
  let snapshot : ReleasePlanSnapshot := {
    plan, openingEventID
    revision := 1
    state := .planned
    qualification := none
    nextMergeIndex := 0
    nextRound := 1
    activeAttempt := none
    results := ∅
    finalizationEventID := .text ""
    providerTreeDigest := "" }
  if snapshot.valid then some snapshot else none

/-! ## Transitions

Each transition is given the event that records it; the caller has checked that the
event is the plan's next one. -/

structure ReleaseQualificationPayload where
  expectedRevision : Nat
  planDigest : Digest
  qualificationID : UUIDv7
  qualifiedBaseCommit : String
  orderedHeadCommits : List String
  qualifiedTreeDigest : String
  gateDefinition : Digest
  toolchain : Digest
  dependencyLock : Digest
  artifactDigests : List Digest
  evidenceIDs : List UUIDv7
  contractManifest : String
  manifestSHA256 : Digest
  requiredProfiles : List String

/-- The checks of `ReleaseQualificationFromPayload`. -/
def ReleaseQualificationPayload.valid (value : ReleaseQualificationPayload) : Bool :=
  decide (0 < value.expectedRevision) && value.planDigest.valid &&
    value.qualificationID.valid && value.qualifiedBaseCommit != "" &&
    !value.orderedHeadCommits.isEmpty && value.qualifiedTreeDigest != "" &&
    value.gateDefinition.valid && value.toolchain.valid && value.dependencyLock.valid &&
    !value.artifactDigests.isEmpty && !value.evidenceIDs.isEmpty &&
    value.contractManifest == contractIdentity && value.manifestSHA256.valid &&
    !value.requiredProfiles.isEmpty

structure ReleaseAttemptPayload where
  releasePlanID : UUIDv7
  expectedRevision : Nat
  planDigest : Digest
  mergeID : UUIDv7
  attemptID : UUIDv7
  round : Nat
  key : String
  evidenceIDs : List UUIDv7

/-- The checks of `ReleaseAttemptFromPayload`. -/
def ReleaseAttemptPayload.valid (value : ReleaseAttemptPayload) : Bool :=
  value.releasePlanID.valid && decide (0 < value.expectedRevision) &&
    value.planDigest.valid && value.mergeID.valid && value.attemptID.valid &&
    decide (0 < value.round) && value.key != "" && !value.evidenceIDs.isEmpty

structure ReleaseResultPayload where
  releasePlanID : UUIDv7
  expectedRevision : Nat
  planDigest : Digest
  mergeID : UUIDv7
  attemptID : UUIDv7
  outcome : ReleaseOutcome
  evidenceIDs : List UUIDv7
  supersedesResultEventID : UUIDv7 := .text ""
  reconciliationID : UUIDv7 := .text ""
  providerState : ReleaseProviderState := .other ""
  observedBase : String := ""
  observedHead : String := ""
  observedTree : String := ""

/-- The checks of `ReleaseResultFromPayload`. -/
def ReleaseResultPayload.valid (value : ReleaseResultPayload) (reconciliation : Bool) : Bool :=
  value.releasePlanID.valid && decide (0 < value.expectedRevision) &&
    value.planDigest.valid && value.mergeID.valid && value.attemptID.valid &&
    !value.evidenceIDs.isEmpty && value.outcome.known &&
    (!reconciliation || (value.supersedesResultEventID.valid && value.reconciliationID.valid)) &&
    (if value.outcome.isMerged then
      value.observedBase != "" && value.observedHead != "" && value.observedTree != "" &&
        (!reconciliation || value.providerState == .merged)
    else value.observedBase == "" && value.observedHead == "" && value.observedTree == "") &&
    (!reconciliation || value.outcome != .failed ||
      [.open, .closedUnmerged, .missing].contains value.providerState) &&
    (!reconciliation || value.outcome != .unknown || value.providerState == .unavailable)

structure ReleaseFinalizePayload where
  releasePlanID : UUIDv7
  expectedRevision : Nat
  planDigest : Digest
  mode : ReleaseMode
  terminalStatus : ReleaseState
  evidenceIDs : List UUIDv7
  providerTree : String := ""
  qualifiedTree : String := ""
  qualificationEventID : UUIDv7 := .text ""
  resultEventIDs : List UUIDv7 := []

namespace ReleasePlanSnapshot

variable (snapshot : ReleasePlanSnapshot) (value : ReleaseResultPayload)

def qualify (value : ReleaseQualificationPayload) (eventID : UUIDv7) : Option ReleasePlanSnapshot :=
  if value.valid && value.expectedRevision == snapshot.revision &&
      value.planDigest == snapshot.plan.planDigest &&
      value.qualifiedBaseCommit == snapshot.plan.baseCommit &&
      value.orderedHeadCommits == snapshot.plan.headCommits &&
      value.qualifiedTreeDigest == snapshot.plan.expectedQualifiedTree &&
      value.contractManifest == snapshot.plan.contractManifest &&
      value.manifestSHA256 == snapshot.plan.manifestSHA256 &&
      value.requiredProfiles == snapshot.plan.requiredProfiles &&
      snapshot.state == .planned then
    some { snapshot with
      state := .qualified
      qualification := some {
        eventID
        qualificationID := value.qualificationID
        qualifiedBaseCommit := value.qualifiedBaseCommit
        orderedHeadCommits := value.orderedHeadCommits
        qualifiedTreeDigest := value.qualifiedTreeDigest
        gateDefinition := value.gateDefinition
        toolchain := value.toolchain
        dependencyLock := value.dependencyLock
        artifactDigests := value.artifactDigests } }
  else none

def requestExecution (value : ReleaseAttemptPayload) (eventID : UUIDv7) :
    Option ReleasePlanSnapshot :=
  if value.valid && value.releasePlanID == snapshot.plan.releasePlanID &&
      value.expectedRevision == snapshot.revision &&
      value.planDigest == snapshot.plan.planDigest && snapshot.state == .qualified &&
      (snapshot.plan.orderedMerges[snapshot.nextMergeIndex]?).any
        (·.mergeID == value.mergeID) &&
      value.round == snapshot.nextRound &&
      decide (value.round ≤ snapshot.plan.executionRoundLimit) then
    some { snapshot with
      state := .executing
      activeAttempt := some {
        mergeID := value.mergeID
        attemptID := value.attemptID
        round := value.round
        providerIdempotencyKey := value.key
        requestEventID := eventID } }
  else none

def applyReleaseOutcome (next : ReleasePlanSnapshot) (result : ReleaseResult) (round : Nat) :
    ReleasePlanSnapshot :=
  match result.outcome with
  | .unknown => { next with state := .reconciling }
  | .merged | .alreadyMerged =>
    { next with
      state := .qualified
      providerTreeDigest := result.observedTree
      nextMergeIndex := next.nextMergeIndex + 1
      nextRound := 1
      activeAttempt := none }
  | .failed =>
    if next.plan.executionRoundLimit ≤ round then
      { next with activeAttempt := none, state := .failed }
    else { next with activeAttempt := none, state := .qualified, nextRound := round + 1 }
  | .other _ => next

def releaseResultIdentityMatches : Bool :=
  match snapshot.plan.orderedMerges[snapshot.nextMergeIndex]? with
  | none => false
  | some merge =>
    value.mergeID == merge.mergeID &&
      (!value.outcome.isMerged ||
        (value.observedBase == snapshot.plan.baseCommit &&
          value.observedHead == merge.headCommit))

def recordResult (eventID : UUIDv7) : Option ReleasePlanSnapshot :=
  match snapshot.activeAttempt with
  | none => none
  | some attempt =>
    if value.valid false && value.releasePlanID == snapshot.plan.releasePlanID &&
        value.expectedRevision == snapshot.revision &&
        value.planDigest == snapshot.plan.planDigest &&
        attempt.attemptID == value.attemptID && attempt.mergeID == value.mergeID &&
        snapshot.state == .executing && snapshot.releaseResultIdentityMatches value then
      let result : ReleaseResult :=
        ⟨value.mergeID, value.attemptID, value.outcome, eventID, value.observedTree, false,
          .text ""⟩
      some ({ snapshot with results := snapshot.results.insert value.mergeID result
        }.applyReleaseOutcome result attempt.round)
    else none

def recordReconciliation (eventID : UUIDv7) : Option ReleasePlanSnapshot :=
  match snapshot.activeAttempt, snapshot.results.lookup value.mergeID with
  | some attempt, some prior =>
    if value.valid true && value.releasePlanID == snapshot.plan.releasePlanID &&
        value.expectedRevision == snapshot.revision &&
        value.planDigest == snapshot.plan.planDigest && snapshot.state == .reconciling &&
        attempt.attemptID == value.attemptID &&
        prior.resultEventID == value.supersedesResultEventID && prior.outcome == .unknown &&
        snapshot.releaseResultIdentityMatches value then
      let result : ReleaseResult :=
        ⟨value.mergeID, value.attemptID, value.outcome, prior.resultEventID,
          value.observedTree, true, eventID⟩
      some ({ snapshot with results := snapshot.results.insert value.mergeID result
        }.applyReleaseOutcome result attempt.round)
    else none
  | _, _ => none

def effectiveResultEventID (merge : ReleaseMergePlan) : Option UUIDv7 :=
  match snapshot.results.lookup merge.mergeID with
  | none => none
  | some result =>
    if !result.outcome.isMerged then none
    else some (if result.reconciled then result.reconciliationEventID
      else result.resultEventID)

def effectiveReleaseResultEventIDs : List UUIDv7 :=
  (snapshot.plan.orderedMerges.mapM snapshot.effectiveResultEventID).getD []

def finalize (value : ReleaseFinalizePayload) (eventID : UUIDv7) : Option ReleasePlanSnapshot :=
  if value.releasePlanID == snapshot.plan.releasePlanID &&
      value.expectedRevision == snapshot.revision &&
      value.planDigest == snapshot.plan.planDigest && value.mode == snapshot.plan.mode &&
      (snapshot.plan.mode != .code ||
        (snapshot.state == .qualified &&
          snapshot.nextMergeIndex == snapshot.plan.orderedMerges.length &&
          snapshot.qualification.any (·.eventID == value.qualificationEventID) &&
          value.qualifiedTree == snapshot.plan.expectedQualifiedTree &&
          value.terminalStatus == .readyForAcceptance &&
          value.providerTree == snapshot.plan.expectedQualifiedTree &&
          snapshot.providerTreeDigest == snapshot.plan.expectedQualifiedTree &&
          value.resultEventIDs == snapshot.effectiveReleaseResultEventIDs)) &&
      (snapshot.plan.mode != .notRequired ||
        (value.terminalStatus == .notRequired && value.resultEventIDs.isEmpty &&
          value.qualificationEventID == .text "" && value.qualifiedTree == "" &&
          value.providerTree == "")) then
    some { snapshot with
      state := value.terminalStatus
      finalizationEventID := eventID
      providerTreeDigest := value.providerTree }
  else none

end ReleasePlanSnapshot

end Tekroo.Kernel
