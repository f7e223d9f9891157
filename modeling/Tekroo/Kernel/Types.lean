import Mathlib.Data.List.AList
import Mathlib.Data.List.Sort
import Tekroo.Lib.Checked

namespace Tekroo.Kernel

/-! # Identities and shared vocabulary of the kernel

The source keeps identities as strings with a pattern check.  Of a UUIDv7 or a
SHA-256 digest the kernel only ever asks whether it matches its pattern, whether
two of them are equal and how two of them sort, so a well-formed one is modeled by
its number and every other string by its text.  Counters (`uint64` revisions,
epochs and ordinals) are natural numbers, which is exact below 2^64; the power epoch
of a team, which a payload sets and a transition raises, is a `UInt64`.  A
`time.Time` is the instant it denotes, with the zero time at `0`.
-/

abbrev Time := Int

def Time.isZero (time : Time) : Bool := decide (time = 0)

/-- A finite Go map. -/
abbrev Table (κ : Type) (ν : Type) := AList (fun _ : κ => ν)

inductive UUIDv7 where
  | number (value : Nat)
  | text (value : String)
deriving DecidableEq

namespace UUIDv7

instance : Inhabited UUIDv7 := ⟨.text ""⟩

def valid : UUIDv7 → Bool
  | .number _ => true
  | .text _ => false

/-- The order of `sort.Strings`; canonical texts sort as their numbers. -/
def le : UUIDv7 → UUIDv7 → Bool
  | .number left, .number right => decide (left ≤ right)
  | .number _, .text _ => true
  | .text _, .number _ => false
  | .text left, .text right => decide (left ≤ right)

theorem le_total (left right : UUIDv7) : left.le right = true ∨ right.le left = true := by
  cases left <;> cases right <;> simp [le, Nat.le_total, String.le_total]

theorem le_trans {left middle right : UUIDv7} (first : left.le middle = true)
    (second : middle.le right = true) : left.le right = true := by
  cases left <;> cases middle <;> cases right <;> simp [le] at first second ⊢
  · exact Nat.le_trans first second
  · exact String.le_trans first second

theorem le_antisymm {left right : UUIDv7} (first : left.le right = true)
    (second : right.le left = true) : left = right := by
  cases left <;> cases right <;> simp [le] at first second ⊢
  · exact Nat.le_antisymm first second
  · exact String.le_antisymm first second

end UUIDv7

inductive Digest where
  | number (value : Nat)
  | text (value : String)
deriving DecidableEq

namespace Digest

instance : Inhabited Digest := ⟨.text ""⟩

def valid : Digest → Bool
  | .number _ => true
  | .text _ => false

def le : Digest → Digest → Bool
  | .number left, .number right => decide (left ≤ right)
  | .number _, .text _ => true
  | .text _, .number _ => false
  | .text left, .text right => decide (left ≤ right)

theorem le_total (left right : Digest) : left.le right = true ∨ right.le left = true := by
  cases left <;> cases right <;> simp [le, Nat.le_total, String.le_total]

theorem le_trans {left middle right : Digest} (first : left.le middle = true)
    (second : middle.le right = true) : left.le right = true := by
  cases left <;> cases middle <;> cases right <;> simp [le] at first second ⊢
  · exact Nat.le_trans first second
  · exact String.le_trans first second

end Digest

/-- `team::role-N`, the name of one running instance of a role. -/
structure ActorFQN where
  text : String
deriving DecidableEq

namespace ActorFQN

instance : Inhabited ActorFQN := ⟨⟨""⟩⟩

def labelEnd (char : Char) : Bool := char.isLower || char.isDigit

/-- `[a-z0-9]|[a-z0-9][a-z0-9-]{0,61}[a-z0-9]` -/
def label (chars : List Char) : Bool :=
  decide (1 ≤ chars.length) && decide (chars.length ≤ 63) &&
    chars.all (fun char => labelEnd char || char == '-') &&
    (chars.head?.any labelEnd) && (chars.getLast?.any labelEnd)

/-- `[1-9][0-9]{0,19}` -/
def instanceNumber : List Char → Bool
  | [] => false
  | first :: rest =>
    first.isDigit && first != '0' && decide (rest.length ≤ 19) && rest.all Char.isDigit

/-- `actorFQNPattern`.  Labels hold no colon and the instance number no dash, so the
first colon and the last dash are the only places where the pattern can split. -/
def valid (actor : ActorFQN) : Bool :=
  let chars := actor.text.toList
  match chars.dropWhile (· != ':') with
  | ':' :: ':' :: rest =>
    match rest.reverse.dropWhile (· != '-') with
    | '-' :: role =>
      label (chars.takeWhile (· != ':')) && label role.reverse &&
        instanceNumber (rest.reverse.takeWhile (· != '-')).reverse
    | _ => false
  | _ => false

end ActorFQN

inductive AggregateKind where
  | story | task | completionReview | escalation | releasePlan | variantGroup
  | humanParticipant | humanInteraction | evidence | execution | system
  | workBudget | workInvocation | workflowInstance
  | other (text : String)
deriving DecidableEq

namespace AggregateKind

def valid : AggregateKind → Bool
  | .other _ => false
  | _ => true

/-- The position of a kind among the texts of all kinds, for sorting. -/
def rank : AggregateKind → Nat
  | .completionReview => 0
  | .escalation => 1
  | .evidence => 2
  | .execution => 3
  | .humanInteraction => 4
  | .humanParticipant => 5
  | .releasePlan => 6
  | .story => 7
  | .system => 8
  | .task => 9
  | .variantGroup => 10
  | .workBudget => 11
  | .workInvocation => 12
  | .workflowInstance => 13
  | .other _ => 14

end AggregateKind

structure AggregateRef where
  kind : AggregateKind
  id : UUIDv7
deriving DecidableEq

def AggregateRef.valid (reference : AggregateRef) : Bool :=
  reference.kind.valid && reference.id.valid

inductive PrincipalKind where
  | actor | human | service | policy
  | other (text : String)
deriving DecidableEq

structure PrincipalRef where
  kind : PrincipalKind
  id : String
deriving DecidableEq

def PrincipalRef.valid (principal : PrincipalRef) : Bool :=
  decide (1 ≤ principal.id.utf8ByteSize) && decide (principal.id.utf8ByteSize ≤ 256) &&
    match principal.kind with
    | .other _ => false
    | _ => true

structure ExecutionTuple where
  executionID : UUIDv7
  fencingEpoch : Nat
deriving DecidableEq

def ExecutionTuple.valid (execution : ExecutionTuple) : Bool :=
  execution.executionID.valid && decide (0 < execution.fencingEpoch)

inductive EdgeKind where
  | causal | response | retry | derivation | supersession
  | other (text : String)
deriving DecidableEq

namespace EdgeKind

def valid : EdgeKind → Bool
  | .other _ => false
  | _ => true

def rank : EdgeKind → Nat
  | .causal => 0
  | .derivation => 1
  | .response => 2
  | .retry => 3
  | .supersession => 4
  | .other _ => 5

theorem rank_inj {left right : EdgeKind} (known : left.valid = true)
    (also : right.valid = true) (same : left.rank = right.rank) : left = right := by
  cases left <;> cases right <;> simp_all [valid, rank]

end EdgeKind

structure DagParent where
  parentEventID : UUIDv7
  edgeKind : EdgeKind
deriving DecidableEq

structure EvidenceRef where
  evidenceID : UUIDv7
  sha256 : Digest
deriving DecidableEq

inductive Phase where
  | draft | planned | ready | planning | active | completed | accepted | closed
deriving DecidableEq

inductive Condition where
  | runnable | blocked
deriving DecidableEq

structure Ownership where
  ownerFQN : Option ActorFQN := none
  ownershipVersion : Nat := 0
  assignedEventID : Option UUIDv7 := none
deriving DecidableEq

def validUniqueStrings (values : List String) (minimum maximum : Nat) : Bool :=
  decide (minimum ≤ values.length) && decide (values.length ≤ maximum) &&
    values.all (fun value => value != "" && decide (value.utf8ByteSize ≤ 4096)) &&
    decide values.Nodup

variable (values : List UUIDv7)

def validUniqueUUIDs (minimum maximum : Nat) : Bool :=
  decide (minimum ≤ values.length) && decide (values.length ≤ maximum) &&
    values.all UUIDv7.valid && decide values.Nodup

def validUUIDSet (required : Bool) : Bool :=
  !(required && values.isEmpty) && values.all UUIDv7.valid && decide values.Nodup

def canonicalUUIDs : List UUIDv7 :=
  values.insertionSort fun left right => left.le right

def sameUUIDSet (left right : List UUIDv7) : Bool :=
  canonicalUUIDs left == canonicalUUIDs right

def canonicalStrings (values : List String) : List String :=
  values.insertionSort (· ≤ ·)

def containsUUID (target : UUIDv7) : Bool := values.contains target

/-! # Command and event types of the frozen catalogue

One constructor per `ACTIVE` entry of `kernel-catalogue.json`, named by its type id
without the `tekroo.command.` or `tekroo.event.` part; `other` is a type id the
catalogue does not list.
-/

inductive CommandType where
  | completionReviewFinalize | completionReviewOpen | completionReviewRecordResult
  | escalationOpen | escalationResolve | evidenceRegister | executionRegister
  | executionReplace | humanInteractionClose | humanInteractionExpire
  | humanInteractionOpen | humanInteractionRecordDelivery | humanInteractionRespond
  | humanParticipantBindProfile | humanParticipantRevoke | projectionRecordFault
  | recordCorrect | releasePlanCreate | releasePlanFinalize
  | releasePlanRecordQualification | releasePlanRecordReconciliation
  | releasePlanRecordResult | releasePlanRequestExecution | storyActivate
  | storyApproveRelease | storyAuthorize | storyBeginPlanning | storyCreate
  | storyRequestAcceptance | storyRequestCompletion | systemBeginReconciliation
  | systemBindOperatorRole | systemConfigureContinuity | systemRecordSuspended
  | systemRecordUnexpectedOutage | systemRequestQuiescence | systemResume
  | taskAcquireOwnership | taskActivate | taskAuthorizeQualifiedAssignment
  | taskBindOperationalScope | taskBindWorkBudget | taskBindWorkProfile | taskCreate
  | taskDispatch | taskForceReassign | taskHandoff | taskMarkReady | taskReleaseOwnership
  | taskRequestCompletion | variantGroupOpen | variantGroupRecordComparison
  | variantGroupSelect | variantGroupSubmitCandidate | workBudgetAmend | workBudgetCreate
  | workInvocationAuthorize | workInvocationClaim | workInvocationExpire
  | workInvocationRecordStarted | workInvocationRecordTerminal
  | workInvocationRequestCancellation | workBlock | workClose | workCreateSuccessor
  | workReopen | workUnblock | workflowCreate | workflowProposeWork
  | workflowRecordCheckpoint | workflowRecordStageResult
  | other (text : String)
deriving DecidableEq

inductive EventType where
  | completionReviewFinalized | completionReviewOpened | completionReviewResultRecorded
  | escalationOpened | escalationResolved | evidenceRegistered | executionRegistered
  | executionReplaced | humanInteractionClosed | humanInteractionDeliveryRecorded
  | humanInteractionExpired | humanInteractionOpened | humanInteractionResponseRecorded
  | humanParticipantProfileBound | humanParticipantRevoked | projectionFaultRecorded
  | recordCorrected | releasePlanCreated | releasePlanExecutionRequested
  | releasePlanFinalized | releasePlanQualificationRecorded
  | releasePlanReconciliationRecorded | releasePlanResultRecorded | storyAccepted
  | storyActivated | storyAuthorized | storyCompleted | storyCreated | storyPlanningStarted
  | storyReleaseApproved | systemContinuityConfigured | systemOperatorRoleBound
  | systemQuiescenceRequested | systemReconciliationStarted | systemResumed
  | systemSuspended | systemUnexpectedOutageRecorded | taskActivated | taskCompleted
  | taskCreated | taskDispatched | taskForceReassigned | taskHandedOff
  | taskOperationalScopeBound | taskOwnershipAcquired | taskOwnershipReleased
  | taskQualifiedAssignmentAuthorized | taskReadied | taskWorkBudgetBound
  | taskWorkProfileBound | variantGroupCandidateSubmitted | variantGroupComparisonRecorded
  | variantGroupOpened | variantGroupSelected | workBudgetAmended | workBudgetCreated
  | workInvocationAuthorized | workInvocationCancellationRequested | workInvocationClaimed
  | workInvocationExpired | workInvocationStarted | workInvocationTerminalRecorded
  | workBlocked | workClosed | workReopened | workSuccessorCreated | workUnblocked
  | workflowCheckpointRecorded | workflowCreated | workflowStageResultRecorded
  | workflowWorkAdmitted | workflowWorkRejected
  | other (text : String)
deriving DecidableEq

end Tekroo.Kernel
