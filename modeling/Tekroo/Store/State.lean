import Tekroo.Kernel.Evaluator
import Tekroo.Kernel.Fold
import Tekroo.Lib.Table

namespace Tekroo.Kernel

open Checked

/-! # The in-memory decision store

The event map is keyed by event id and never loses an entry, so it is kept as the list of events in
the order in which they were committed.
-/

inductive FaultPoint where
  | none | beforeState | beforeEvents | beforeReceipt | beforeAuthority | beforeOutbox
  | afterCommitBeforeAck
deriving DecidableEq

/-- The fault points at which `Commit` fails before it writes. -/
def FaultPoint.beforeWrite : FaultPoint → Bool
  | .none | .afterCommitBeforeAck => false
  | _ => true

structure DecisionIdentity where
  commandID : UUIDv7
  fingerprint : Digest
  scope : Digest

structure IdentityConflictAudit where
  commandID : UUIDv7
  idempotencyScope : Digest
  fingerprint : Digest
  reasonCode : String
  observedAt : Time
  provenanceDigest : Digest

structure Store where
  states : Table AggregateRef AggregateState := ∅
  revisions : Table AggregateRef Nat := ∅
  receipts : Table UUIDv7 CommandReceipt := ∅
  commandBindings : Table UUIDv7 DecisionIdentity := ∅
  idempotency : Table Digest DecisionIdentity := ∅
  events : List DomainEvent := []
  executions : Table ActorFQN ExecutionTuple := ∅
  evidence : Table UUIDv7 EvidenceMetadata := ∅
  authority : Table UUIDv7 AuthorityDecision := ∅
  outbox : Table UUIDv7 OutboxIntent := ∅
  identityConflicts : List IdentityConflictAudit := []
  provenance : Table Digest DecisionProvenance := ∅
  authorizationPolicy : AuthorizationPolicy
  openReviews : Table CompletionReviewKey AggregateRef := ∅
  reviews : Table AggregateRef CompletionReviewSnapshot := ∅
  escalations : Table AggregateRef EscalationSnapshot := ∅
  escalationKeys : Table EscalationKey AggregateRef := ∅
  releasePlans : Table AggregateRef ReleasePlanSnapshot := ∅
  releasePlanKeys : Table ReleasePlanKey AggregateRef := ∅
  eventQualifications : Table UUIDv7 JoinStatus := ∅
  attemptBudgets : Table AttemptBudgetKey AttemptBudgetSnapshot := ∅
  workProfiles : Table AggregateRef WorkProfileSnapshot := ∅
  workProfileHistory : Table UUIDv7 WorkRiskProfile := ∅
  qualifiedAssignments : Table AggregateRef QualifiedAssignmentAuthorization := ∅
  variantGroups : Table AggregateRef VariantGroupSnapshot := ∅
  variantGroupKeys : Table VariantGroupKey AggregateRef := ∅
  workBudgetAccounts : Table AggregateRef WorkBudgetAccount := ∅
  taskWorkBudgets : Table AggregateRef TaskWorkBudgetBinding := ∅
  taskOperationalScopes : Table AggregateRef TaskOperationalScope := ∅
  workInvocations : Table AggregateRef WorkInvocation := ∅
  faultPoint : FaultPoint := .none

inductive StoreError where
  | invalidDecision | conflict | receiptConflict | commandIdentityConflict
  | idempotencyKeyConflict | decisionAlreadyCommitted | injectedFault
  | receiptAccessDenied
deriving DecidableEq

/-- What `Commit` returns; `uncertain` is `ErrCommitUncertain`. -/
inductive CommitResult where
  | failed (reason : StoreError)
  | uncertain
  | acknowledged

/-- What a missing entry of the receipt map reads as. -/
def CommandReceipt.zero : CommandReceipt where
  contractManifest := ""
  commandID := .text ""
  commandType := .other ""
  target := ⟨.other "", .text ""⟩
  outcomeCode := .rejectedInvalid
  reasonCode := ""
  stateChanged := false
  resultingRevision := none
  eventIDs := []
  receivedAt := 0
  decidedAt := 0
  provenanceDigest := .text ""

namespace Store

/-- `NewStoreWithFault` -/
def new (policy : AuthorizationPolicy) (faultPoint : FaultPoint) : Store :=
  { authorizationPolicy := policy, faultPoint }

variable (store : Store)

def setAuthorizationPolicy (policy : AuthorizationPolicy) : Store :=
  { store with authorizationPolicy := policy }

def event? (id : UUIDv7) : Option DomainEvent :=
  store.events.find? fun event => event.eventID == id

def relatedSnapshot (reference : AggregateRef) : RelatedSnapshot where
  present := (store.revisions.lookup reference).isSome
  revision := (store.revisions.lookup reference).getD 0
  state := store.states.lookup reference

def loadDecision (command : KernelCommand) : Snapshot where
  present := (store.revisions.lookup command.target).isSome
  revision := (store.revisions.lookup command.target).getD 0
  state :=
    if (store.revisions.lookup command.target).isSome then store.states.lookup command.target
    else none
  acceptedEvents := fun id => (store.event? id).map fun event =>
    { eventType := event.eventType
      quarantined := false
      qualification := store.eventQualifications.lookup id }
  currentExecutions := store.executions
  evidence := store.evidence
  related := Tekroo.Lib.insertAll ∅ (command.preconditions.map fun precondition =>
    (precondition.aggregate, store.relatedSnapshot precondition.aggregate))
  authorization := store.authorizationPolicy
  openReviews := store.openReviews
  reviews := store.reviews
  escalations := store.escalations
  escalationKeys := store.escalationKeys
  releasePlans := store.releasePlans
  releasePlanKeys := store.releasePlanKeys
  attemptBudgets := store.attemptBudgets
  workProfiles := store.workProfiles
  qualifiedAssignments := store.qualifiedAssignments
  variantGroups := store.variantGroups
  variantGroupKeys := store.variantGroupKeys
  workBudgetAccounts := store.workBudgetAccounts
  taskWorkBudgets := store.taskWorkBudgets
  taskOperationalScopes := store.taskOperationalScopes
  workInvocations := store.workInvocations

def canReadReceipt (command : KernelCommand) (moment : Time) : Bool :=
  (store.authorizationPolicy.authorize command (store.states.lookup command.target)
    moment).canReadTarget

/-- `LookupReceipt`: the receipt of the command id, else the one of the idempotency scope. -/
def lookupReceipt (hashes : Hashes) (store : Store) (command : KernelCommand) (moment : Time) :
    Except StoreError (Option CommandReceipt) :=
  let fingerprint := commandFingerprint hashes command
  let scope := idempotencyScopeDigest hashes command
  match store.receipts.lookup command.commandID with
  | some receipt => do
    refuse (!store.canReadReceipt command moment) .receiptAccessDenied
    refuse (!(store.commandBindings.lookup command.commandID).any (fun binding =>
      binding.fingerprint == fingerprint && binding.scope == scope)) .commandIdentityConflict
    return some receipt
  | none =>
    match store.idempotency.lookup scope with
    | some prior => do
      refuse (!store.canReadReceipt command moment) .receiptAccessDenied
      refuse (prior.fingerprint != fingerprint) .idempotencyKeyConflict
      return some ((store.receipts.lookup prior.commandID).getD .zero)
    | none => .ok none

def recordIdentityConflict (audit : IdentityConflictAudit) : Except StoreError Store :=
  if !audit.commandID.valid || !audit.idempotencyScope.valid || !audit.fingerprint.valid ||
      audit.reasonCode == "" || audit.observedAt.isZero || !audit.provenanceDigest.valid then
    .error .invalidDecision
  else .ok { store with identityConflicts := store.identityConflicts ++ [audit] }

/-- The events of one aggregate in revision order, as `VerifyAggregate` sorts them. -/
def aggregateEvents (target : AggregateRef) : List DomainEvent :=
  (store.events.filter fun event => event.aggregate == target).insertionSort
    fun left right => left.aggregateRevision ≤ right.aggregateRevision

/-- `VerifyAggregate`: the replay of the aggregate's events is its stored state. -/
def verifyAggregate (target : AggregateRef) : Bool :=
  match store.states.lookup target, foldAggregate (store.aggregateEvents target) with
  | some stored, .ok (some folded) => folded == stored
  | _, _ => false

end Store

end Tekroo.Kernel
