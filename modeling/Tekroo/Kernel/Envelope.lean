import Tekroo.Kernel.Payload
import Tekroo.Lib.Sorting

namespace Tekroo.Kernel

open Lib

/-! # Commands, events, decisions and snapshots -/

structure ExpectedRevision where
  mustNotExist : Bool
  revision : Nat
deriving DecidableEq

/-- Exactly one of the two forms: a positive revision, or must-not-exist. -/
def ExpectedRevision.valid (expected : ExpectedRevision) : Bool :=
  expected.mustNotExist != decide (0 < expected.revision)

structure AggregatePrecondition where
  aggregate : AggregateRef
  expected : ExpectedRevision
deriving DecidableEq

structure KernelCommand where
  contractManifest : String
  commandID : UUIDv7
  commandType : CommandType
  commandVersion : String
  target : AggregateRef
  authority : PrincipalRef
  actorFQN : Option ActorFQN
  execution : Option ExecutionTuple
  expectedRevision : ExpectedRevision
  preconditions : List AggregatePrecondition
  expectedLifecycleEpoch : Option Nat
  expectedPolicyRevision : Nat
  expectedCatalogueRevision : Nat
  idempotencyKey : String
  correlationID : UUIDv7
  causation : List DagParent
  issuedAt : Option Time
  payload : Payload
  /-- What the payload holds besides the fields that `payload` keeps. -/
  unreadPayload : String := ""
  evidenceRefs : List EvidenceRef

inductive OutcomeCode where
  | applied | noChange | rejectedInvalid | rejectedUnauthorized | rejectedNotFound
  | rejectedConflict | rejectedStaleExecution | rejectedClosed | rejectedPolicy
deriving DecidableEq

structure CommandReceipt where
  contractManifest : String
  commandID : UUIDv7
  commandType : CommandType
  target : AggregateRef
  outcomeCode : OutcomeCode
  reasonCode : String
  stateChanged : Bool
  resultingRevision : Option Nat
  eventIDs : List UUIDv7
  receivedAt : Time
  decidedAt : Time
  provenanceDigest : Digest

structure DomainEvent where
  contractManifest : String
  eventID : UUIDv7
  eventType : EventType
  eventVersion : String
  aggregate : AggregateRef
  aggregateRevision : Nat
  lifecycleEpoch : Nat
  commandID : UUIDv7
  authority : PrincipalRef
  actorFQN : Option ActorFQN
  execution : Option ExecutionTuple
  parents : List DagParent
  committedAt : Time
  payload : Payload
  provenanceDigest : Digest

/-- The event the policies build to try a transition: its other fields stay at their zero
values, and no transition reads them. -/
def DomainEvent.trial (eventType : EventType) (eventID : UUIDv7) (aggregate : AggregateRef)
    (aggregateRevision : Nat) (committedAt : Time) (payload : Payload) : DomainEvent where
  contractManifest := ""
  eventID
  eventType
  eventVersion := ""
  aggregate
  aggregateRevision
  lifecycleEpoch := 0
  commandID := .text ""
  authority := ⟨.other "", ""⟩
  actorFQN := none
  execution := none
  parents := []
  committedAt
  payload
  provenanceDigest := .text ""

structure AuthorityScope where
  commandTypes : List CommandType
  targetKinds : List AggregateKind
  targetIDs : List UUIDv7
  canReadTarget : Bool
  requiresOwner : Bool
  canReopenAccepted : Bool
deriving DecidableEq

structure AuthorityGrant where
  grantDigest : Digest
  grantee : PrincipalRef
  scope : AuthorityScope
  expiresAt : Option Time
  revoked : Bool
  allowDelegation : Bool

structure AuthorityDelegation where
  delegationDigest : Digest
  parentDigest : Digest
  source : PrincipalRef
  recipient : PrincipalRef
  scope : AuthorityScope
  expiresAt : Option Time
  revoked : Bool
  allowFurther : Bool
deriving DecidableEq

/-- The requirements the evaluator reads. -/
structure DecisionPolicyRequirements where
  completionCriteriaRevision : Nat
  attemptLimits : Table CommandType Nat
  allowUnchangedRetry : Bool

structure AuthorizationPolicy where
  policyDigest : Digest
  revision : Nat
  requirements : DecisionPolicyRequirements
  grants : List AuthorityGrant
  delegations : List AuthorityDelegation
  /-- How `sort.Slice` arranges the two lists; digests may repeat. -/
  grantSort : SliceSort Digest.le AuthorityGrant.grantDigest :=
    .insertion Digest.le_total Digest.le_trans _
  delegationSort : SliceSort Digest.le AuthorityDelegation.delegationDigest :=
    .insertion Digest.le_total Digest.le_trans _

structure AuthorityDecision where
  principal : PrincipalRef
  allowed : Bool
  canReadTarget : Bool
  reason : String
  policyDigest : Digest
  policyRevision : Nat
  grantDigests : List Digest
  delegationDigests : List Digest

structure SourceIdentity where
  repository : String
  commit : String
  treeDigest : Digest
  scope : String

structure OverlayIdentity where
  sourceTreeDigest : Digest
  changeDigest : Digest

structure BuildIdentity where
  sourceTreeDigest : Digest
  overlayDigest : Digest
  dependencyLockDigest : Digest
  toolchainDigest : Digest
  buildDefinitionDigest : Digest
  artifactDigest : Digest

structure RuntimeIdentity where
  buildArtifactDigest : Digest
  contractManifest : String
  configurationDigest : Digest
  environmentDigest : Digest
  roleLibraryDigests : List Digest
  capabilities : List String
  providerIdentities : List String

structure ProvenanceBasis where
  catalogueDigest : Digest
  policyDigest : Digest
  policyRevision : Nat
  grantDigests : List Digest
  delegationDigests : List Digest
  source : SourceIdentity
  overlay : OverlayIdentity
  build : BuildIdentity
  runtime : RuntimeIdentity

structure DecisionProvenance where
  contractManifest : String
  commandID : UUIDv7
  commandFingerprint : Digest
  principal : PrincipalRef
  basis : ProvenanceBasis
  actorFQN : Option ActorFQN
  execution : Option ExecutionTuple
  parents : List DagParent
  evidenceRefs : List EvidenceRef
  receivedAt : Time
  decidedAt : Time

inductive OutboxKind where
  | domainEvent | workInvocationAuthorized

structure OutboxIntent where
  intentID : UUIDv7
  eventID : UUIDv7
  kind : OutboxKind

structure AttemptBudgetKey where
  subject : AggregateRef
  operation : CommandType
deriving DecidableEq

/-- Attempts are keyed by the id of the command that made them. -/
structure AttemptBudgetSnapshot where
  limit : Nat
  used : Nat
  attempts : Table UUIDv7 Digest

structure AttemptBudgetDecision where
  key : AttemptBudgetKey
  expectedUsed : Nat
  limit : Nat
  attemptKey : UUIDv7
  conditionDigest : Digest

structure DecisionGuards where
  executions : Table ActorFQN ExecutionTuple := ∅
  absentExecutions : List ActorFQN := []
  parentIDs : List UUIDv7 := []
  evidenceRefs : List EvidenceRef := []
  preconditions : List AggregatePrecondition := []
  policyDigest : Digest := .text ""
  policyRevision : Nat := 0
  absentReviewKeys : List CompletionReviewKey := []
  absentEscalationKeys : List EscalationKey := []
  absentReleaseKeys : List ReleasePlanKey := []
  absentVariantKeys : List VariantGroupKey := []

structure Decision where
  commandFingerprint : Digest
  idempotencyScope : Digest
  nextState : Option AggregateState
  events : List DomainEvent
  receipt : CommandReceipt
  authority : AuthorityDecision
  outbox : List OutboxIntent
  guards : DecisionGuards
  provenance : DecisionProvenance
  attemptBudget : Option AttemptBudgetDecision
  workBudget : Option WorkBudgetDebitDecision

structure DecisionContext where
  receivedAt : Time
  decidedAt : Time
  eventID : UUIDv7
  intentID : UUIDv7
  provenance : ProvenanceBasis

structure RelatedSnapshot where
  present : Bool
  revision : Nat
  state : Option AggregateState

structure AcceptedEvent where
  eventType : EventType
  quarantined : Bool
  qualification : Option JoinStatus

structure EvidenceMetadata where
  sha256 : Digest
  available : Bool

/-- What a store hands out for one command.  `present` is the source's `Exists`; the
accepted events are the log, read by event id. -/
structure Snapshot where
  present : Bool
  revision : Nat
  state : Option AggregateState
  acceptedEvents : UUIDv7 → Option AcceptedEvent
  currentExecutions : Table ActorFQN ExecutionTuple
  evidence : Table UUIDv7 EvidenceMetadata
  related : Table AggregateRef RelatedSnapshot
  authorization : AuthorizationPolicy
  openReviews : Table CompletionReviewKey AggregateRef
  reviews : Table AggregateRef CompletionReviewSnapshot
  escalations : Table AggregateRef EscalationSnapshot
  escalationKeys : Table EscalationKey AggregateRef
  releasePlans : Table AggregateRef ReleasePlanSnapshot
  releasePlanKeys : Table ReleasePlanKey AggregateRef
  attemptBudgets : Table AttemptBudgetKey AttemptBudgetSnapshot
  workProfiles : Table AggregateRef WorkProfileSnapshot
  qualifiedAssignments : Table AggregateRef QualifiedAssignmentAuthorization
  variantGroups : Table AggregateRef VariantGroupSnapshot
  variantGroupKeys : Table VariantGroupKey AggregateRef
  workBudgetAccounts : Table AggregateRef WorkBudgetAccount
  taskWorkBudgets : Table AggregateRef TaskWorkBudgetBinding
  taskOperationalScopes : Table AggregateRef TaskOperationalScope
  workInvocations : Table AggregateRef WorkInvocation

end Tekroo.Kernel
