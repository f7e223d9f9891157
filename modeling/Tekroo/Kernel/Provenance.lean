import Tekroo.Kernel.Authorization

namespace Tekroo.Kernel

/-! # Fingerprints, idempotency scopes and decision provenance

Digests are SHA-256 over canonical JSON.  The model keeps what goes into each digest
as a record and leaves the hash itself a parameter.
-/

def DagParent.le (left right : DagParent) : Bool :=
  if left.edgeKind.rank = right.edgeKind.rank then left.parentEventID.le right.parentEventID
  else decide (left.edgeKind.rank ≤ right.edgeKind.rank)

variable {left right : DagParent}

theorem DagParent.le_iff : left.le right = true ↔
    left.edgeKind.rank < right.edgeKind.rank ∨
      left.edgeKind.rank = right.edgeKind.rank ∧
        left.parentEventID.le right.parentEventID = true := by
  unfold le
  split
  · next same => simp [same]
  · next other => simp [other, Nat.lt_iff_le_and_ne]

instance : Std.Total fun left right : DagParent => left.le right = true where
  total left right := by
    have ids := UUIDv7.le_total left.parentEventID right.parentEventID
    rw [DagParent.le_iff, DagParent.le_iff]
    grind

instance : IsTrans DagParent fun left right => left.le right = true where
  trans left middle right first second := by
    rw [DagParent.le_iff] at first second ⊢
    rcases first with earlier | ⟨same, before⟩
    · grind
    · rcases second with later | ⟨alike, after⟩
      · grind
      · exact .inr ⟨same.trans alike, UUIDv7.le_trans before after⟩

theorem DagParent.le_antisymm (valid : left.edgeKind.valid = true)
    (also : right.edgeKind.valid = true) (first : left.le right = true)
    (second : right.le left = true) : left = right := by
  rw [DagParent.le_iff] at first second
  obtain ⟨same, before⟩ := first.resolve_left (by omega)
  obtain ⟨_, after⟩ := second.resolve_left (by omega)
  obtain ⟨id, edge⟩ := left
  obtain rfl : id = right.parentEventID := UUIDv7.le_antisymm before after
  obtain rfl : edge = right.edgeKind := EdgeKind.rank_inj valid also same
  rfl

def EvidenceRef.le (left right : EvidenceRef) : Bool :=
  if left.evidenceID = right.evidenceID then left.sha256.le right.sha256
  else left.evidenceID.le right.evidenceID

def AggregateRef.le (left right : AggregateRef) : Bool :=
  if left.kind.rank = right.kind.rank then left.id.le right.id
  else decide (left.kind.rank ≤ right.kind.rank)

def canonicalParents (parents : List DagParent) : List DagParent :=
  parents.insertionSort fun left right => left.le right

theorem canonicalParents_sorted (parents : List DagParent) :
    (canonicalParents parents).Pairwise fun left right => left.le right = true :=
  List.pairwise_insertionSort _ parents

theorem canonicalParents_perm (parents : List DagParent) :
    (canonicalParents parents).Perm parents :=
  List.perm_insertionSort _ parents

def canonicalPreconditions (values : List AggregatePrecondition) : List AggregatePrecondition :=
  values.insertionSort fun left right => left.aggregate.le right.aggregate

/-- What `CommandFingerprint` digests: neither the command id nor the idempotency key. -/
structure SemanticCommand where
  contractManifest : String
  commandType : CommandType
  commandVersion : String
  target : AggregateRef
  authority : PrincipalRef
  actorFQN : Option ActorFQN
  execution : Option ExecutionTuple
  expectedRevision : ExpectedRevision
  preconditions : List AggregatePrecondition
  expectedLifecycleEpoch : Option Nat
  expectedPolicyRevision : Nat
  expectedCatalogueRevision : Nat
  causation : List DagParent
  payload : Payload
  unreadPayload : String
  evidenceRefs : List EvidenceRef

def KernelCommand.semantic (command : KernelCommand) : SemanticCommand where
  contractManifest := command.contractManifest
  commandType := command.commandType
  commandVersion := command.commandVersion
  target := command.target
  authority := command.authority
  actorFQN := command.actorFQN
  execution := command.execution
  expectedRevision := command.expectedRevision
  preconditions := canonicalPreconditions command.preconditions
  expectedLifecycleEpoch := command.expectedLifecycleEpoch
  expectedPolicyRevision := command.expectedPolicyRevision
  expectedCatalogueRevision := command.expectedCatalogueRevision
  causation := canonicalParents command.causation
  payload := command.payload
  unreadPayload := command.unreadPayload
  evidenceRefs := command.evidenceRefs.insertionSort fun left right => left.le right

structure IdempotencyScope where
  contractManifest : String
  principal : PrincipalRef
  commandType : CommandType
  target : AggregateRef
  idempotencyKey : String

def KernelCommand.scope (command : KernelCommand) : IdempotencyScope where
  contractManifest := command.contractManifest
  principal := command.authority
  commandType := command.commandType
  target := command.target
  idempotencyKey := command.idempotencyKey

/-- SHA-256 of the canonical JSON of each record the kernel digests. -/
structure Hashes where
  semantic : SemanticCommand → Nat
  scope : IdempotencyScope → Nat
  provenance : DecisionProvenance → Nat
  overlay : OverlayIdentity → Nat

variable (hashes : Hashes)

def commandFingerprint (command : KernelCommand) : Digest :=
  .number (hashes.semantic command.semantic)

def idempotencyScopeDigest (command : KernelCommand) : Digest :=
  .number (hashes.scope command.scope)

def DecisionProvenance.digest (record : DecisionProvenance) : Digest :=
  .number (hashes.provenance record)

def OverlayIdentity.digest (identity : OverlayIdentity) : Digest :=
  .number (hashes.overlay identity)

def SourceIdentity.valid (identity : SourceIdentity) : Bool :=
  identity.repository != "" && identity.commit != "" && identity.scope != "" &&
    identity.treeDigest.valid

def OverlayIdentity.valid (identity : OverlayIdentity) : Bool :=
  identity.sourceTreeDigest.valid && identity.changeDigest.valid

def BuildIdentity.valid (identity : BuildIdentity) : Bool :=
  identity.sourceTreeDigest.valid && identity.overlayDigest.valid &&
    identity.dependencyLockDigest.valid && identity.toolchainDigest.valid &&
    identity.buildDefinitionDigest.valid && identity.artifactDigest.valid

def RuntimeIdentity.valid (identity : RuntimeIdentity) : Bool :=
  identity.buildArtifactDigest.valid && identity.contractManifest == contractIdentity &&
    identity.configurationDigest.valid && identity.environmentDigest.valid &&
    identity.roleLibraryDigests.all Digest.valid

def ProvenanceBasis.valid (basis : ProvenanceBasis) : Bool :=
  basis.catalogueDigest.valid && basis.policyDigest.valid &&
    decide (0 < basis.policyRevision) && basis.source.valid && basis.overlay.valid &&
    basis.build.valid && basis.runtime.valid && basis.grantDigests.all Digest.valid &&
    basis.delegationDigests.all Digest.valid &&
    basis.overlay.sourceTreeDigest == basis.source.treeDigest &&
    basis.build.sourceTreeDigest == basis.source.treeDigest &&
    basis.runtime.buildArtifactDigest == basis.build.artifactDigest &&
    basis.runtime.contractManifest == contractIdentity &&
    basis.build.overlayDigest == basis.overlay.digest hashes

def basisAndContextValid (context : DecisionContext) : Bool :=
  context.provenance.valid hashes && !context.receivedAt.isZero &&
    !context.decidedAt.isZero && !decide (context.decidedAt < context.receivedAt)

def validateDecisionContext (context : DecisionContext) : Bool :=
  !context.receivedAt.isZero && !context.decidedAt.isZero &&
    !decide (context.decidedAt < context.receivedAt) && context.eventID.valid &&
    context.intentID.valid && context.provenance.valid hashes

/-- `DecisionProvenance.Valid`: an execution is only valid together with its actor. -/
def DecisionProvenance.valid (record : DecisionProvenance) : Bool :=
  record.contractManifest == contractIdentity && record.commandID.valid &&
    record.commandFingerprint.valid && record.principal.valid && record.basis.valid hashes &&
    !record.receivedAt.isZero && !record.decidedAt.isZero &&
    !decide (record.decidedAt < record.receivedAt) && record.actorFQN.all ActorFQN.valid &&
    record.execution.all (fun execution => record.actorFQN.isSome && execution.valid) &&
    record.parents.all (fun parent => parent.parentEventID.valid && parent.edgeKind.valid) &&
    record.evidenceRefs.all (fun evidence => evidence.evidenceID.valid && evidence.sha256.valid)

def decisionProvenance (command : KernelCommand) (fingerprint : Digest)
    (context : DecisionContext) : DecisionProvenance where
  contractManifest := command.contractManifest
  commandID := command.commandID
  commandFingerprint := fingerprint
  principal := command.authority
  basis := context.provenance
  actorFQN := command.actorFQN
  execution := command.execution
  parents := canonicalParents command.causation
  evidenceRefs := command.evidenceRefs
  receivedAt := context.receivedAt
  decidedAt := context.decidedAt

def buildDecisionProvenance (command : KernelCommand) (fingerprint : Digest)
    (context : DecisionContext) : Option DecisionProvenance :=
  if basisAndContextValid hashes context && fingerprint.valid then
    some (decisionProvenance command fingerprint context)
  else none

end Tekroo.Kernel
