import Tekroo.Store.Interleaving

namespace Tekroo.Kernel

open Lib

/-! # Scripts

A script is a list of commands that one handler decides one after another, each on the store
as it finds it.  Scripts reach the stores that examples are about.
-/

structure Entry where
  command : KernelCommand
  context : DecisionContext

namespace Evaluator

def perform (evaluator : Evaluator) (shared : Shared Store) (entry : Entry) : Shared Store :=
  shared.copy.apply evaluator.update shared.current (.decide entry.command entry.context)

def script (evaluator : Evaluator) (shared : Shared Store) (entries : List Entry) : Shared Store :=
  entries.foldl evaluator.perform shared

variable {evaluator : Evaluator} {allowed : Store → Store → StoreInput → Prop}
  {shared : Shared Store} {entries : List Entry}

theorem Reaches.start (policy : AuthorizationPolicy) (faultPoint : FaultPoint) :
    evaluator.Reaches allowed ⟨.new policy faultPoint, []⟩ :=
  ⟨policy, faultPoint, .refl⟩

section

variable (reached : evaluator.Reaches allowed shared)

include reached

theorem Reaches.copy :
    evaluator.Reaches allowed shared.copy := by
  obtain ⟨policy, faultPoint, run⟩ := reached
  exact ⟨policy, faultPoint, run.copy⟩

theorem Reaches.perform {entry : Entry}
    (permitted : allowed shared.current shared.current (.decide entry.command entry.context)) :
    evaluator.Reaches allowed (evaluator.perform shared entry) := by
  obtain ⟨policy, faultPoint, run⟩ := reached
  exact ⟨policy, faultPoint, run.copy.update (by simp [Shared.copy]) permitted⟩

theorem Reaches.script
    (permitted : ∀ entry ∈ entries, ∀ copy current, allowed copy current (.decide entry.command
      entry.context)) :
    evaluator.Reaches allowed (evaluator.script shared entries) := by
  induction entries generalizing shared with
  | nil => exact reached
  | cons entry rest induction =>
    exact induction (reached.perform (permitted entry (by simp) _ _))
      fun later member => permitted later (by simp [member])

end

/-- The copy that a handler takes after a script is among the copies, whatever is performed
after it. -/
theorem copy_taken {copy : Store} (taken : copy ∈ shared.copies) :
    copy ∈ (evaluator.script shared entries).copies := by
  induction entries generalizing shared with
  | nil => exact taken
  | cons entry rest induction =>
    exact induction (List.mem_append.mpr (.inl taken))

end Evaluator

/-! ## A setting to run scripts in

One policy that lets a principal of each kind do everything, and digests that tell the commands
of a script apart. -/

namespace Sample

def UUIDv7.toNat : UUIDv7 → Nat
  | .number value => value
  | .text _ => 0

def hashes : Hashes where
  semantic command := 1000 * UUIDv7.toNat command.target.id + command.expectedRevision.revision
  scope scope := scope.idempotencyKey.utf8ByteSize
  provenance record := UUIDv7.toNat record.commandID
  overlay _ := 0

def evaluator : Evaluator where
  catalogue := ⟨fun _ _ _ => true⟩
  hashes

def commandTypes : List CommandType :=
  [.storyCreate, .storyAuthorize, .storyBeginPlanning, .storyActivate, .storyRequestCompletion,
    .storyApproveRelease, .storyRequestAcceptance, .taskCreate, .taskBindWorkProfile,
    .taskAuthorizeQualifiedAssignment, .taskMarkReady, .taskDispatch, .taskAcquireOwnership,
    .taskActivate, .taskRequestCompletion, .taskBindWorkBudget, .taskBindOperationalScope,
    .workReopen, .workClose, .evidenceRegister, .executionRegister, .executionReplace,
    .completionReviewOpen, .completionReviewRecordResult, .completionReviewFinalize,
    .releasePlanCreate, .releasePlanFinalize, .workBudgetCreate, .workBudgetAmend,
    .workInvocationAuthorize, .workInvocationClaim, .workInvocationRecordStarted,
    .workInvocationRecordTerminal, .workInvocationRequestCancellation, .workInvocationExpire]

def scope : AuthorityScope where
  commandTypes
  targetKinds := [.story, .task, .completionReview, .releasePlan, .evidence, .execution,
    .workBudget, .workInvocation]
  targetIDs := []
  canReadTarget := true
  requiresOwner := false
  canReopenAccepted := true

def actor : ActorFQN := ⟨"t::r-1"⟩

def principal : PrincipalKind → PrincipalRef
  | .actor => ⟨.actor, actor.text⟩
  | kind => ⟨kind, "p"⟩

variable (value : Nat) (kind : PrincipalKind)

def grant : AuthorityGrant where
  grantDigest := .number value
  grantee := principal kind
  scope
  expiresAt := none
  revoked := false
  allowDelegation := false

def policy : AuthorizationPolicy where
  policyDigest := .number 1
  revision := 1
  requirements := {
    completionCriteriaRevision := 1
    attemptLimits := ∅
    allowUnchangedRetry := false }
  grants := [grant 1 .policy, grant 2 .human, grant 3 .service, grant 4 .actor]
  delegations := []

def basis : ProvenanceBasis where
  catalogueDigest := .number 0
  policyDigest := .number 1
  policyRevision := 1
  grantDigests := []
  delegationDigests := []
  source := ⟨"r", "c", .number 0, "s"⟩
  overlay := ⟨.number 0, .number 0⟩
  build := ⟨.number 0, .number 0, .number 0, .number 0, .number 0, .number 0⟩
  runtime := ⟨.number 0, contractIdentity, .number 0, .number 0, [], [], []⟩

def context : DecisionContext where
  receivedAt := 1
  decidedAt := 1
  eventID := .number value
  intentID := .number value
  provenance := basis

def create : ExpectedRevision := ⟨true, 0⟩

def revision : ExpectedRevision := ⟨false, value⟩

def evidence : EvidenceRef := ⟨.number 1, .number 1⟩

def command (commandType : CommandType) (target : AggregateRef) (expected : ExpectedRevision)
    (payload : Payload) : KernelCommand where
  contractManifest := contractIdentity
  commandID := .number value
  commandType
  commandVersion := ((commandEntry commandType).map (·.version)).getD ""
  target
  authority := principal kind
  actorFQN := none
  execution := none
  expectedRevision := expected
  preconditions := []
  expectedLifecycleEpoch := none
  expectedPolicyRevision := 1
  expectedCatalogueRevision := catalogueRevision
  idempotencyKey := String.ofList (List.replicate value 'k')
  correlationID := .number 0
  causation := []
  issuedAt := none
  payload
  evidenceRefs := []

def entry (command : KernelCommand) : Entry := ⟨command, context (UUIDv7.toNat command.commandID)⟩

def start : Shared Store := ⟨.new policy .none, []⟩

def execution : ExecutionTuple := ⟨.number (30 + value), value⟩

def asActor (command : KernelCommand) : KernelCommand :=
  { command with actorFQN := some actor, execution := some (execution 1) }

def workCommand (commandType : CommandType) (work : AggregateRef) (epoch expected : Nat)
    (payload : Payload) : KernelCommand :=
  { command value kind commandType work (revision expected) payload with
    expectedLifecycleEpoch := some epoch
    causation := [⟨.number 1, .causal⟩]
    evidenceRefs := [evidence] }

def registerEvidence : KernelCommand :=
  command 1 .policy .evidenceRegister ⟨.evidence, .number 1⟩ create (.evidenceRegister (.number 1))

def registerExecution : KernelCommand :=
  command 2 .policy .executionRegister ⟨.execution, .number 30⟩ create
    (.executionRegister ⟨actor, .number 31, 1⟩)

def profile : WorkRiskProfile where
  taskID := .number 20
  profileID := .number 21
  profileRevision := 1
  profileDigest := .number 21
  lifecycleEpoch := 1
  scopeRevision := 1
  workKind := .implementation
  ambiguity := .low
  novelty := .routine
  blastRadius := .local
  securitySensitivity := .ordinary
  minimumDecisionRoute := .boundedExecution
  acceptanceCriteriaDigest := .number 0
  requiredDeterministicGateIDs := ["g"]
  requiredValidationBranches := 1
  requiredIndependenceDimensions := [.principal]
  implementationVariantCount := 1
  validCandidateQuorum := 1
  verificationTopologyDigest := .number 0
  classificationPolicyRevision := 1
  classificationPolicyDigest := .number 0
  promotionPolicyRevision := 1
  promotionPolicyDigest := .number 0
  budgets := ⟨1, 1, 1, 1, 100⟩
  classificationAuthority := principal .policy
  classificationEvidenceIDs := [.number 1]
  supersedesProfileID := none

end Sample

end Tekroo.Kernel
