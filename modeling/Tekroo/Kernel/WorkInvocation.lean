import Tekroo.Kernel.Variant

namespace Tekroo.Kernel

open Checked

/-! # Work budgets and invocations -/

inductive WorkPurpose where
  | investigation | implementation | validation | review | repair | handoff | replan
  | promotion | escalation
  | other (text : String)
deriving DecidableEq

def allWorkPurposes : List WorkPurpose :=
  [.investigation, .implementation, .validation, .review, .repair, .handoff, .replan,
    .promotion, .escalation]

def WorkPurpose.valid (purpose : WorkPurpose) : Bool := allWorkPurposes.contains purpose

abbrev PurposeCounters := Table WorkPurpose Nat

namespace PurposeCounters

/-- Reading a missing entry of a Go map gives zero. -/
def count (counters : PurposeCounters) (purpose : WorkPurpose) : Nat :=
  (counters.lookup purpose).getD 0

def valid (counters : PurposeCounters) : Bool :=
  counters.keys.length == allWorkPurposes.length &&
    allWorkPurposes.all (fun purpose =>
      (counters.lookup purpose).any (fun value => decide (value ≤ 1000)))

/-- `zeroPurposeCounters` -/
def zero : PurposeCounters :=
  allWorkPurposes.foldl (fun counters purpose => counters.insert purpose 0) ∅

end PurposeCounters

def purposesWithinLimits (limits used : PurposeCounters) (limit : Nat) : Bool :=
  allWorkPurposes.all (fun purpose =>
    decide (used.count purpose ≤ limits.count purpose) &&
      decide (limits.count purpose ≤ limit))

structure WorkBudgetAccount where
  id : UUIDv7
  revision : Nat
  rootWork : AggregateRef
  lifecycleEpoch : Nat
  policyRevision : Nat
  policyDigest : Digest
  modelInvocationLimit : Nat
  modelInvocationsUsed : Nat
  purposeLimits : PurposeCounters
  purposeUsed : PurposeCounters
  deadlineAt : Time
  lastEventID : UUIDv7

namespace WorkBudgetAccount

def ref (account : WorkBudgetAccount) : AggregateRef := ⟨.workBudget, account.id⟩

def valid (account : WorkBudgetAccount) : Bool :=
  account.id.valid && decide (0 < account.revision) && decide (account.revision ≤ 1000000) &&
    (account.rootWork.kind == .story || account.rootWork.kind == .task) &&
    account.rootWork.id.valid && decide (0 < account.lifecycleEpoch) &&
    decide (0 < account.policyRevision) && account.policyDigest.valid &&
    decide (0 < account.modelInvocationLimit) &&
    decide (account.modelInvocationLimit ≤ 1000) &&
    decide (account.modelInvocationsUsed ≤ account.modelInvocationLimit) &&
    account.purposeLimits.valid && account.purposeUsed.valid &&
    !account.deadlineAt.isZero && account.lastEventID.valid &&
    purposesWithinLimits account.purposeLimits account.purposeUsed account.modelInvocationLimit

end WorkBudgetAccount

/-- `workBudgetPayload`.  Creation carries the root work and its epoch, amendment the
revision and epoch it expects; the fields of the other form decode to zero values. -/
structure WorkBudgetPayload where
  budgetAccountID : UUIDv7
  rootWork : AggregateRef := ⟨.other "", .text ""⟩
  lifecycleEpoch : Nat := 0
  expectedEpoch : Nat := 0
  expectedRevision : Nat := 0
  policyRevision : Nat
  policyDigest : Digest
  modelInvocationLimit : Nat
  purposeLimits : PurposeCounters
  deadlineAt : Time
  evidenceIDs : List UUIDv7
  authority : PrincipalRef

/-- `WorkBudgetFromCreatePayload` -/
def WorkBudgetPayload.account (value : WorkBudgetPayload) (eventID : UUIDv7) :
    Option WorkBudgetAccount :=
  let account : WorkBudgetAccount := {
    id := value.budgetAccountID
    revision := 1
    rootWork := value.rootWork
    lifecycleEpoch := value.lifecycleEpoch
    policyRevision := value.policyRevision
    policyDigest := value.policyDigest
    modelInvocationLimit := value.modelInvocationLimit
    modelInvocationsUsed := 0
    purposeLimits := value.purposeLimits
    purposeUsed := .zero
    deadlineAt := value.deadlineAt
    lastEventID := eventID }
  if account.valid && !value.evidenceIDs.isEmpty && value.authority.valid then some account
  else none

/-- `ApplyWorkBudgetAmendment` -/
def WorkBudgetAccount.applyAmendment (current : WorkBudgetAccount)
    (value : WorkBudgetPayload) (eventID : UUIDv7) : Option WorkBudgetAccount :=
  let next := { current with
    revision := current.revision + 1
    policyRevision := value.policyRevision
    policyDigest := value.policyDigest
    modelInvocationLimit := value.modelInvocationLimit
    purposeLimits := value.purposeLimits
    deadlineAt := value.deadlineAt
    lastEventID := eventID }
  if value.budgetAccountID == current.id && value.expectedRevision == current.revision &&
      value.expectedEpoch == current.lifecycleEpoch &&
      decide (current.policyRevision < value.policyRevision) &&
      decide (current.modelInvocationsUsed ≤ value.modelInvocationLimit) &&
      decide (current.deadlineAt ≤ value.deadlineAt) && !value.evidenceIDs.isEmpty &&
      value.authority.valid &&
      allWorkPurposes.all (fun purpose =>
        decide (current.purposeUsed.count purpose ≤ value.purposeLimits.count purpose)) &&
      next.valid then
    some next
  else none

variable {eventID : UUIDv7}

theorem WorkBudgetPayload.account_valid {value : WorkBudgetPayload} {account : WorkBudgetAccount}
    (opened : value.account eventID = some account) :
    account.valid = true := by
  simp only [WorkBudgetPayload.account, tests_iff] at opened
  obtain ⟨⟨⟨valid, _⟩, _⟩, rfl⟩ := opened
  exact valid

theorem WorkBudgetAccount.epoch_of_valid {account : WorkBudgetAccount}
    (valid : account.valid = true) : 0 < account.lifecycleEpoch := by
  grind [WorkBudgetAccount.valid]

structure TaskWorkBudgetBinding where
  taskID : UUIDv7
  budgetAccountID : UUIDv7
  taskRevision : Nat
  lifecycleEpoch : Nat
  scopeRevision : Nat
  modelInvocationLimit : Nat
  modelInvocationsUsed : Nat
  purposeLimits : PurposeCounters
  purposeUsed : PurposeCounters
  boundEventID : UUIDv7

def TaskWorkBudgetBinding.valid (binding : TaskWorkBudgetBinding) : Bool :=
  binding.taskID.valid && binding.budgetAccountID.valid && decide (0 < binding.taskRevision) &&
    decide (0 < binding.lifecycleEpoch) && decide (0 < binding.scopeRevision) &&
    decide (0 < binding.modelInvocationLimit) &&
    decide (binding.modelInvocationLimit ≤ 1000) &&
    decide (binding.modelInvocationsUsed ≤ binding.modelInvocationLimit) &&
    binding.purposeLimits.valid && binding.purposeUsed.valid && binding.boundEventID.valid &&
    purposesWithinLimits binding.purposeLimits binding.purposeUsed binding.modelInvocationLimit

structure TaskWorkBudgetPayload where
  taskID : UUIDv7
  budgetAccountID : UUIDv7
  expectedTaskRevision : Nat
  lifecycleEpoch : Nat
  scopeRevision : Nat
  taskModelInvocationLimit : Nat
  purposeLimits : PurposeCounters
  evidenceIDs : List UUIDv7

/-- `TaskWorkBudgetBindingFromPayload` -/
def TaskWorkBudgetPayload.binding (value : TaskWorkBudgetPayload) (eventID : UUIDv7) :
    Option TaskWorkBudgetBinding :=
  let binding : TaskWorkBudgetBinding := {
    taskID := value.taskID
    budgetAccountID := value.budgetAccountID
    taskRevision := value.expectedTaskRevision + 1
    lifecycleEpoch := value.lifecycleEpoch
    scopeRevision := value.scopeRevision
    modelInvocationLimit := value.taskModelInvocationLimit
    modelInvocationsUsed := 0
    purposeLimits := value.purposeLimits
    purposeUsed := .zero
    boundEventID := eventID }
  if binding.valid then some binding else none

theorem TaskWorkBudgetPayload.binding_valid {value : TaskWorkBudgetPayload}
    {binding : TaskWorkBudgetBinding} (parsed : value.binding eventID = some binding) :
    binding.valid = true := by
  simp only [TaskWorkBudgetPayload.binding, tests_iff] at parsed
  obtain ⟨valid, rfl⟩ := parsed
  exact valid

theorem TaskWorkBudgetBinding.epoch_of_valid {binding : TaskWorkBudgetBinding}
    (valid : binding.valid = true) : 0 < binding.lifecycleEpoch := by
  grind [TaskWorkBudgetBinding.valid]

structure TaskOperationalScope where
  taskID : UUIDv7
  taskRevision : Nat
  lifecycleEpoch : Nat
  scopeRevision : Nat
  ownerFQN : ActorFQN
  execution : ExecutionTuple
  workspaceID : String
  worktreeID : String
  branch : String
  baselineSHA : String
  writablePaths : List String
  interfaceEvidenceIDs : List UUIDv7
  boundEventID : UUIDv7
deriving DecidableEq

def TaskOperationalScope.valid (scope : TaskOperationalScope) : Bool :=
  scope.taskID.valid && decide (0 < scope.taskRevision) && decide (0 < scope.lifecycleEpoch) &&
    decide (0 < scope.scopeRevision) && scope.ownerFQN.valid && scope.execution.valid &&
    scope.workspaceID != "" && scope.worktreeID != "" && scope.branch != "" &&
    scope.baselineSHA.utf8ByteSize == 40 && !scope.writablePaths.isEmpty &&
    decide (scope.writablePaths.length ≤ 256) && scope.boundEventID.valid &&
    !scope.writablePaths.contains "" &&
    canonicalStrings scope.writablePaths == scope.writablePaths &&
    decide scope.writablePaths.Nodup && validUniqueUUIDs scope.interfaceEvidenceIDs 0 64

structure TaskOperationalScopePayload where
  taskID : UUIDv7
  expectedTaskRevision : Nat
  lifecycleEpoch : Nat
  scopeRevision : Nat
  ownerFQN : ActorFQN
  executionID : UUIDv7
  fencingEpoch : Nat
  workspaceID : String
  worktreeID : String
  branch : String
  baselineSHA : String
  writablePaths : List String
  interfaceEvidenceIDs : List UUIDv7

/-- `TaskOperationalScopeFromPayload` -/
def TaskOperationalScopePayload.scope (value : TaskOperationalScopePayload)
    (eventID : UUIDv7) : Option TaskOperationalScope :=
  let scope : TaskOperationalScope := {
    taskID := value.taskID
    taskRevision := value.expectedTaskRevision + 1
    lifecycleEpoch := value.lifecycleEpoch
    scopeRevision := value.scopeRevision
    ownerFQN := value.ownerFQN
    execution := ⟨value.executionID, value.fencingEpoch⟩
    workspaceID := value.workspaceID
    worktreeID := value.worktreeID
    branch := value.branch
    baselineSHA := value.baselineSHA
    writablePaths := canonicalStrings value.writablePaths
    interfaceEvidenceIDs := value.interfaceEvidenceIDs
    boundEventID := eventID }
  if scope.valid then some scope else none

theorem TaskOperationalScopePayload.scope_valid {value : TaskOperationalScopePayload}
    {scope : TaskOperationalScope} (parsed : value.scope eventID = some scope) :
    scope.valid = true := by
  simp only [TaskOperationalScopePayload.scope, tests_iff] at parsed
  obtain ⟨valid, rfl⟩ := parsed
  exact valid

theorem TaskOperationalScope.epoch_of_valid {scope : TaskOperationalScope}
    (valid : scope.valid = true) : 0 < scope.lifecycleEpoch := by
  grind [TaskOperationalScope.valid]

inductive WorkInvocationState where
  | authorized | claimed | started | startFailed | succeeded | failed | timedOut | cancelled
  | expired
  | other (text : String)
deriving DecidableEq

def WorkInvocationState.terminal : WorkInvocationState → Bool
  | .startFailed | .succeeded | .failed | .timedOut | .cancelled | .expired => true
  | _ => false

inductive MessagePurpose where
  | request | handoff | evidence | response | notification
  | other (text : String)
deriving DecidableEq

def MessagePurpose.valid : MessagePurpose → Bool
  | .other _ => false
  | _ => true

structure HandlerDispatchBinding where
  messageID : UUIDv7
  messageType : String
  messagePurpose : MessagePurpose
  messageBodyDigest : Digest
  subscriptionPurpose : String
  roleBundleDigest : Digest
  charterDigest : Digest
  handlerDigest : Digest
  inputSchemaDigest : Digest
  resultSchemaDigest : Digest
  allowedResults : List String
  allowedMessageProposals : List String
deriving DecidableEq

def messageTypeRoot : String := "tekroo.message."

def HandlerDispatchBinding.valid (binding : HandlerDispatchBinding) : Bool :=
  binding.messageID.valid &&
    decide (messageTypeRoot.utf8ByteSize < binding.messageType.utf8ByteSize) &&
    decide (binding.messageType.utf8ByteSize ≤ 256) &&
    messageTypeRoot.toList.isPrefixOf binding.messageType.toList &&
    binding.messageBodyDigest.valid && binding.subscriptionPurpose != "" &&
    decide (binding.subscriptionPurpose.utf8ByteSize ≤ 128) && binding.roleBundleDigest.valid &&
    binding.charterDigest.valid && binding.handlerDigest.valid &&
    binding.inputSchemaDigest.valid && binding.resultSchemaDigest.valid &&
    validUniqueStrings binding.allowedResults 1 16 &&
    validUniqueStrings binding.allowedMessageProposals 0 64 && binding.messagePurpose.valid

/-- `invocationAuthorizationPayload`.  The four debit fields are absent from a command and
filled in by the kernel in the event. -/
structure InvocationAuthorizationPayload where
  invocationID : UUIDv7
  taskID : UUIDv7
  budgetAccountID : UUIDv7
  expectedBudgetRevision : Nat
  expectedTaskRevision : Nat
  lifecycleEpoch : Nat
  scopeRevision : Nat
  parentEventID : UUIDv7
  workProfile : WorkProfileBinding
  qualifiedAssignmentID : UUIDv7
  purpose : WorkPurpose
  attemptFamily : String
  attemptOrdinal : Nat
  conditionDigest : Digest
  retryOfInvocationID : Option UUIDv7
  retryOrdinal : Nat
  outputPredicateDigest : Digest
  allowedTerminalOutcomes : List WorkInvocationState
  toolPolicyDigest : Digest
  effectPolicyDigest : Digest
  handlerDispatch : Option HandlerDispatchBinding
  actorFQN : ActorFQN
  executionID : UUIDv7
  fencingEpoch : Nat
  modelProfileDigest : Digest
  runtimeIdentityDigest : Digest
  workspaceID : String
  deadlineAt : Time
  idempotencyKey : String
  admissionPolicyRevision : Nat
  admissionPolicyDigest : Digest
  globalDebitOrdinal : Nat := 0
  purposeDebitOrdinal : Nat := 0
  remainingGlobalBudget : Nat := 0
  remainingPurposeBudget : Nat := 0

namespace InvocationAuthorizationPayload

def execution (value : InvocationAuthorizationPayload) : ExecutionTuple :=
  ⟨value.executionID, value.fencingEpoch⟩

/-- The checks of `parseInvocationAuthorization`. -/
def valid (value : InvocationAuthorizationPayload) : Bool :=
  value.invocationID.valid && value.taskID.valid && value.budgetAccountID.valid &&
    decide (0 < value.expectedBudgetRevision) && decide (0 < value.expectedTaskRevision) &&
    decide (0 < value.lifecycleEpoch) && decide (0 < value.scopeRevision) &&
    value.parentEventID.valid && value.workProfile.valid && value.qualifiedAssignmentID.valid &&
    value.purpose.valid && value.attemptFamily != "" && decide (0 < value.attemptOrdinal) &&
    value.conditionDigest.valid && value.outputPredicateDigest.valid && value.actorFQN.valid &&
    value.executionID.valid && decide (0 < value.fencingEpoch) &&
    value.modelProfileDigest.valid && value.runtimeIdentityDigest.valid &&
    value.workspaceID != "" && !value.deadlineAt.isZero && value.idempotencyKey != "" &&
    decide (0 < value.admissionPolicyRevision) && value.admissionPolicyDigest.valid &&
    !value.allowedTerminalOutcomes.isEmpty && value.toolPolicyDigest.valid &&
    value.effectPolicyDigest.valid && value.handlerDispatch.all HandlerDispatchBinding.valid

end InvocationAuthorizationPayload

/-- An invocation keeps the payload of its authorization event as `permit`; the other
fields change as it runs. -/
structure WorkInvocation where
  permit : InvocationAuthorizationPayload
  revision : Nat
  state : WorkInvocationState
  authorizationEventID : UUIDv7
  claimID : Option UUIDv7 := none
  claimedAt : Option Time := none
  conversationID : Option String := none
  requestDigest : Option Digest := none
  startedAt : Option Time := none
  terminalOutcome : Option WorkInvocationState := none
  retryable : Option Bool := none
  terminalEvidenceIDs : List UUIDv7 := []
  outputDigest : Option Digest := none
  finishedAt : Option Time := none
  cancellationRequestedAt : Option Time := none
  lastEventID : UUIDv7

namespace WorkInvocation

variable (invocation : WorkInvocation)

def id : UUIDv7 := invocation.permit.invocationID

def ref : AggregateRef := ⟨.workInvocation, invocation.id⟩

def taskRef : AggregateRef := ⟨.task, invocation.permit.taskID⟩

def valid (invocation : WorkInvocation) : Bool :=
  let permit := invocation.permit
  permit.invocationID.valid && decide (0 < invocation.revision) &&
    invocation.authorizationEventID.valid && permit.parentEventID.valid &&
    permit.taskID.valid && permit.budgetAccountID.valid && decide (0 < permit.lifecycleEpoch) &&
    decide (0 < permit.scopeRevision) && decide (0 < permit.expectedTaskRevision) &&
    permit.workProfile.valid && permit.qualifiedAssignmentID.valid && permit.purpose.valid &&
    permit.attemptFamily != "" && decide (0 < permit.attemptOrdinal) &&
    permit.conditionDigest.valid && permit.outputPredicateDigest.valid &&
    permit.actorFQN.valid && permit.execution.valid && permit.modelProfileDigest.valid &&
    permit.runtimeIdentityDigest.valid && permit.workspaceID != "" &&
    !permit.deadlineAt.isZero && permit.idempotencyKey != "" &&
    decide (0 < permit.admissionPolicyRevision) && permit.admissionPolicyDigest.valid &&
    decide (0 < permit.globalDebitOrdinal) && decide (0 < permit.purposeDebitOrdinal) &&
    invocation.lastEventID.valid && !permit.allowedTerminalOutcomes.isEmpty &&
    permit.toolPolicyDigest.valid && permit.effectPolicyDigest.valid &&
    permit.handlerDispatch.all HandlerDispatchBinding.valid &&
    match permit.retryOfInvocationID with
    | none => permit.retryOrdinal == 0
    | some retryOf => retryOf.valid && decide (0 < permit.retryOrdinal)

theorem epoch_of_valid {invocation : WorkInvocation} (valid : invocation.valid = true) :
    0 < invocation.permit.lifecycleEpoch := by
  grind [WorkInvocation.valid]

end WorkInvocation

structure WorkBudgetDebitDecision where
  account : AggregateRef
  task : AggregateRef
  purpose : WorkPurpose
  expectedAccountRevision : Nat
  expectedGlobalUsed : Nat
  expectedGlobalPurposeUsed : Nat
  expectedTaskUsed : Nat
  expectedTaskPurposeUsed : Nat
  nextGlobalUsed : Nat
  nextGlobalPurposeUsed : Nat
  nextTaskUsed : Nat
  nextTaskPurposeUsed : Nat

def WorkBudgetDebitDecision.valid (debit : WorkBudgetDebitDecision) : Bool :=
  debit.account.kind == .workBudget && debit.account.valid && debit.task.kind == .task &&
    debit.task.valid && debit.purpose.valid && decide (0 < debit.expectedAccountRevision) &&
    debit.nextGlobalUsed == debit.expectedGlobalUsed + 1 &&
    debit.nextGlobalPurposeUsed == debit.expectedGlobalPurposeUsed + 1 &&
    debit.nextTaskUsed == debit.expectedTaskUsed + 1 &&
    debit.nextTaskPurposeUsed == debit.expectedTaskPurposeUsed + 1

variable (value : InvocationAuthorizationPayload) (profile : WorkRiskProfile)
  (account : WorkBudgetAccount) (prior : WorkInvocation)

def validChangedConditionContinuation : Bool :=
  decide (0 < value.retryOrdinal) && profile.supersedesProfileID.isSome && prior.valid &&
    value.retryOfInvocationID == some prior.id && prior.permit.taskID == value.taskID &&
    prior.permit.purpose == value.purpose &&
    value.handlerDispatch == prior.permit.handlerDispatch &&
    value.attemptOrdinal == prior.permit.attemptOrdinal + 1 &&
    value.retryOrdinal == prior.permit.retryOrdinal + 1 &&
    value.conditionDigest != prior.permit.conditionDigest &&
    decide (prior.permit.workProfile.profileRevision < profile.profileRevision) &&
    value.workProfile == profile.binding &&
    decide (prior.permit.deadlineAt < value.deadlineAt) &&
    profile.budgets.deadlineAt == value.deadlineAt &&
    decide (prior.permit.admissionPolicyRevision < account.policyRevision) &&
    !prior.terminalEvidenceIDs.isEmpty &&
    (prior.state == .timedOut ||
      (prior.state == .cancelled && prior.cancellationRequestedAt.isSome) ||
      prior.state == .failed || prior.state == .startFailed) &&
    prior.terminalEvidenceIDs.all profile.classificationEvidenceIDs.contains

def validCandidateRevalidation : Bool :=
  [WorkPurpose.handoff, .validation, .review, .repair, .replan, .promotion].contains
      value.purpose &&
    value.retryOfInvocationID == some prior.id &&
    value.handlerDispatch == prior.permit.handlerDispatch &&
    value.retryOrdinal == prior.permit.retryOrdinal + 1 &&
    value.attemptOrdinal == prior.permit.attemptOrdinal + 1 && prior.state == .succeeded &&
    value.conditionDigest != prior.permit.conditionDigest

/-- The latest of the invocations seen so far: the higher attempt, then the higher revision.
Among equals the source keeps whichever its map iteration meets first. -/
def laterInvocation (latest : Option WorkInvocation) (candidate : WorkInvocation) :
    Option WorkInvocation :=
  match latest with
  | none => some candidate
  | some latest =>
    if latest.permit.attemptOrdinal < candidate.permit.attemptOrdinal ∨
        (candidate.permit.attemptOrdinal = latest.permit.attemptOrdinal ∧
          latest.revision < candidate.revision) then
      some candidate
    else some latest

/-- Whether `value` may follow the latest invocation of its task and purpose. -/
def checkAttempt :
    Option WorkInvocation → Except String Unit
  | none =>
    refuse (value.attemptOrdinal != 1 || value.retryOfInvocationID.isSome ||
      value.retryOrdinal != 0) "INVALID_RETRY"
  | some latest => do
    refuse (value.conditionDigest == latest.permit.conditionDigest) "UNCHANGED_CONDITION"
    refuse (!validChangedConditionContinuation value profile account latest &&
      !validCandidateRevalidation value latest) "INVALID_RETRY"

structure InvocationAdmission where
  task : AggregateState
  account : WorkBudgetAccount
  binding : TaskWorkBudgetBinding
  scope : TaskOperationalScope
  profile : WorkProfileSnapshot
  assignment : QualifiedAssignmentAuthorization
  currentExecution : ExecutionTuple
  invocations : List WorkInvocation

namespace InvocationAdmission

variable (admission : InvocationAdmission) (value : InvocationAuthorizationPayload)

def charged : InvocationAuthorizationPayload :=
  let globalUsed := admission.account.modelInvocationsUsed + 1
  let purposeUsed := admission.account.purposeUsed.count value.purpose + 1
  { value with
    globalDebitOrdinal := globalUsed
    purposeDebitOrdinal := purposeUsed
    remainingGlobalBudget := admission.account.modelInvocationLimit - globalUsed
    remainingPurposeBudget := admission.account.purposeLimits.count value.purpose - purposeUsed }

def debit (purpose : WorkPurpose) : WorkBudgetDebitDecision where
  account := admission.account.ref
  task := ⟨.task, admission.task.id⟩
  purpose
  expectedAccountRevision := admission.account.revision
  expectedGlobalUsed := admission.account.modelInvocationsUsed
  expectedGlobalPurposeUsed := admission.account.purposeUsed.count purpose
  expectedTaskUsed := admission.binding.modelInvocationsUsed
  expectedTaskPurposeUsed := admission.binding.purposeUsed.count purpose
  nextGlobalUsed := admission.account.modelInvocationsUsed + 1
  nextGlobalPurposeUsed := admission.account.purposeUsed.count purpose + 1
  nextTaskUsed := admission.binding.modelInvocationsUsed + 1
  nextTaskPurposeUsed := admission.binding.purposeUsed.count purpose + 1

def related : List WorkInvocation :=
  admission.invocations.filter fun candidate =>
    candidate.permit.taskID == admission.task.id && candidate.permit.purpose == value.purpose

/-- `PlanWorkInvocationAuthorization` -/
def plan (now : Time) (eventID : UUIDv7) :
    Except String (WorkInvocation × WorkBudgetDebitDecision) := do
  let { task, account, binding, scope, profile, assignment, currentExecution, .. } := admission
  refuse (!value.valid || task.kind != .task || task.id != value.taskID) "INVALID_INVOCATION"
  refuse (!account.valid || account.id != value.budgetAccountID ||
    binding.budgetAccountID != account.id || binding.taskID != task.id) "MISSING_BUDGET"
  refuse (value.expectedBudgetRevision != account.revision) "STALE_BUDGET_REVISION"
  refuse (value.expectedTaskRevision != task.revision) "STALE_TASK_REVISION"
  refuse (value.lifecycleEpoch != task.lifecycleEpoch ||
    binding.lifecycleEpoch != task.lifecycleEpoch ||
    scope.lifecycleEpoch != task.lifecycleEpoch) "STALE_LIFECYCLE"
  refuse (value.scopeRevision != task.scopeRevision ||
    binding.scopeRevision != task.scopeRevision ||
    scope.scopeRevision != task.scopeRevision) "STALE_SCOPE"
  refuse (task.condition != .runnable || task.phase != .active) "TASK_NOT_RUNNABLE"
  refuse (!profile.valid || profile.profile.binding != value.workProfile ||
    assignment.assignmentID != value.qualifiedAssignmentID ||
    assignment.workProfile != value.workProfile || assignment.taskID != task.id)
    "STALE_ASSIGNMENT"
  refuse (value.actorFQN != assignment.selectedActorFQN ||
    value.execution != assignment.selectedExecution || value.execution != currentExecution ||
    scope.ownerFQN != value.actorFQN || scope.execution != value.execution ||
    value.modelProfileDigest != assignment.modelProfileDigest ||
    value.runtimeIdentityDigest != assignment.runtimeIdentityDigest ||
    scope.workspaceID != value.workspaceID) "RUNTIME_IDENTITY_MISMATCH"
  refuse (value.admissionPolicyRevision != account.policyRevision ||
    value.admissionPolicyDigest != account.policyDigest) "STALE_ADMISSION_POLICY"
  refuse (!decide (now < account.deadlineAt) || !decide (now < value.deadlineAt) ||
    decide (account.deadlineAt < value.deadlineAt)) "DEADLINE_EXPIRED"
  refuse (decide (account.modelInvocationLimit ≤ account.modelInvocationsUsed) ||
    decide (binding.modelInvocationLimit ≤ binding.modelInvocationsUsed)) "BUDGET_EXHAUSTED"
  refuse (decide (account.purposeLimits.count value.purpose ≤
      account.purposeUsed.count value.purpose) ||
    decide (binding.purposeLimits.count value.purpose ≤
      binding.purposeUsed.count value.purpose)) "PURPOSE_BUDGET_EXHAUSTED"
  refuse ((admission.related value).any (fun candidate => !candidate.state.terminal))
    "ACTIVE_INVOCATION_EXISTS"
  checkAttempt value profile.profile account
    ((admission.related value).foldl laterInvocation none)
  let invocation : WorkInvocation := {
    permit := admission.charged value
    revision := 1
    state := .authorized
    authorizationEventID := eventID
    lastEventID := eventID }
  refuse (!invocation.valid) "INVALID_INVOCATION"
  return (invocation, admission.debit value.purpose)

structure Planned (admission : InvocationAdmission) (value : InvocationAuthorizationPayload)
    (eventID : UUIDv7) (invocation : WorkInvocation) (debit : WorkBudgetDebitDecision) :
    Prop where
  payload : value.valid = true
  task : admission.task.id = value.taskID
  accountValid : admission.account.valid = true
  account : admission.account.id = value.budgetAccountID
  epoch : value.lifecycleEpoch = admission.task.lifecycleEpoch
  scope : value.scopeRevision = admission.task.scopeRevision
  execution : value.execution = admission.currentExecution
  within : admission.account.modelInvocationsUsed < admission.account.modelInvocationLimit
  purposeWithin : admission.account.purposeUsed.count value.purpose <
    admission.account.purposeLimits.count value.purpose
  ended : ∀ candidate ∈ admission.related value, candidate.state.terminal = true
  attempt : checkAttempt value admission.profile.profile admission.account
    ((admission.related value).foldl laterInvocation none) = .ok ()
  valid : invocation.valid = true
  invocation : invocation = {
    permit := admission.charged value
    revision := 1
    state := .authorized
    authorizationEventID := eventID
    lastEventID := eventID }
  debit : debit = admission.debit value.purpose

variable {admission : InvocationAdmission} {value : InvocationAuthorizationPayload}
  {eventID : UUIDv7} {invocation : WorkInvocation}

theorem plan_ok {now : Time} {debit : WorkBudgetDebitDecision}
    (planned : admission.plan value now eventID = .ok (invocation, debit)) :
    admission.Planned value eventID invocation debit := by
  simp [plan] at planned
  obtain ⟨⟨⟨payload, _⟩, task⟩, ⟨⟨⟨accountValid, account⟩, _⟩, _⟩, _, _, ⟨⟨epoch, _⟩, _⟩,
    ⟨⟨scope, _⟩, _⟩, _, _, identity, _, _, ⟨within, _⟩, ⟨purposeWithin, _⟩, ended, attempt, valid,
    made, charged⟩ := planned
  exact {
    payload, task, accountValid, account, epoch, scope, within, purposeWithin, ended, attempt
    execution := identity.1.1.1.1.1.2
    valid := made ▸ valid
    invocation := made.symm
    debit := charged.symm }

theorem Planned.debit_valid {debit : WorkBudgetDebitDecision}
    (planned : admission.Planned value eventID invocation debit) :
    debit.valid = true := by
  obtain ⟨accountID, revision⟩ : admission.account.id.valid = true ∧
      0 < admission.account.revision := by
    have valid := planned.accountValid
    grind [WorkBudgetAccount.valid]
  obtain ⟨taskID, purpose⟩ : value.taskID.valid = true ∧ value.purpose.valid = true := by
    have valid := planned.payload
    grind [InvocationAuthorizationPayload.valid]
  simp [WorkBudgetDebitDecision.valid, planned.debit, InvocationAdmission.debit,
    WorkBudgetAccount.ref,
    AggregateRef.valid, AggregateKind.valid, accountID, revision, planned.task, taskID, purpose]

end InvocationAdmission

structure InvocationClaimPayload where
  invocationID : UUIDv7
  expectedRevision : Nat
  claimID : UUIDv7
  actorFQN : ActorFQN
  executionID : UUIDv7
  fencingEpoch : Nat
  modelProfileDigest : Digest
  runtimeIdentityDigest : Digest
  claimedAt : Time

structure InvocationStartPayload where
  invocationID : UUIDv7
  expectedRevision : Nat
  claimID : UUIDv7
  conversationID : String
  requestDigest : Digest
  startedAt : Time

structure InvocationTerminalPayload where
  invocationID : UUIDv7
  expectedRevision : Nat
  claimID : UUIDv7
  outcome : WorkInvocationState
  retryable : Bool
  evidenceIDs : List UUIDv7
  outputDigest : Digest
  finishedAt : Time

structure InvocationCancelPayload where
  invocationID : UUIDv7
  expectedRevision : Nat
  requestedAt : Time

structure InvocationExpirePayload where
  invocationID : UUIDv7
  expectedRevision : Nat
  deadlineAt : Time
  observedAt : Time

namespace WorkInvocation

variable (current : WorkInvocation)

/-- Claiming compares the claimant with the permit, not with the execution registry. -/
def claim (value : InvocationClaimPayload) : Option WorkInvocation :=
  if current.state == .authorized && value.invocationID == current.id &&
      value.expectedRevision == current.revision && value.claimID.valid &&
      value.actorFQN == current.permit.actorFQN &&
      (⟨value.executionID, value.fencingEpoch⟩ : ExecutionTuple) == current.permit.execution &&
      value.modelProfileDigest == current.permit.modelProfileDigest &&
      value.runtimeIdentityDigest == current.permit.runtimeIdentityDigest &&
      !value.claimedAt.isZero && decide (value.claimedAt < current.permit.deadlineAt) then
    some { current with
      state := .claimed
      claimID := some value.claimID
      claimedAt := some value.claimedAt }
  else none

def start (value : InvocationStartPayload) : Option WorkInvocation :=
  if current.state == .claimed && value.invocationID == current.id &&
      value.expectedRevision == current.revision && current.claimID == some value.claimID &&
      value.conversationID != "" && value.requestDigest.valid && !value.startedAt.isZero &&
      decide (value.startedAt < current.permit.deadlineAt) then
    some { current with
      state := .started
      conversationID := some value.conversationID
      requestDigest := some value.requestDigest
      startedAt := some value.startedAt }
  else none

def recordTerminal (value : InvocationTerminalPayload) : Option WorkInvocation :=
  if (current.state == .started ||
        (current.state == .claimed && value.outcome == .startFailed)) &&
      value.invocationID == current.id && value.expectedRevision == current.revision &&
      current.claimID == some value.claimID &&
      current.permit.allowedTerminalOutcomes.contains value.outcome &&
      validUniqueUUIDs value.evidenceIDs 1 64 && value.outputDigest.valid &&
      !value.finishedAt.isZero then
    some { current with
      state := value.outcome
      terminalOutcome := some value.outcome
      retryable := some value.retryable
      terminalEvidenceIDs := value.evidenceIDs
      outputDigest := some value.outputDigest
      finishedAt := some value.finishedAt }
  else none

def requestCancellation (value : InvocationCancelPayload) : Option WorkInvocation :=
  if current.state == .started && current.cancellationRequestedAt.isNone &&
      value.invocationID == current.id && value.expectedRevision == current.revision &&
      !value.requestedAt.isZero then
    some { current with cancellationRequestedAt := some value.requestedAt }
  else none

def expire (value : InvocationExpirePayload) : Option WorkInvocation :=
  if current.state == .authorized && value.invocationID == current.id &&
      value.expectedRevision == current.revision &&
      value.deadlineAt == current.permit.deadlineAt &&
      decide (current.permit.deadlineAt ≤ value.observedAt) then
    some { current with state := .expired, finishedAt := some value.observedAt }
  else none

end WorkInvocation

end Tekroo.Kernel
