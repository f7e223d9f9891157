import Tekroo.Properties.Fencing
import Tekroo.Store.WorkHistory

namespace Tekroo.Kernel

open Lib Checked

/-! # Claiming and starting an invocation

Neither claim nor start reads the execution registry or the task again, so a permit runs also after
its execution was replaced or its task was reopened.
-/

/-- The store's history since the permit was given: its execution has been current and its
task was in the permit's epoch and scope. -/
structure Store.PermitTraced (store : Store) (invocation : WorkInvocation) : Prop where
  execution :
    store.executions.lookup invocation.permit.actorFQN = some invocation.permit.execution ∨
      ∃ event ∈ store.events, (event.installs invocation.permit.actorFQN).isSome
  task : store.Stamped invocation.authorizationEventID invocation.taskRef
    invocation.permit.lifecycleEpoch invocation.permit.scopeRevision

def Store.PermitsTraced (store : Store) : Prop :=
  ∀ reference invocation, store.workInvocations.lookup reference = some invocation →
    store.PermitTraced invocation

theorem Store.PermitTraced.congr {store : Store} {invocation moved : WorkInvocation}
    (permit : moved.permit = invocation.permit)
    (eventID : moved.authorizationEventID = invocation.authorizationEventID)
    (traced : store.PermitTraced invocation) : store.PermitTraced moved := by
  obtain ⟨execution, task⟩ := traced
  refine ⟨?_, ?_⟩
  · rwa [permit]
  · rwa [WorkInvocation.taskRef, permit, eventID]

namespace AppliedCommand

variable {evaluator : Evaluator} {copy current : Store}
  (applied : AppliedCommand evaluator copy current) {invocation : WorkInvocation}
  (grown : copy.Extends current)

include grown

theorem permitTraced (held : current.StatesCurrent) (traced : current.PermitTraced invocation) :
    applied.after.PermitTraced invocation where
  execution := by
    rcases traced.execution with kept | ⟨event, member, replaced⟩
    · exact applied.growth.executions _ _ kept
    · exact .inr ⟨event, applied.growth.events.subset member, replaced⟩
  task := applied.stamped grown held traced.task

theorem authorized_permitTraced (eventType : applied.event.eventType = .workInvocationAuthorized)
    (authorized : applied.event.authorizedInvocation = some invocation)
    (reference : applied.target = invocation.ref) :
    applied.after.PermitTraced invocation := by
  obtain ⟨payload, eventID, _⟩ := DomainEvent.authorizedInvocation_ok authorized
  obtain ⟨value, admission, planned, debit, _, admits, plan, carried, _⟩ :=
    applied.authorizes eventType
  have permit : invocation.permit = admission.charged value := by
    rw [carried, plan.invocation] at payload
    exact (Payload.invocationAuthorization.inj payload).symm
  have valid := plan.payload
  simp only [InvocationAuthorizationPayload.valid, tests_iff] at valid
  constructor
  · have loaded : copy.executions.lookup value.actorFQN = some value.execution :=
      Snapshot.currentExecution_valid (admits.execution.symm.trans plan.execution.symm)
        (by simp [InvocationAuthorizationPayload.execution, valid])
    rw [permit]
    rcases grown.executions _ _ loaded with kept | ⟨event, member, replaced⟩
    · exact applied.growth.executions _ _ kept
    · exact .inr ⟨event, applied.growth.events.subset member, replaced⟩
  · obtain ⟨related, listed, state⟩ := Option.bind_eq_some_iff.mp admits.task
    obtain ⟨rfl, _⟩ := applied.related_lookup listed
    have found : current.states.lookup ⟨.task, value.taskID⟩ = some admission.task :=
      (grown.unmoved _ (applied.pinned admits.taskPinned)).states.symm.trans state
    have other : (⟨.task, value.taskID⟩ : AggregateRef) ≠ applied.target := by
      rw [reference]
      intro same
      cases congrArg AggregateRef.kind same
    have stamped := applied.stamps (.inr rfl)
      ((applied.unmoved other).states.symm.trans found)
    rw [← plan.epoch, ← plan.scope] at stamped
    rwa [WorkInvocation.taskRef, permit, eventID]

theorem permitsTraced (held : current.StatesCurrent) (traced : current.PermitsTraced) :
    applied.after.PermitsTraced := by
  have kept : ∀ reference invocation,
      current.workInvocations.lookup reference = some invocation →
        applied.after.PermitTraced invocation :=
    fun reference invocation found =>
      applied.permitTraced grown held (traced reference invocation found)
  intro reference invocation found
  obtain ⟨change, changed, _, _, _, written⟩ := applied.after_phase4
  rw [written] at found
  obtain old | ⟨projection, made, new⟩ := lookup_insertAll_bind found
  · exact kept _ _ old
  cases changed projection made with
  | authorized eventType charged valid authorized target ordinal account binding =>
    cases new
    exact applied.authorized_permitTraced grown eventType authorized target
  | moved eventType before move =>
    cases new
    obtain ⟨permit, eventID⟩ := WorkInvocation.applyWorkInvocationEvent_permit move
    exact (kept _ _ before).congr permit eventID
  | _ => cases new

end AppliedCommand

theorem Evaluator.Reaches.permitsTraced {evaluator : Evaluator}
    {allowed : Store → Store → StoreInput → Prop} {shared : Shared Store}
    (reached : evaluator.Reaches allowed shared) : shared.current.PermitsTraced := by
  refine reached.holds (fun _ _ => by simp [Store.PermitsTraced, Store.new])
    (fun same traced => ?_)
    (fun applied reached taken _ _ traced =>
      applied.permitsTraced (reached.growth taken) reached.statesCurrent traced)
  intro reference invocation found
  rw [same.workInvocations] at found
  obtain ⟨execution, task⟩ := traced reference invocation found
  refine ⟨?_, task.congr same⟩
  rwa [same.executions, same.events]

theorem AppliedCommand.invocation_found {evaluator : Evaluator} {copy current : Store}
    (applied : AppliedCommand evaluator copy current) (grown : copy.Extends current)
    (running : applied.command.commandType = .workInvocationClaim ∨
      applied.command.commandType = .workInvocationRecordStarted) :
    ∃ invocation, current.workInvocations.lookup applied.target = some invocation := by
  obtain ⟨phase4, contributed, _⟩ := applied.admitted.phase4
  have loaded : ∃ invocation,
      applied.snapshot.workInvocations.lookup applied.target = some invocation := by
    rcases running with type | type <;>
      simp only [phase4Contribution, evaluatePhase4Command, type, invocationEventType,
        Option.map_some] at contributed <;>
      obtain ⟨invocation, found, _⟩ := invocationTransitionPolicy_ok contributed <;>
      exact ⟨invocation, found⟩
  obtain ⟨invocation, found⟩ := loaded
  exact ⟨invocation, (grown.unmoved _ applied.target_revision).workInvocations.symm.trans found⟩

/-- Whenever a claim or a start is applied, the invocation's execution is its actor's current
one and its task is in the epoch and scope of the permit, exactly when the actor's latest
replacement, if there is one, was by that execution and the task has not been reopened since the
authorization. -/
theorem running_invocation_current_iff {evaluator : Evaluator} {shared : Shared Store}
    {copy : Store} {command : KernelCommand} {context : DecisionContext}
    (reached : evaluator.Reachable shared) (taken : copy ∈ shared.copies)
    (applies : evaluator.applies copy shared.current command context = true)
    (running : command.commandType = .workInvocationClaim ∨
      command.commandType = .workInvocationRecordStarted) :
    ∃ invocation, shared.current.workInvocations.lookup command.target = some invocation ∧
      ((shared.current.executions.lookup invocation.permit.actorFQN =
            some invocation.permit.execution ∧
          ∃ task, shared.current.states.lookup invocation.taskRef = some task ∧
            task.lifecycleEpoch = invocation.permit.lifecycleEpoch ∧
            task.scopeRevision = invocation.permit.scopeRevision) ↔
        (∀ latest ∈ shared.current.latestReplacement invocation.permit.actorFQN,
            latest = invocation.permit.execution) ∧
          shared.current.reopenedSince invocation.authorizationEventID invocation.taskRef =
            false) := by
  obtain ⟨applied, rfl, rfl, _⟩ := Evaluator.applies_update applies
  obtain ⟨invocation, found⟩ := applied.invocation_found (reached.growth taken) running
  obtain ⟨execution, task⟩ := reached.permitsTraced _ _ found
  exact ⟨invocation, found, and_congr (reached.current_iff execution) task.scope_iff⟩

namespace Sample

set_option maxRecDepth 4096

def taskCommand (value : Nat) (kind : PrincipalKind) (commandType : CommandType)
    (taskRevision : Nat) (payload : Payload) : KernelCommand :=
  { command value kind commandType task (revision taskRevision) payload with
    expectedLifecycleEpoch := some 1
    causation := [⟨.number 3, .causal⟩] }

def markReady : KernelCommand := taskCommand 6 .policy .taskMarkReady 3 (.unread "")

def acquireOwnership : KernelCommand :=
  asActor (taskCommand 7 .actor .taskAcquireOwnership 4 (.ownership ⟨actor, 0⟩))

def activate : KernelCommand :=
  asActor (taskCommand 8 .actor .taskActivate 5 (.ownership ⟨actor, 1⟩))

def account : AggregateRef := ⟨.workBudget, .number 40⟩

def limits : PurposeCounters :=
  allWorkPurposes.foldl (fun counters purpose => counters.insert purpose 3) ∅

def createBudget : KernelCommand :=
  { command 9 .policy .workBudgetCreate account create (.workBudget {
      budgetAccountID := .number 40
      rootWork := task
      lifecycleEpoch := 1
      policyRevision := 1
      policyDigest := .number 0
      modelInvocationLimit := 3
      purposeLimits := limits
      deadlineAt := 100
      evidenceIDs := [.number 1]
      authority := principal .policy }) with
    preconditions := [⟨task, revision 6⟩]
    evidenceRefs := [evidence] }

def bindBudget : KernelCommand :=
  { taskCommand 10 .policy .taskBindWorkBudget 6
      (.taskWorkBudget ⟨.number 20, .number 40, 6, 1, 1, 3, limits, [.number 1]⟩) with
    preconditions := [⟨account, revision 1⟩]
    evidenceRefs := [evidence] }

def bindScope : KernelCommand :=
  taskCommand 11 .policy .taskBindOperationalScope 7
    (.operationalScope ⟨.number 20, 7, 1, 1, actor, .number 31, 1, "w", "w", "b",
      String.ofList (List.replicate 40 '0'), ["p"], []⟩)

def invocation (value : Nat) : AggregateRef := ⟨.workInvocation, .number value⟩

def permit : InvocationAuthorizationPayload where
  invocationID := .number 50
  taskID := .number 20
  budgetAccountID := .number 40
  expectedBudgetRevision := 1
  expectedTaskRevision := 8
  lifecycleEpoch := 1
  scopeRevision := 1
  parentEventID := .number 11
  workProfile := profile.binding
  qualifiedAssignmentID := .number 22
  purpose := .implementation
  attemptFamily := "f"
  attemptOrdinal := 1
  conditionDigest := .number 1
  retryOfInvocationID := none
  retryOrdinal := 0
  outputPredicateDigest := .number 0
  allowedTerminalOutcomes := [.succeeded, .failed, .startFailed, .timedOut, .cancelled]
  toolPolicyDigest := .number 0
  effectPolicyDigest := .number 0
  handlerDispatch := none
  actorFQN := actor
  executionID := .number 31
  fencingEpoch := 1
  modelProfileDigest := .number 0
  runtimeIdentityDigest := .number 0
  workspaceID := "w"
  deadlineAt := 100
  idempotencyKey := String.ofList (List.replicate 12 'k')
  admissionPolicyRevision := 1
  admissionPolicyDigest := .number 0

def authorizeInvocation : KernelCommand :=
  { command 12 .policy .workInvocationAuthorize (invocation 50) create
      (.invocationAuthorization permit) with
    preconditions := [⟨task, revision 8⟩, ⟨account, revision 1⟩]
    causation := [⟨.number 11, .causal⟩] }

def claim : KernelCommand :=
  { command 14 .service .workInvocationClaim (invocation 50) (revision 1)
      (.invocationClaim ⟨.number 50, 1, .number 51, actor, .number 31, 1, .number 0, .number 0, 1⟩)
    with causation := [⟨.number 12, .causal⟩] }

def authorized : Shared Store :=
  evaluator.script profiled
    [entry authorizeAssignment, entry markReady, entry acquireOwnership, entry activate,
      entry createBudget, entry bindBudget, entry bindScope, entry authorizeInvocation]

def overtaken : Shared Store :=
  (evaluator.script authorized [entry (replaceExecution 13)]).copy

theorem overtaken_reachable : evaluator.Reachable overtaken :=
  ((profiled_reachable.script fun _ _ _ _ => trivial).script fun _ _ _ _ => trivial).copy

theorem overtaken_taken : overtaken.current ∈ overtaken.copies :=
  Shared.current_copied _

/-- The claim of an invocation whose execution has been replaced is applied. -/
theorem replaced_execution_claims :
    evaluator.Reachable overtaken ∧ overtaken.current ∈ overtaken.copies ∧
      evaluator.applies overtaken.current overtaken.current claim (context 14) = true ∧
      ((overtaken.current.workInvocations.lookup claim.target).map fun invocation =>
        (invocation.permit.actorFQN, invocation.permit.execution)) = some (actor, execution 1) ∧
      overtaken.current.executions.lookup actor = some (execution 2) :=
  ⟨overtaken_reachable, overtaken_taken, by decide⟩

theorem overtaken_invocation_current_iff :
    ∃ invocation, overtaken.current.workInvocations.lookup claim.target = some invocation ∧
      ((overtaken.current.executions.lookup invocation.permit.actorFQN =
            some invocation.permit.execution ∧
          ∃ task, overtaken.current.states.lookup invocation.taskRef = some task ∧
            task.lifecycleEpoch = invocation.permit.lifecycleEpoch ∧
            task.scopeRevision = invocation.permit.scopeRevision) ↔
        (∀ latest ∈ overtaken.current.latestReplacement invocation.permit.actorFQN,
            latest = invocation.permit.execution) ∧
          overtaken.current.reopenedSince invocation.authorizationEventID invocation.taskRef =
            false) := by
  have applies : evaluator.applies overtaken.current overtaken.current claim (context 14) =
    true := by decide
  exact running_invocation_current_iff overtaken_reachable overtaken_taken applies (.inl rfl)

end Sample

end Tekroo.Kernel
