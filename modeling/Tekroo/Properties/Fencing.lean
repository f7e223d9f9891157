import Tekroo.Store.Growth
import Tekroo.Store.Script

namespace Tekroo.Kernel

open Lib Checked

section

variable {evaluator : Evaluator} {copy current : Store}
  (applied : AppliedCommand evaluator copy current)

/-! # Fencing of executions

`Evaluate` compares a selected execution with the registry of the snapshot; the guards of the
decision do not name it, so `Commit` does not compare it again.
-/

def selectsExecution : CommandType → Bool
  | .taskAuthorizeQualifiedAssignment | .taskDispatch | .taskBindOperationalScope
  | .workInvocationAuthorize => true
  | _ => false

def selectedExecution (snapshot : Snapshot) (command : KernelCommand) :
    Option (ActorFQN × ExecutionTuple) :=
  match command.commandType, command.payload with
  | .taskAuthorizeQualifiedAssignment, .qualifiedAssignment value =>
    some (value.selectedActorFQN, value.selectedExecution)
  | .taskDispatch, _ =>
    (snapshot.qualifiedAssignments.lookup command.target).map fun authorization =>
      (authorization.selectedActorFQN, authorization.selectedExecution)
  | .taskBindOperationalScope, .operationalScope value =>
    some (value.ownerFQN, ⟨value.executionID, value.fencingEpoch⟩)
  | .workInvocationAuthorize, .invocationAuthorization value =>
    some (value.actorFQN, value.execution)
  | _, _ => none

variable {tuple : ExecutionTuple} {actor : ActorFQN}

theorem Snapshot.currentExecution_valid {snapshot : Snapshot}
    (current : snapshot.currentExecution actor = tuple) (valid : tuple.executionID.valid = true) :
    snapshot.currentExecutions.lookup actor = some tuple := by
  unfold Snapshot.currentExecution at current
  cases found : snapshot.currentExecutions.lookup actor with
  | none =>
    rw [found] at current
    subst current
    cases valid
  | some execution => simpa [found] using current

namespace AppliedCommand

theorem selects_loaded (selecting : selectsExecution applied.command.commandType = true) :
    ∃ actor tuple, selectedExecution applied.snapshot applied.command = some (actor, tuple) ∧
      copy.executions.lookup actor = some tuple := by
  unfold selectsExecution at selecting
  split at selecting
  · next type =>
    have policy := applied.commandTypePolicy_of type rfl
    simp only [commandTypePolicy, type] at policy
    obtain ⟨value, _, payload, _, _, _, found⟩ := authorizeAssignmentPolicy_ok policy
    exact ⟨_, _, by simp only [selectedExecution, type, payload], found⟩
  · next type =>
    have policy := applied.commandTypePolicy_of type rfl
    simp only [commandTypePolicy, type] at policy
    obtain ⟨authorization, assigned, found⟩ := dispatchPolicy_ok policy
    exact ⟨_, _, by simp only [selectedExecution, type, assigned, Option.map_some], found⟩
  · next type =>
    obtain ⟨phase4, contributed, _⟩ := applied.admitted.phase4
    simp only [phase4Contribution, evaluatePhase4Command, type] at contributed
    obtain ⟨value, scope, payload, parsed, _, _, found, _⟩ :=
      bindOperationalScopePolicy_ok contributed
    refine ⟨value.ownerFQN, ⟨value.executionID, value.fencingEpoch⟩,
      by simp only [selectedExecution, type, payload], ?_⟩
    simp only [TaskOperationalScopePayload.scope, tests_iff] at parsed
    obtain ⟨valid, rfl⟩ := parsed
    refine Snapshot.currentExecution_valid found ?_
    simp only [TaskOperationalScope.valid, ExecutionTuple.valid, tests_iff] at valid
    simp [valid]
  · next type =>
    obtain ⟨phase4, contributed, _⟩ := applied.admitted.phase4
    simp only [phase4Contribution, evaluatePhase4Command, type] at contributed
    obtain ⟨value, admission, invocation, debit, payload, _, admitted, planned, _⟩ :=
      authorizeInvocationPolicy_ok contributed
    refine ⟨value.actorFQN, value.execution, by simp only [selectedExecution, type, payload], ?_⟩
    have valid := planned.payload
    simp only [InvocationAuthorizationPayload.valid, tests_iff] at valid
    exact Snapshot.currentExecution_valid (admitted.execution.symm.trans planned.execution.symm)
      (by simp [InvocationAuthorizationPayload.execution, valid])
  · cases selecting

end AppliedCommand

/-- The execution that the latest replacement in the log brought to an actor. -/
def Store.latestReplacement (store : Store) (actor : ActorFQN) : Option ExecutionTuple :=
  store.events.reverse.findSome? (·.installs actor)

def Store.LatestRegistered (store : Store) : Prop :=
  ∀ actor latest, store.latestReplacement actor = some latest →
    store.executions.lookup actor = some latest

theorem AppliedCommand.latestRegistered (applied : AppliedCommand evaluator copy current)
    (held : current.LatestRegistered) : applied.after.LatestRegistered := by
  intro actor latest last
  rw [Store.latestReplacement, applied.after_events, List.reverse_append] at last
  cases installed : applied.event.installs actor with
  | none =>
    have found := held actor latest (by simpa [installed, Store.latestReplacement] using last)
    rcases applied.after_executions actor with ⟨_, absent⟩ | written
    · simp [absent] at found
    · simp [written, installed, found]
  | some tuple =>
    have same : tuple = latest := by simpa [installed] using last
    rcases applied.after_executions actor with ⟨unmoved, _⟩ | written
    · simp [installed] at unmoved
    · simp [written, installed, same]

section Runs

variable {allowed : Store → Store → StoreInput → Prop} {shared : Shared Store} {copy : Store}
  {tuple : ExecutionTuple}

theorem Evaluator.Reaches.latestRegistered (reached : evaluator.Reaches allowed shared) :
    shared.current.LatestRegistered := by
  refine reached.holds (fun _ _ => by simp [Store.LatestRegistered, Store.latestReplacement,
    Store.new]) (fun same held => ?_) (fun applied _ _ _ _ held => applied.latestRegistered held)
  intro actor latest last
  rw [Store.latestReplacement, same.events] at last
  exact same.executions ▸ held actor latest last

/-- An execution that was current at some time is current exactly when the actor's latest
replacement, if there is one, was by it. -/
theorem Evaluator.Reaches.current_iff {actor : ActorFQN}
    (reached : evaluator.Reaches allowed shared)
    (once : shared.current.executions.lookup actor = some tuple ∨ ∃ event ∈ shared.current.events,
      (event.installs actor).isSome) :
    shared.current.executions.lookup actor = some tuple ↔
      ∀ latest ∈ shared.current.latestReplacement actor, latest = tuple := by
  constructor
  · intro current latest last
    exact Option.some.inj ((reached.latestRegistered actor latest last).symm.trans current)
  · intro latestOnly
    rcases once with current | ⟨event, member, installs⟩
    · exact current
    · have moved : (shared.current.latestReplacement actor).isSome :=
        List.findSome?_isSome_iff.mpr ⟨event, List.mem_reverse.mpr member, installs⟩
      obtain ⟨latest, last⟩ := Option.isSome_iff_exists.mp moved
      rw [← latestOnly latest last]
      exact reached.latestRegistered actor latest last

end Runs

/-- In every interleaving, the execution that an applied command selects for an actor is the
registry's at the moment of the commit exactly when the latest replacement for the actor that has
been committed, if there is one, was by that execution. -/
theorem selected_execution_current_iff {evaluator : Evaluator} {shared : Shared Store}
    {copy : Store} {command : KernelCommand} {context : DecisionContext}
    (reached : evaluator.Reachable shared) (taken : copy ∈ shared.copies)
    (applies : evaluator.applies copy shared.current command context = true)
    (selecting : selectsExecution command.commandType = true) :
    ∃ actor tuple,
      selectedExecution (copy.loadDecision command) command = some (actor, tuple) ∧
      (shared.current.executions.lookup actor = some tuple ↔
        ∀ latest ∈ shared.current.latestReplacement actor, latest = tuple) := by
  obtain ⟨applied, rfl, rfl, _⟩ := Evaluator.applies_update applies
  obtain ⟨actor, tuple, selected, loaded⟩ := applied.selects_loaded selecting
  exact ⟨actor, tuple, selected,
    reached.current_iff ((reached.growth taken).executions actor tuple loaded)⟩

/-! ## Epochs along a run

An epoch beyond what `Int64` reads is not compared with the registry, and one beyond a `uint64`
does not reach it.
-/

/-- The epoch of a registration or replacement is read by all that decode it. -/
def DomainEvent.readable (event : DomainEvent) : Bool :=
  match event.eventType, event.payload with
  | .executionRegistered, .executionRegister value => value.fencingEpoch.uint64.isSome
  | .executionReplaced, .executionReplace value => value.newFencingEpoch.int64.isSome
  | _, _ => true

def Store.EpochsReadable (store : Store) : Prop :=
  ∀ event ∈ store.events, event.readable = true

/-- Every actor with an execution keeps one, in the same epoch or a later one. -/
def Store.FencesGrow (before after : Store) : Prop :=
  ∀ actor tuple, before.executions.lookup actor = some tuple →
    ∃ later, after.executions.lookup actor = some later ∧
      tuple.fencingEpoch ≤ later.fencingEpoch

/-- The log grows, and with it, while it is readable, the epochs. -/
structure Store.Fenced (before after : Store) : Prop where
  events : before.events <+: after.events
  grow : after.EpochsReadable → before.FencesGrow after

theorem Store.Fenced.trans {before between after : Store} (first : before.Fenced between)
    (second : between.Fenced after) : before.Fenced after where
  events := first.events.trans second.events
  grow readable actor tuple found := by
    obtain ⟨middle, found, left⟩ := first.grow (fun event member =>
      readable event (second.events.subset member)) actor tuple found
    obtain ⟨last, found, right⟩ := second.grow readable actor middle found
    exact ⟨last, found, left.trans right⟩

theorem WrittenInteger.int64_ok {number : WrittenInteger} {epoch : Nat}
    (read : number.int64 = some epoch) : number.value = epoch ∧ number.uint64 = some epoch := by
  simp only [int64, uint64, below, tests_iff] at read ⊢
  obtain ⟨⟨digits, bound⟩, rfl⟩ := read
  exact ⟨rfl, ⟨digits, by omega⟩, rfl⟩

namespace AppliedCommand

theorem replacement {value : ExecutionReplacePayload} {epoch : Nat}
    (eventType : applied.event.eventType = .executionReplaced)
    (payload : applied.event.payload = .executionReplace value)
    (read : value.newFencingEpoch.int64 = some epoch) :
    2 ≤ epoch ∧
      current.executions.lookup value.actorFQN = some ⟨value.priorExecutionID, epoch - 1⟩ ∧
      applied.after.executions.lookup value.actorFQN = some ⟨value.newExecutionID, epoch⟩ := by
  have type := applied.commandType_of eventType rfl
  have carried := (applied.event_payload (by simp [type])).symm.trans payload
  have format := applied.format
  obtain ⟨rfl, decoded⟩ := WrittenInteger.int64_ok read
  simp only [carried, Payload.hasFormat, tests_iff] at format
  refine ⟨format.2, ?_, ?_⟩
  · refine applied.prepared.current.executions ⟨value.actorFQN, _⟩ ?_
    simp [acceptedDecision, decisionGuards, executionGuards, executionRegistryExpectation, type,
      carried, format, ExecutionReplacePayload.prior, read]
  · rw [show applied.after.executions =
      Store.registerExecution current.executions applied.event from rfl]
    simp [Store.registerExecution, eventType, payload, ExecutionReplacePayload.next, decoded]

end AppliedCommand

end

namespace Sample

set_option maxRecDepth 4096

def task : AggregateRef := ⟨.task, .number 20⟩

def replaceTo (value expected next : Nat) (epoch : WrittenInteger) : KernelCommand :=
  { command value .policy .executionReplace ⟨.execution, .number 30⟩ (revision expected)
      (.executionReplace ⟨actor, .number 31, .number next, epoch⟩) with
    causation := [⟨.number 2, .causal⟩] }

def replaceExecution (value : Nat) : KernelCommand := replaceTo value 1 32 2

def createTask : KernelCommand := command 3 .policy .taskCreate task create (.unread "")

def bindWorkProfile : KernelCommand :=
  { command 4 .policy .taskBindWorkProfile task (revision 1) (.workProfile profile) with
    expectedLifecycleEpoch := some 1
    causation := [⟨.number 3, .causal⟩]
    evidenceRefs := [evidence] }

def assignment : QualifiedAssignmentAuthorization where
  assignmentID := .number 22
  taskID := .number 20
  expectedTaskRevision := 2
  workProfile := profile.binding
  requiredDecisionRoute := .boundedExecution
  selectedDecisionRoute := .boundedExecution
  selectedActorFQN := actor
  selectedExecutionID := .number 31
  selectedFencingEpoch := 1
  modelProfileDigest := .number 0
  runtimeIdentityDigest := .number 0
  qualification := ⟨.number 23, .number 0, .number 0, .number 0, .boundedExecution, "r", .pass, 1⟩
  selectionPolicyRevision := 1
  selectionPolicyDigest := .number 0
  hardConstraintResults := [⟨"c", .pass, [.number 1]⟩]
  selectionReasons := ["s"]
  evidenceIDs := [.number 1]
  authorizationEventID := .number 5

def authorizeAssignment : KernelCommand :=
  { command 5 .policy .taskAuthorizeQualifiedAssignment task (revision 2)
      (.qualifiedAssignment assignment) with
    expectedLifecycleEpoch := some 1
    causation := [⟨.number 4, .causal⟩]
    evidenceRefs := [evidence] }

def profiled : Shared Store :=
  evaluator.script start
    [entry registerEvidence, entry registerExecution, entry createTask, entry bindWorkProfile]

def replaced : Shared Store := evaluator.script profiled.copy [entry (replaceExecution 6)]

theorem profiled_reachable : evaluator.Reachable profiled :=
  (Evaluator.Reaches.start policy .none).script fun _ _ _ _ => trivial

theorem replaced_reachable : evaluator.Reachable replaced :=
  profiled_reachable.copy.script fun _ _ _ _ => trivial

theorem profiled_taken : profiled.current ∈ replaced.copies :=
  Evaluator.copy_taken profiled.current_copied

/-- The assignment is authorized on a store from before the replacement and applied after
it. -/
theorem replaced_execution_assigned :
    evaluator.Reachable replaced ∧ profiled.current ∈ replaced.copies ∧
      evaluator.applies profiled.current replaced.current authorizeAssignment (context 5) = true ∧
      selectedExecution (profiled.current.loadDecision authorizeAssignment) authorizeAssignment =
        some (actor, execution 1) ∧
      replaced.current.executions.lookup actor = some (execution 2) :=
  ⟨replaced_reachable, profiled_taken, by decide⟩

theorem replaced_execution_current_iff :
    ∃ actor tuple,
      selectedExecution (profiled.current.loadDecision authorizeAssignment)
        authorizeAssignment = some (actor, tuple) ∧
      (replaced.current.executions.lookup actor = some tuple ↔
        ∀ latest ∈ replaced.current.latestReplacement actor, latest = tuple) := by
  have applies : evaluator.applies profiled.current replaced.current authorizeAssignment
      (context 5) = true := by decide
  exact selected_execution_current_iff replaced_reachable profiled_taken applies rfl

end Sample

end Tekroo.Kernel
