import Tekroo.Application.Alone
import Tekroo.Application.Assignment
import Tekroo.Store.Acceptance
import Tekroo.Store.Script

namespace Tekroo.Application

open Kernel Lib Checked QualifiedAssignmentAuthorization
open AssignmentCoordinationRequest (assignmentCommand qualificationReceipt)

variable {store : Store} {request : AssignmentCoordinationRequest} {commandID : UUIDv7}
  {key : String} {revision : Nat} {parents : List DagParent} {evidence : List EvidenceRef}
  {context : DecisionContext} {task : AggregateState} {command : KernelCommand}

/-! # The commands of an assignment

What the kernel checks of the three commands that `Coordinate` sends.  The authorization policy and
the schemas are assumed to allow them.
-/

/-- The services of the coordinator: the continuity admission over the store and the handler,
which finds the surroundings of each command. -/
def serveAssignment (evaluator : Evaluator) (system : AggregateRef)
    (around : KernelCommand → Surroundings) (store : Store) :
    (call : AssignmentCall) → Store × call.Answer
  | .admission action powerEpoch =>
    (store, continuityAdmission system store action powerEpoch)
  | .handle call => call.proceed evaluator (around call.command) store

/-- A command is new, its authorization policy is in force and allows it, its schema accepts it,
and the handler has what it needs to decide it. -/
structure Permits (evaluator : Evaluator) (store : Store) (command : KernelCommand)
    (around : Surroundings) (provenance : ProvenanceBasis) (context : DecisionContext) : Prop where
  provides : around.Provides provenance context
  contextValid : validateDecisionContext evaluator.hashes context = true
  newEvent : store.event? context.eventID = none
  unseen : Unseen evaluator store command
  schema : ∃ definition, evaluator.catalogue.resolveCommand command = .ok definition
  policyRevision : command.expectedPolicyRevision = store.authorizationPolicy.revision
  policyDigest : store.authorizationPolicy.policyDigest = provenance.policyDigest
  policyBasis : store.authorizationPolicy.revision = provenance.policyRevision
  allowed : ((store.loadDecision command).authorize command context).allowed = true
  attempt : ∃ attempt, evaluateAttemptPolicy evaluator.hashes command
    (store.loadDecision command) = .ok attempt

def assignmentPayload : CommandType → Payload → Bool
  | .taskMarkReady, .unread _ => true
  | .taskAuthorizeQualifiedAssignment, .qualifiedAssignment _ => true
  | .taskDispatch, .taskDispatch _ => true
  | _, _ => false

section Command

variable {evaluator : Evaluator} {commandType : CommandType} {payload : Payload}
  {around : Surroundings} {provenance : ProvenanceBasis} {text : String}

def Caused (store : Store) (parents : List DagParent) : Prop :=
  ∀ parent ∈ parents, (store.event? parent.parentEventID).any
    (fun event => event.eventType != .other "") = true

structure Accepts (store : Store) (command : KernelCommand) (context : DecisionContext) :
    Prop where
  envelope : validateEnvelope command = .ok ()
  parents : Caused store command.causation
  evidence : validEvidenceRefs command (store.loadDecision command) = true
  policy : validateCommandPolicy command (store.loadDecision command) context = .ok ()
  evolved : ∃ next, evolveState command (store.loadDecision command) context.eventID = .ok next

theorem validDAGParents_iff {definition : CommandDefinition}
    (edges : definition.allowedParentEdges =
      [.causal, .response, .retry, .derivation, .supersession])
    (envelope : validateEnvelope command = .ok ()) (caused : command.causation ≠ []) :
    validDAGParents command definition (store.loadDecision command) = true ↔
      Caused store command.causation := by
  rw [validDAGParents, if_neg (by simpa using caused), List.all_eq_true]
  refine forall₂_congr fun parent member => ?_
  have allowed : definition.allowedParentEdges.contains parent.edgeKind = true := by
    have valid := (Bool.and_eq_true_iff.mp ((validateEnvelope_ok envelope).parents parent member)).2
    cases kind : parent.edgeKind <;> simp_all [EdgeKind.valid]
  rw [allowed, Bool.true_and]
  cases found : store.event? parent.parentEventID <;> simp [Store.loadDecision, found]

structure AssignmentCoordinationRequest.Sound (request : AssignmentCoordinationRequest) :
    Prop where
  authorityKind : request.policyAuthority.kind = .policy
  authority : request.policyAuthority.valid = true
  policyRevision : 0 < request.policyRevision
  catalogue : request.catalogueRevision = Kernel.catalogueRevision
  correlationID : request.identity.correlationID.valid = true
  task : validAssignmentTask request.input.task = true
  authorizationID : request.identity.authorizationCommandID.valid = true
  authorizationKey : request.identity.authorizationKey ≠ ""
  dispatchID : request.identity.dispatchCommandID.valid = true
  dispatchKey : request.identity.dispatchKey ≠ ""

structure Causes (parents : List DagParent) : Prop where
  some_ : parents ≠ []
  bounded : parents.length ≤ 64
  valid : ∀ parent ∈ parents, (parent.parentEventID.valid && parent.edgeKind.valid) = true
  nodup : parents.Nodup

theorem Causes.single {eventID : UUIDv7} (valid : eventID.valid = true) :
    Causes [⟨eventID, .causal⟩] where
  some_ := List.cons_ne_nil _ _
  bounded := by simp
  valid := by simp [valid, EdgeKind.valid]
  nodup := by simp

structure Cites (evidence : List EvidenceRef) : Prop where
  bounded : evidence.length ≤ 64
  valid : ∀ reference ∈ evidence,
    (reference.evidenceID.valid && reference.sha256.valid) = true
  nodup : evidence.Nodup

theorem Cites.none : Cites [] where
  bounded := by simp
  valid := by simp
  nodup := .nil

theorem Cites.of_evidenceSet (valid : validEvidenceSet evidence = true) : Cites evidence := by
  simp only [validEvidenceSet, tests_iff] at valid
  exact ⟨valid.1.1.2, fun reference member => Bool.and_eq_true_iff.mpr
    (valid.1.2 reference member), List.Nodup.of_map _ valid.2⟩

theorem Causes.planned {input : AssignmentInput} {candidate : AssignmentCandidate}
    {decision : AssignmentDecision} (plans : input.Plans candidate decision) :
    Causes (canonicalParents input.readinessParents) := by
  obtain ⟨_, valid, nodup⟩ := canonicalAssignmentParents_some plans.parents
  have same := canonicalParents_perm input.readinessParents
  have length := same.length_eq
  have some_ := plans.formed.someParent
  refine ⟨fun none => ?_, length ▸ plans.formed.parents, fun parent member =>
    valid parent (same.mem_iff.mp member), nodup⟩
  rw [none, List.length_nil] at length
  omega

structure Keeps (store : Store) (request : AssignmentCoordinationRequest) (task : AggregateState) :
    Prop where
  state : store.states.lookup request.task = some task
  revised : store.revisions.lookup request.task = some task.revision
  id : task.id = request.input.task.id
  kind : task.kind = .task
  epoch : task.lifecycleEpoch = request.input.task.lifecycleEpoch
  scope : task.scopeRevision = request.input.task.scopeRevision

theorem Keeps.snapshot (keeps : Keeps store request task)
    (target : command.target = request.task) :
    (store.loadDecision command).state = some task ∧
      (store.loadDecision command).revision = task.revision := by
  have state := keeps.state
  have revised := keeps.revised
  rw [← target] at state revised
  simp [Store.loadDecision, state, revised]

section Typed

variable (typed : assignmentPayload commandType payload = true)

include typed

theorem assignmentPayload_cases :
    (∃ text, commandType = .taskMarkReady ∧ payload = .unread text) ∨
      (∃ value, commandType = .taskAuthorizeQualifiedAssignment ∧
        payload = .qualifiedAssignment value) ∨
      ∃ actor, commandType = .taskDispatch ∧ payload = .taskDispatch actor := by
  unfold assignmentPayload at typed
  split at typed <;> simp_all

theorem assignmentPayload_entry :
    ∃ definition eventType, commandEntry commandType = some definition ∧
      definition.authorityKinds.contains .policy = true ∧ definition.executionRequired = false ∧
      definition.rootAllowed = false ∧ definition.eventTypes = [eventType] ∧
      definition.allowedParentEdges = [.causal, .response, .retry, .derivation, .supersession] := by
  obtain ⟨_, rfl, _⟩ | ⟨_, rfl, _⟩ | ⟨_, rfl, _⟩ := assignmentPayload_cases typed <;>
    exact ⟨_, _, rfl, rfl, rfl, rfl, rfl, rfl⟩

variable (same : request.assignmentCommand commandID key commandType revision parents payload
  evidence = command)

include same

theorem assignmentPayload_plain (snapshot : Snapshot) (context : DecisionContext) :
    commandCreatesAggregate command = false ∧
      evaluatePhase4Command command snapshot context = none ∧
      executionRegistryExpectation command = none ∧
      commandRequiresLifecycleEpoch command = true := by
  subst same
  obtain ⟨_, rfl, rfl⟩ | ⟨_, rfl, rfl⟩ | ⟨_, rfl, rfl⟩ := assignmentPayload_cases typed <;>
    exact ⟨rfl, rfl, rfl, rfl⟩

theorem applies_iff (intact : store.Intact) (noFault : store.faultPoint = .none)
    (authority : request.policyAuthority.kind = .policy)
    (catalogue : request.catalogueRevision = catalogueRevision)
    (found : store.states.lookup request.task = some task)
    (revised : store.revisions.lookup request.task = some revision)
    (epoch : task.lifecycleEpoch = request.input.task.lifecycleEpoch) (caused : parents ≠ [])
    (permits : Permits evaluator store command around provenance context) :
    evaluator.applies store store command context = true ↔
      Accepts store command
        (context.authorizedBy ((store.loadDecision command).authorize command context)) := by
  obtain ⟨definition, eventType, entry, kinds, unexecuted, rooted, single, edges⟩ :=
    assignmentPayload_entry typed
  obtain ⟨resolved, known⟩ := permits.schema
  have type : command.commandType = commandType := by rw [← same]; rfl
  obtain rfl : resolved = definition := by
    have listed := (Catalogue.resolveCommand_ok known).1
    rw [type, entry] at listed
    exact (Option.some.inj listed).symm
  have caused : command.causation ≠ [] := by
    rwa [← same]
  constructor
  · intro applies
    obtain ⟨applied, sameCommand, sameContext, _⟩ := Evaluator.applies_update applies
    subst sameCommand sameContext
    have envelope := (Evaluator.resolve_ok applied.resolved).1
    obtain rfl : applied.definition = resolved := by
      have listed := applied.entry
      rw [type, entry] at listed
      exact (Option.some.inj listed).symm
    exact {
      envelope
      parents := (validDAGParents_iff edges envelope caused).mp applied.admitted.parents
      evidence := applied.admitted.evidence
      policy := applied.admitted.policy
      evolved := ⟨_, applied.admitted.evolved⟩ }
  · intro accepts
    obtain ⟨⟨nextState, nextRevision⟩, evolved⟩ := accepts.evolved
    obtain ⟨attempt, attempted⟩ := permits.attempt
    have basis := permits.provides.provenance
    obtain ⟨creates, unpaid, unregistered, inEpoch⟩ := assignmentPayload_plain typed same
      (store.loadDecision command)
      (context.authorizedBy ((store.loadDecision command).authorize command context))
    have policy : command.authority.kind = .policy := by
      rwa [← same]
    have resolves : evaluator.resolve command = .ok resolved := by
      have revision : command.expectedCatalogueRevision = catalogueRevision := by
        rwa [← same]
      simp only [Evaluator.resolve, accepts.envelope, known, policy, kinds, revision]
      rfl
    have admitted : evaluator.Admitted command (store.loadDecision command)
        (context.authorizedBy ((store.loadDecision command).authorize command context)) resolved
        ((store.loadDecision command).authorize command context)
        { nextState, nextRevision, eventType
          lifecycleEpoch := (nextState.map (·.lifecycleEpoch)).getD 1
          payload := command.payload
          attemptBudget := attempt
          workBudget := none } := {
      policyRevision := permits.policyRevision
      policyDigest := permits.policyDigest.trans (congrArg (·.policyDigest) basis.symm)
      policyBasis := permits.policyBasis.trans (congrArg (·.policyRevision) basis.symm)
      allowed := permits.allowed
      attribution := by
        subst same
        simp [actorAttributionValid, assignmentCommand, authority, unexecuted]
      creation := by
        rw [creates, ← same]
        rfl
      present := by
        rw [creates]
        subst same
        simp [Store.loadDecision, assignmentCommand, revised]
      revision := by
        subst same
        simp [Store.loadDecision, assignmentCommand, revised]
      epoch := by
        rw [expectedLifecycleEpochMatches, if_pos inEpoch]
        subst same
        simp [Store.loadDecision, assignmentCommand, revised, found, epoch]
      preconditions := by
        rw [← same]
        rfl
      registry := by
        rw [validateExecutionRegistryCommand, unregistered]
      parents := (validDAGParents_iff edges accepts.envelope caused).mpr accepts.parents
      evidence := accepts.evidence
      phase4 := ⟨_, by rw [phase4Contribution, unpaid], rfl, rfl, rfl⟩
      policy := accepts.policy
      attempt := attempted
      evolved
      eventType := single }
    let accepted : AcceptedCommand evaluator store :=
      ⟨command, context, resolved, _, permits.contextValid, resolves, admitted,
        basisAndContextValid_authorizedBy permits.contextValid⟩
    exact accepted.applies intact permits.newEvent permits.unseen.commandID permits.unseen.scope
      (by rw [noFault]; rfl)

theorem envelope_iff (sound : request.Sound) (causes : Causes parents) (cites : Cites evidence)
    (id : commandID.valid = true) (named : key ≠ "") (revised : 0 < revision) :
    validateEnvelope command = .ok () ↔ key.utf8ByteSize ≤ 256 := by
  subst same
  have task := sound.task
  simp only [validAssignmentTask, tests_iff] at task
  obtain ⟨⟨⟨⟨_, taskID⟩, _⟩, epoch⟩, _⟩ := task
  have known : commandType ≠ .other "" ∧ payload.isEmpty = false := by
    obtain ⟨_, rfl, rfl⟩ | ⟨_, rfl, rfl⟩ | ⟨_, rfl, rfl⟩ := assignmentPayload_cases typed <;>
      exact ⟨nofun, rfl⟩
  have filled : key.utf8ByteSize ≠ 0 := mt String.utf8ByteSize_eq_zero_iff.mp named
  have parentsDistinct : ∀ invalid duplicate : String,
      distinct (fun parent : DagParent => parent.parentEventID.valid && parent.edgeKind.valid)
        invalid duplicate [] parents = .ok () := fun _ _ =>
    distinct_ok.mpr ⟨causes.valid, causes.nodup, by simp⟩
  have evidenceDistinct : ∀ invalid duplicate : String,
      distinct (fun evidence : EvidenceRef => evidence.evidenceID.valid && evidence.sha256.valid)
        invalid duplicate [] evidence = .ok () := fun _ _ =>
    distinct_ok.mpr ⟨cites.valid, cites.nodup, by simp⟩
  simp [validateEnvelope, assignmentCommand, known, id,
    AssignmentCoordinationRequest.task, AggregateRef.valid, AggregateKind.valid, taskID,
    sound.authority, sound.catalogue, sound.correlationID, ExpectedRevision.valid, revised,
    parentsDistinct, evidenceDistinct, validPreconditionVector, canonicalPreconditions,
    causes.bounded, cites.bounded, filled, contractIdentity, schemaVersion,
    Kernel.catalogueRevision, Nat.ne_of_gt sound.policyRevision, Nat.ne_of_gt epoch]

theorem evolveState_existing {next : AggregateState} {eventID : UUIDv7}
    (keeps : Keeps store request task)
    (existing : evolveExisting command task task.revision eventID = .ok next) :
    evolveState command (store.loadDecision command) eventID =
      .ok (some next, task.revision + 1) := by
  obtain ⟨state, revised⟩ := keeps.snapshot (same ▸ rfl : command.target = request.task)
  have plain : (command.commandType == .storyCreate || command.commandType == .taskCreate) =
      false ∧ isOperatorHumanContinuityCreation command = false := by
    subst same
    obtain ⟨_, rfl, rfl⟩ | ⟨_, rfl, rfl⟩ | ⟨_, rfl, rfl⟩ := assignmentPayload_cases typed <;>
      exact ⟨rfl, rfl⟩
  simp [evolveState, plain, state, revised, existing]

end Typed

theorem markReady_evolved (keeps : Keeps store request task) (planned : task.phase = .planned)
    (eventID : UUIDv7)
    (same : request.assignmentCommand commandID key .taskMarkReady task.revision parents (.unread
      text) evidence = command) :
    evolveState command (store.loadDecision command) eventID =
      .ok (some { task with phase := .ready, revision := task.revision + 1 },
        task.revision + 1) := by
  have existing : evolveExisting command task task.revision eventID =
      .ok { task with phase := .ready, revision := task.revision + 1 } := by
    subst same
    simp [evolveExisting, assignmentCommand, AssignmentCoordinationRequest.task, keeps.id,
      keeps.kind, planned, terminalCommandProhibited, terminalPhase, evolveLifecycle,
      commandLifecycleAction, AggregateState.applyLifecycle, AggregateState.lifecycleModel,
      applyLifecycleActions, applyLifecycleAction, lifecycleTransition, applyOwnership,
      evolveConversation, continuityEventType, interactionEventType, evolveProfile]
  exact evolveState_existing rfl same keeps existing

theorem assignment_evolved (keeps : Keeps store request task)
    (open_ : terminalPhase task.phase = false)
    (typed : assignmentPayload commandType payload = true) (other : commandType ≠ .taskMarkReady)
    (eventID : UUIDv7)
    (same : request.assignmentCommand commandID key commandType task.revision parents payload
      evidence = command) :
    evolveState command (store.loadDecision command) eventID =
      .ok (some { task with revision := task.revision + 1 }, task.revision + 1) := by
  have existing : evolveExisting command task task.revision eventID =
      .ok { task with revision := task.revision + 1 } := by
    subst same
    obtain ⟨_, rfl, _⟩ | ⟨_, rfl, rfl⟩ | ⟨_, rfl, rfl⟩ := assignmentPayload_cases typed
    · exact absurd rfl other
    all_goals
      simp [evolveExisting, assignmentCommand, AssignmentCoordinationRequest.task, keeps.id,
        keeps.kind, open_, terminalCommandProhibited, evolveLifecycle, commandLifecycleAction,
        applyOwnership, evolveConversation, continuityEventType, interactionEventType,
        evolveProfile]
  exact evolveState_existing typed same keeps existing

theorem markReady_policy {snapshot : Snapshot}
    (same : request.assignmentCommand commandID key .taskMarkReady revision parents (.unread text)
      evidence = command) :
    validateCommandPolicy command snapshot context = .ok () := by
  subst same
  rfl

end Command

def AssignmentCoordinationRequest.authorizes (request : AssignmentCoordinationRequest)
    (candidate : AssignmentCandidate) (revision : Nat) : QualifiedAssignmentAuthorization where
  assignmentID := request.identity.authorizationCommandID
  taskID := request.input.task.id
  expectedTaskRevision := revision
  workProfile := request.input.workProfile.profile.binding
  requiredDecisionRoute := request.input.workProfile.profile.minimumDecisionRoute
  selectedDecisionRoute := candidate.qualification.decisionRoute
  selectedActorFQN := candidate.actorFQN
  selectedExecutionID := candidate.execution.executionID
  selectedFencingEpoch := candidate.execution.fencingEpoch
  modelProfileDigest := candidate.modelProfileDigest
  runtimeIdentityDigest := candidate.runtimeIdentityDigest
  qualification := qualificationReceipt candidate.qualification
  selectionPolicyRevision := request.input.selectionPolicyRevision
  selectionPolicyDigest := request.input.selectionPolicyDigest
  hardConstraintResults := candidate.hardConstraints
  selectionReasons := candidate.selectionReasons
  evidenceIDs := candidate.selectionEvidence.map (·.evidenceID)
  authorizationEventID := .text ""

section Authorization

variable {candidate : AssignmentCandidate} {decision : AssignmentDecision} {eventID : UUIDv7}
  {authorization : QualifiedAssignmentAuthorization}
  (plans : request.input.Plans candidate decision) (keeps : Keeps store request task)
  (bound : store.workProfiles.lookup request.task = some request.input.workProfile)
  (registered : store.executions.lookup candidate.actorFQN = some candidate.execution)
  (authorized : (request.authorizes candidate revision).authorizedBy eventID = some authorization)
  (assigned : store.qualifiedAssignments.lookup request.task = some authorization)
  (advanced : revision + 1 = task.revision)

include plans in
theorem authorizationCommand_planned : request.authorizationCommand decision revision parents
    candidate.actorFQN candidate.execution candidate.qualification =
      request.assignmentCommand request.identity.authorizationCommandID
        request.identity.authorizationKey .taskAuthorizeQualifiedAssignment revision parents
        (.qualifiedAssignment (request.authorizes candidate revision))
        candidate.selectionEvidence := by
  obtain ⟨ids, rfl⟩ := plans.assigned
  rfl

theorem evidenceFieldMatches_own (valid : validEvidenceSet evidence = true) :
    evidenceFieldMatches (evidence.map (·.evidenceID)) evidence = true := by
  simp only [validEvidenceSet, tests_iff] at valid
  simp only [evidenceFieldMatches, List.length_map, beq_self_eq_true, Bool.and_true, List.all_map,
    tests_iff, Function.comp_apply]
  exact fun reference member => (valid.1.2 reference member).1

include plans keeps in
theorem taskBindingMatches_planned :
    request.input.workProfile.profile.binding.taskBindingMatches task = true := by
  have task := plans.formed.task
  simp only [validAssignmentTask, tests_iff] at task
  have epoch : request.input.workProfile.profile.binding.lifecycleEpoch =
      request.input.task.lifecycleEpoch := plans.formed.epoch
  have scope : request.input.workProfile.profile.binding.scopeRevision =
      request.input.task.scopeRevision := plans.formed.scope
  simp [WorkProfileBinding.taskBindingMatches, plans.formed.binding, keeps.kind, keeps.id,
    keeps.epoch, keeps.scope, epoch, scope, task]

include plans keeps bound registered in
theorem authorize_policy_iff
    (same : request.assignmentCommand commandID key .taskAuthorizeQualifiedAssignment
      task.revision parents (.qualifiedAssignment (request.authorizes candidate task.revision))
      candidate.selectionEvidence = command) :
    validateCommandPolicy command (store.loadDecision command) context = .ok () ↔
      ((request.authorizes candidate task.revision).authorizedBy context.eventID).isSome := by
  have eligible := (AssignmentInput.selected_eligible plans.selected).2
  simp only [AssignmentCandidate.eligible, tests_iff] at eligible
  obtain ⟨state, revised⟩ := keeps.snapshot (same ▸ rfl : command.target = request.task)
  have found : (store.loadDecision command).workProfiles.lookup command.target =
      some request.input.workProfile := by
    subst same
    exact bound
  have matched : payloadEvidenceMatches command = true := by
    subst same
    exact evidenceFieldMatches_own eligible.1.1.1.1.1.2
  have target : command.target.id = request.input.task.id := by
    subst same
    rfl
  have policy : validateCommandPolicy command (store.loadDecision command) context =
      authorizeAssignmentPolicy command (store.loadDecision command) context
        (.qualifiedAssignment (request.authorizes candidate task.revision)) := by
    subst same
    rfl
  have current : (store.loadDecision command).currentExecutions = store.executions := rfl
  rw [policy]
  simp only [authorizeAssignmentPolicy, authorizedBy]
  split
  · simp [state, found, matched, revised, target, current, plans.formed.workProfile,
      AssignmentCoordinationRequest.authorizes, taskBindingMatches_planned plans keeps, registered,
      QualifiedAssignmentAuthorization.selectedExecution]
  · simp

structure Substantiated (candidate : AssignmentCandidate) : Prop where
  distinct : (candidate.hardConstraints.map (·.constraintID)).Nodup
  cited : ∀ result ∈ candidate.hardConstraints, ∀ evidenceID ∈ result.evidenceIDs,
    evidenceID ∈ candidate.selectionEvidence.map (·.evidenceID)
  observed : candidate.qualification.observedAt.toSecond.isZero = false

theorem validUniqueUUIDs_evidence (valid : validEvidenceSet evidence = true) :
    validUniqueUUIDs (evidence.map (·.evidenceID)) 1 64 = true := by
  simp only [validEvidenceSet, Bool.and_eq_true, List.all_eq_true] at valid
  simp only [validUniqueUUIDs, List.length_map, valid, Bool.and_true, Bool.true_and,
    List.all_map, List.all_eq_true, Function.comp_apply]
  exact fun reference member => (valid.1.2 reference member).1

theorem qualificationReceipt_valid {qualification : ModelProfileQualification} {moment : Time}
    (eligible : qualification.eligibleAt moment = true) :
    (qualificationReceipt qualification).valid = !qualification.observedAt.toSecond.isZero := by
  simp only [ModelProfileQualification.eligibleAt, ModelProfileQualification.valid,
    tests_iff] at eligible
  simp [AssignmentQualificationReceipt.valid, qualificationReceipt, eligible]

include plans in
theorem authorizedBy_iff (id : request.identity.authorizationCommandID.valid = true)
    (revised : 0 < revision) (identified : eventID.valid = true) :
    ((request.authorizes candidate revision).authorizedBy eventID).isSome ↔
      Substantiated candidate := by
  obtain ⟨formed, eligible⟩ := AssignmentInput.selected_eligible plans.selected
  have task := plans.formed.task
  simp only [validAssignmentTask, tests_iff] at task
  simp only [AssignmentCandidate.wellFormed, tests_iff] at formed
  simp only [AssignmentCandidate.eligible, tests_iff] at eligible
  obtain ⟨⟨⟨⟨⟨⟨⟨⟨⟨⟨qualified, digest⟩, executable⟩, satisfies⟩, _⟩, evidenced⟩, reasoned⟩,
    some_⟩, bounded⟩, passed⟩, _⟩ := eligible
  have receipt := qualificationReceipt_valid qualified
  have ids := validUniqueUUIDs_evidence evidenced
  have digests : (qualificationReceipt
      candidate.qualification).modelProfileDigest = candidate.modelProfileDigest := digest
  have routes : (qualificationReceipt
      candidate.qualification).decisionRoute = candidate.qualification.decisionRoute := rfl
  have same : Substantiated candidate ↔
      (candidate.qualification.observedAt.toSecond.isZero = false ∧
        ∀ result ∈ candidate.hardConstraints, ∀ evidenceID ∈ result.evidenceIDs,
          ∃ reference ∈ candidate.selectionEvidence, reference.evidenceID = evidenceID) ∧
        (candidate.hardConstraints.map (·.constraintID)).Nodup := by
    constructor
    · rintro ⟨distinct, cited, observed⟩
      exact ⟨⟨observed, fun result member evidenceID listed =>
        List.mem_map.mp (cited result member evidenceID listed)⟩, distinct⟩
    · rintro ⟨⟨observed, cited⟩, distinct⟩
      exact ⟨distinct, fun result member evidenceID listed =>
        List.mem_map.mpr (cited result member evidenceID listed), observed⟩
  rw [same]
  simp [authorizedBy, valid, QualifiedAssignmentAuthorization.selectedExecution, id, task,
    AssignmentCoordinationRequest.authorizes, revised, plans.formed.binding, plans.formed.route,
    plans.formed.selectionPolicyRevision, plans.formed.selectionPolicyDigest, identified, formed,
    receipt, ids, digests, routes, satisfies, reasoned, some_, bounded]
  refine and_congr (and_congr Iff.rfl (forall₂_congr fun result member => ?_)) decide_eq_true_iff
  simp [passed result member]

include plans keeps bound registered authorized assigned advanced in
theorem dispatch_policy
    (same : request.assignmentCommand commandID key .taskDispatch task.revision
      [⟨eventID, .causal⟩] (.taskDispatch candidate.actorFQN.text) [] = command) :
    validateCommandPolicy command (store.loadDecision command) context = .ok () := by
  obtain ⟨state, revised⟩ := keeps.snapshot (same ▸ rfl : command.target = request.task)
  obtain ⟨valid, filled⟩ : authorization.valid = true ∧
      { request.authorizes candidate revision with authorizationEventID := eventID } =
        authorization := by
    simp only [authorizedBy, Option.ite_none_right_eq_some, Option.some.injEq] at authorized
    exact ⟨authorized.2 ▸ authorized.1, authorized.2⟩
  have expected : authorization.expectedTaskRevision = revision := filled ▸ rfl
  have binding : authorization.workProfile = request.input.workProfile.profile.binding :=
    filled ▸ rfl
  have actor : authorization.selectedActorFQN = candidate.actorFQN := filled ▸ rfl
  have execution : authorization.selectedExecution = candidate.execution := filled ▸ rfl
  have event : authorization.authorizationEventID = eventID := filled ▸ rfl
  have found : (store.loadDecision command).qualifiedAssignments.lookup command.target =
      some authorization := by
    subst same
    exact assigned
  have profiled : profileBound (store.loadDecision command) command.target
      request.input.workProfile.profile.binding = true := by
    have bound : (store.loadDecision command).workProfiles.lookup command.target =
        some request.input.workProfile := by
      subst same
      exact bound
    simp [profileBound, bound, plans.formed.workProfile]
  have caused : containsDagParent command eventID .causal = true := by
    subst same
    simp [containsDagParent, assignmentCommand]
  have policy : validateCommandPolicy command (store.loadDecision command) context =
      dispatchPolicy command (store.loadDecision command)
        (.taskDispatch candidate.actorFQN.text) := by
    subst same
    rfl
  have current : (store.loadDecision command).currentExecutions.lookup
      authorization.selectedActorFQN = some authorization.selectedExecution := by
    rwa [actor, execution]
  rw [policy]
  simp [dispatchPolicy, found, state, valid, revised, expected, advanced, binding, profiled, actor,
    event, caused, current, taskBindingMatches_planned plans keeps]

def Evidenced (store : Store) (evidence : List EvidenceRef) : Prop :=
  ∀ reference ∈ evidence, (store.evidence.lookup reference.evidenceID).any
    (fun metadata => metadata.available && metadata.sha256 == reference.sha256) = true

variable (sound : request.Sound) (revised : 0 < task.revision)

include keeps sound revised in
theorem markReady_accepted_iff (causes : Causes parents) (planned : task.phase = .planned)
    (id : commandID.valid = true) (named : key ≠ "") {text : String}
    (same : request.assignmentCommand commandID key .taskMarkReady task.revision parents
      (.unread text) [] = command) :
    Accepts store command context ↔ key.utf8ByteSize ≤ 256 ∧ Caused store parents := by
  have envelope := envelope_iff rfl same sound causes .none id named revised
  have causation : command.causation = parents := same ▸ rfl
  constructor
  · intro accepts
    exact ⟨envelope.mp accepts.envelope, causation ▸ accepts.parents⟩
  · rintro ⟨short, caused⟩
    exact {
      envelope := envelope.mpr short
      parents := causation ▸ caused
      evidence := same ▸ rfl
      policy := markReady_policy same
      evolved := ⟨_, markReady_evolved keeps planned _ same⟩ }

variable (open_ : terminalPhase task.phase = false)

include plans keeps bound registered sound revised open_ in
theorem authorize_accepted_iff (causes : Causes parents)
    (identified : context.eventID.valid = true)
    (same : request.assignmentCommand request.identity.authorizationCommandID
        request.identity.authorizationKey .taskAuthorizeQualifiedAssignment task.revision parents
        (.qualifiedAssignment (request.authorizes candidate task.revision))
        candidate.selectionEvidence = command) :
    Accepts store command context ↔
      request.identity.authorizationKey.utf8ByteSize ≤ 256 ∧ Caused store parents ∧
        Evidenced store candidate.selectionEvidence ∧ Substantiated candidate := by
  have eligible := (AssignmentInput.selected_eligible plans.selected).2
  simp only [AssignmentCandidate.eligible, tests_iff] at eligible
  have envelope := envelope_iff rfl same sound causes (.of_evidenceSet eligible.1.1.1.1.1.2)
    sound.authorizationID sound.authorizationKey revised
  have causation : command.causation = parents := same ▸ rfl
  have evidence : validEvidenceRefs command (store.loadDecision command) = true ↔
      Evidenced store candidate.selectionEvidence := by
    subst same
    exact List.all_eq_true
  have policy : validateCommandPolicy command (store.loadDecision command) context = .ok () ↔
      Substantiated candidate :=
    (authorize_policy_iff plans keeps bound registered same).trans
      (authorizedBy_iff plans sound.authorizationID revised identified)
  constructor
  · intro accepts
    exact ⟨envelope.mp accepts.envelope, causation ▸ accepts.parents,
      evidence.mp accepts.evidence, policy.mp accepts.policy⟩
  · rintro ⟨short, caused, evidenced, substantiated⟩
    exact {
      envelope := envelope.mpr short
      parents := causation ▸ caused
      evidence := evidence.mpr evidenced
      policy := policy.mpr substantiated
      evolved := ⟨_, assignment_evolved keeps open_ rfl (by simp) _ same⟩ }

include plans keeps bound registered authorized assigned advanced sound revised open_ in
theorem dispatch_accepted_iff (identified : eventID.valid = true)
    (caused : Caused store [⟨eventID, .causal⟩])
    (same : request.assignmentCommand request.identity.dispatchCommandID
        request.identity.dispatchKey .taskDispatch task.revision [⟨eventID, .causal⟩]
        (.taskDispatch candidate.actorFQN.text) [] = command) :
    Accepts store command context ↔ request.identity.dispatchKey.utf8ByteSize ≤ 256 := by
  have envelope := envelope_iff rfl same sound (.single identified) .none sound.dispatchID
    sound.dispatchKey revised
  constructor
  · intro accepts
    exact envelope.mp accepts.envelope
  · intro short
    exact {
      envelope := envelope.mpr short
      parents := same ▸ caused
      evidence := same ▸ rfl
      policy := dispatch_policy plans keeps bound registered authorized assigned advanced same
      evolved := ⟨_, assignment_evolved keeps open_ rfl (by simp) _ same⟩ }

end Authorization

end Tekroo.Application
