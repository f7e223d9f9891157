import Tekroo.Application.AssignmentCommands
import Tekroo.Properties.Continuity
import Tekroo.Properties.Fencing

namespace Tekroo.Application

open Kernel Lib Checked Store Program

section

variable {evaluator : Evaluator} {system : AggregateRef} {around : KernelCommand → Surroundings}
  {shared : Shared Store} {request : AssignmentCoordinationRequest} {store : Store}

/-! # Planned assignments and the kernel

`PlanAssignment` and the policy of the kernel check an assignment separately.
-/

section After

variable {task next : AggregateState} (applied : AppliedCommand evaluator store store)

/-- What the later commands read and none of the three changes. -/
structure Untouched (before after : Store) : Prop where
  workProfiles : after.workProfiles = before.workProfiles
  executions : after.executions = before.executions
  evidence : after.evidence = before.evidence
  faultPoint : after.faultPoint = before.faultPoint

theorem capabilityProjection_profile {event : DomainEvent} {value : CapabilityProjection}
    (projected : capabilityProjection event = .ok (some value))
    (other : event.eventType ≠ .taskWorkProfileBound) : value.profile = none := by
  unfold capabilityProjection at projected
  split at projected
  · next type => exact absurd type other
  · split at projected
    · simp only [chain_ok, Option.some.injEq] at projected
      obtain ⟨_, _, _, _, rfl⟩ := projected
      rfl
    · cases projected
  · cases projected

theorem after_untouched (typed : assignmentPayload applied.command.commandType
    applied.command.payload = true) : Untouched store applied.after := by
  have eventType : applied.event.eventType = .taskReadied ∨
      applied.event.eventType = .taskQualifiedAssignmentAuthorized ∨
      applied.event.eventType = .taskDispatched := by
    unfold assignmentPayload at typed
    split at typed
    · next type _ => exact .inl (applied.eventType_of type rfl)
    · next type _ => exact .inr (.inl (applied.eventType_of type rfl))
    · next type _ => exact .inr (.inr (applied.eventType_of type rfl))
    · cases typed
  obtain ⟨_, _, capability, _, _, _, _, projected, _, _, same⟩ := applied.projected
  refine ⟨?_, ?_, ?_, rfl⟩
  · have written : applied.after.workProfiles = insertAll store.workProfiles
        (capability.toList.filterMap fun value => value.profile.map (value.reference, ·)) := by
      simp [AppliedCommand.after, write, same]
    rw [written]
    cases capability with
    | none => rfl
    | some value =>
      have unprofiled := capabilityProjection_profile projected (by
        rcases eventType with type | type | type <;> simp [type])
      simp [unprofiled]
  · rw [show applied.after.executions = registerExecution store.executions applied.event
      from rfl]
    rcases eventType with type | type | type <;> simp [registerExecution, type]
  · rw [show applied.after.evidence = registerEvidence store.evidence applied.event
      from rfl]
    rcases eventType with type | type | type <;> simp [registerEvidence, type]

theorem after_caused : Caused applied.after [⟨applied.context.eventID, .causal⟩] := by
  have fresh := applied.event_fresh
  have found : applied.after.event? applied.context.eventID = some applied.event := by
    unfold event? at fresh ⊢
    rw [AcceptedCommand.event_eventID] at fresh
    rw [applied.after_events, List.find?_append, fresh]
    simp
  have known : applied.event.eventType ≠ .other "" := by
    intro same
    have source := applied.source
    rw [same] at source
    cases source
  intro parent member
  rw [List.mem_singleton.mp member, found]
  simpa using known

theorem after_keeps (target : applied.target = request.task)
    (evolved : evolveState applied.command (store.loadDecision applied.command)
      applied.context.eventID = .ok (some next, next.revision))
    (same : { next with phase := task.phase, revision := task.revision } = task)
    (keeps : Keeps store request task) : Keeps applied.after request next := by
  have decided : (applied.acceptance.nextState, applied.acceptance.nextRevision) =
      (some next, next.revision) :=
    Except.ok.inj (applied.admitted.evolved.symm.trans evolved)
  obtain ⟨state, revision⟩ := Prod.mk.inj decided
  constructor
  · rw [applied.after_states, if_pos target.symm, state, Option.some_or]
  · rw [applied.after_revisions, if_pos target.symm]
    exact congrArg some revision
  · exact (congrArg (·.id) same).trans keeps.id
  · exact (congrArg (·.kind) same).trans keeps.kind
  · exact (congrArg (·.lifecycleEpoch) same).trans keeps.epoch
  · exact (congrArg (·.scopeRevision) same).trans keeps.scope

theorem after_assigned (type : applied.command.commandType = .taskAuthorizeQualifiedAssignment)
    (target : applied.target = request.task) {value : QualifiedAssignmentAuthorization}
    (payload : applied.command.payload = .qualifiedAssignment value) :
    ∃ authorization, value.authorizedBy applied.context.eventID = some authorization ∧
      applied.after.qualifiedAssignments.lookup request.task = some authorization := by
  have eventType := applied.eventType_of type rfl
  have carried := (applied.event_payload (by simp [type])).trans payload
  obtain ⟨_, _, capability, _, _, _, _, projected, _, _, same⟩ := applied.projected
  have written : applied.after.qualifiedAssignments = insertAll store.qualifiedAssignments
      (capability.toList.filterMap fun value =>
        value.authorization.map (value.reference, ·)) := by
    simp [AppliedCommand.after, write, same]
  simp only [capabilityProjection, eventType, carried, chain_ok, AcceptedCommand.event_aggregate,
    AcceptedCommand.event_eventID] at projected
  obtain ⟨_, authorization, authorized, _, rfl⟩ := projected
  refine ⟨authorization, authorized, ?_⟩
  simp [written, target]

end After

/-- Every command of a run is permitted on the store that it finds. -/
def AllPermitted (evaluator : Evaluator) (around : KernelCommand → Surroundings)
    (calls : List (Store × AssignmentCall)) : Prop :=
  ∀ store command provenance,
    (store, AssignmentCall.handle ⟨command, provenance, .lookup⟩) ∈ calls →
      ∃ context, Permits evaluator store command (around command) provenance context

section Send

variable {command : KernelCommand} {provenance : ProvenanceBasis} {context : DecisionContext}

theorem serveAssignment_handle (system : AggregateRef) (store : Store) (call : Call) :
    (Program.request (AssignmentCall.handle call)).run
      (serveAssignment evaluator system around) store =
        call.proceed evaluator (around call.command) store := rfl

theorem sendAssignment_asks :
    (store, AssignmentCall.handle ⟨command, provenance, .lookup⟩) ∈
      (sendAssignment provenance command).trace (serveAssignment evaluator system around)
        store := by
  rw [sendAssignment, trace_bind]
  exact List.mem_append.mpr (.inl (List.mem_cons_self ..))

/-- A permitted command is applied and its event becomes the parent of the next one, or it is
refused and the coordination ends. -/
theorem sendAssignment_cases (system : AggregateRef) (noFault : store.faultPoint = .none)
    (permits : Permits evaluator store command (around command) provenance context) :
    (evaluator.applies store store command context = true ∧
      ∃ applied : AppliedCommand evaluator store store,
        applied.command = command ∧ applied.context = context ∧
          (sendAssignment provenance command).run (serveAssignment evaluator system around)
            store = (applied.after, applied.decision.receipt, .ok [⟨context.eventID, .causal⟩])) ∨
      (evaluator.applies store store command context = false ∧ ∃ after receipt error,
        receipt.outcomeCode ≠ .applied ∧
          (sendAssignment provenance command).run (serveAssignment evaluator system around)
            store = (after, receipt, .error error)) := by
  cases applies : evaluator.applies store store command context with
  | true =>
    obtain ⟨applied, same, decided, handled⟩ := handle_applies
      (serveAssignment_handle system) permits.unseen permits.provides noFault applies
    refine .inl ⟨rfl, applied, same, decided, ?_⟩
    subst decided
    rw [sendAssignment, run_bind, handled]
    rfl
  | false =>
    refine .inr ⟨rfl, ?_⟩
    rw [sendAssignment, run_bind]
    cases answered : ((handle (fun call => Program.request (AssignmentCall.handle call)) command
        provenance).run (serveAssignment evaluator system around) store).2 with
    | error error => exact ⟨_, .zero, some (.handler error), by decide, rfl⟩
    | ok receipt =>
      have refused : receipt.outcomeCode ≠ .applied := by
        intro outcome
        have applied := applies_of_handle (serveAssignment_handle system)
          permits.unseen permits.provides noFault answered outcome
        rw [applies] at applied
        cases applied
      have ends : (receipt.outcomeCode != .applied) = true := by simpa using refused
      simp only [ends, if_true]
      exact ⟨_, receipt, none, refused, rfl⟩

end Send

def wasApplied (receipt : Option CommandReceipt) : Prop :=
  receipt.any (fun value => value.outcomeCode == .applied) = true

/-- Every command that the decision calls for was applied. -/
structure CarriedOut (result : AssignmentCoordinationResult) : Prop where
  readiness : result.decision.needsReadiness = true → wasApplied result.readinessReceipt
  authorization : wasApplied result.authorizationReceipt
  dispatch : wasApplied result.dispatchReceipt

section Run

variable {task : AggregateState} {candidate : AssignmentCandidate} {decision : AssignmentDecision}
  {parents : List DagParent}

structure Prepares (evaluator : Evaluator) (shared : Shared Store)
    (request : AssignmentCoordinationRequest) (candidate : AssignmentCandidate)
    (task : AggregateState) : Prop where
  reached : evaluator.Reachable shared
  noFault : shared.current.faultPoint = .none
  keeps : Keeps shared.current request task
  revised : 0 < task.revision
  bound : shared.current.workProfiles.lookup request.task = some request.input.workProfile
  registered : shared.current.executions.lookup candidate.actorFQN = some candidate.execution

theorem Prepares.step (prepares : Prepares evaluator shared request candidate task)
    {next : AggregateState} (applied : AppliedCommand evaluator shared.current shared.current)
    (typed : assignmentPayload applied.command.commandType applied.command.payload = true)
    (target : applied.target = request.task)
    (evolved : evolveState applied.command (shared.current.loadDecision applied.command)
      applied.context.eventID = .ok (some next, next.revision))
    (same : { next with phase := task.phase, revision := task.revision } = task)
    (advanced : next.revision = task.revision + 1) :
    ∃ later, later.current = applied.after ∧ Prepares evaluator later request candidate next := by
  obtain ⟨later, reached, current⟩ := AppliedCommand.reachable prepares.reached applied
  have untouched := after_untouched applied typed
  refine ⟨later, current, ?_⟩
  constructor
  · exact reached
  · rw [current, untouched.faultPoint, prepares.noFault]
  · rw [current]
    exact after_keeps applied target evolved same prepares.keeps
  · rw [advanced]
    exact Nat.succ_pos _
  · rw [current, untouched.workProfiles, prepares.bound]
  · rw [current, untouched.executions, prepares.registered]

theorem Prepares.send (prepares : Prepares evaluator shared request candidate task)
    (sound : request.Sound) {commandID : UUIDv7} {key : String} {commandType : CommandType}
    {payload : Payload} {evidence : List EvidenceRef}
    (typed : assignmentPayload commandType payload = true) (caused : parents ≠ [])
    {command : KernelCommand}
    (same : request.assignmentCommand commandID key commandType task.revision parents payload
      evidence = command)
    {provenance : ProvenanceBasis}
    (permitted : AllPermitted evaluator around ((sendAssignment provenance command).trace
      (serveAssignment evaluator system around) shared.current)) :
    ∃ granted : DecisionContext, granted.eventID.valid = true ∧
      ((Accepts shared.current command granted ∧
        ∃ applied : AppliedCommand evaluator shared.current shared.current,
          applied.command = command ∧ applied.context.eventID = granted.eventID ∧
            (sendAssignment provenance command).run (serveAssignment evaluator system around)
              shared.current =
              (applied.after, applied.decision.receipt, .ok [⟨granted.eventID, .causal⟩])) ∨
        (¬ Accepts shared.current command granted ∧ ∃ after receipt error,
          receipt.outcomeCode ≠ .applied ∧
            (sendAssignment provenance command).run (serveAssignment evaluator system around)
              shared.current = (after, receipt, .error error))) := by
  obtain ⟨context, permits⟩ := permitted _ _ _ sendAssignment_asks
  have accepted := applies_iff typed same prepares.reached.intact prepares.noFault
    sound.authorityKind sound.catalogue prepares.keeps.state prepares.keeps.revised
    prepares.keeps.epoch caused permits
  have identified : context.eventID.valid = true := by
    have valid := permits.contextValid
    simp only [validateDecisionContext, tests_iff] at valid
    exact valid.1.1.2
  refine ⟨context.authorizedBy ((shared.current.loadDecision command).authorize command context),
    identified, ?_⟩
  rcases sendAssignment_cases system prepares.noFault permits with
    ⟨applies, applied, command, decided, run⟩ | ⟨refused, run⟩
  · exact .inl ⟨accepted.mp applies, applied, command, by rw [decided]; rfl, run⟩
  · refine .inr ⟨fun accepts => ?_, run⟩
    rw [accepted.mpr accepts] at refused
    cases refused

/-- The checks of the authorization and the dispatch that the planner leaves out. -/
structure Assignable (store : Store) (request : AssignmentCoordinationRequest)
    (candidate : AssignmentCandidate) : Prop where
  authorizationKey : request.identity.authorizationKey.utf8ByteSize ≤ 256
  dispatchKey : request.identity.dispatchKey.utf8ByteSize ≤ 256
  evidenced : Evidenced store candidate.selectionEvidence
  substantiated : Substantiated candidate

section

variable {first second : List (Store × AssignmentCall)}
  (permitted : AllPermitted evaluator around (first ++ second))

include permitted

theorem AllPermitted.left :
    AllPermitted evaluator around first :=
  fun store command provenance member =>
    permitted store command provenance (List.mem_append.mpr (.inl member))

theorem AllPermitted.right :
    AllPermitted evaluator around second :=
  fun store command provenance member =>
    permitted store command provenance (List.mem_append.mpr (.inr member))

end

theorem assign_iff (plans : request.input.Plans candidate decision) (sound : request.Sound)
    (prepares : Prepares evaluator shared request candidate task)
    (open_ : terminalPhase task.phase = false) (causes : Causes parents)
    {result : AssignmentCoordinationResult} (decided : result.decision = decision)
    (permitted : AllPermitted evaluator around ((request.assign result task.revision parents).trace
      (serveAssignment evaluator system around) shared.current)) :
    (wasApplied ((request.assign result task.revision parents).run
        (serveAssignment evaluator system around) shared.current).2.1.authorizationReceipt ∧
      wasApplied ((request.assign result task.revision parents).run
        (serveAssignment evaluator system around) shared.current).2.1.dispatchReceipt) ↔
      Caused shared.current parents ∧ Assignable shared.current request candidate := by
  obtain ⟨actor, execution, qualification⟩ := plans.selects
  subst decided
  simp only [AssignmentCoordinationRequest.assign, actor, execution, qualification,
    authorizationCommand_planned plans] at permitted ⊢
  rw [trace_bind] at permitted
  rw [run_bind]
  obtain ⟨granted, identified, outcome⟩ := prepares.send sound rfl causes.some_ rfl permitted.left
  have accepted : Accepts shared.current _ granted ↔ _ := authorize_accepted_iff plans
    prepares.keeps prepares.bound prepares.registered sound prepares.revised open_ causes
    identified rfl
  obtain ⟨accepts, applied, same, event, run⟩ | ⟨refuses, after, receipt, error, refused, run⟩ :=
    outcome
  · obtain ⟨short, caused, evidenced, substantiated⟩ := accepted.mp accepts
    have type : applied.command.commandType = .taskAuthorizeQualifiedAssignment := same ▸ rfl
    have payload : applied.command.payload =
        .qualifiedAssignment (request.authorizes candidate task.revision) := same ▸ rfl
    have target : applied.target = request.task := congrArg KernelCommand.target same
    obtain ⟨later, current, prepared⟩ := prepares.step applied (by rw [type, payload]; rfl) target
      (assignment_evolved prepares.keeps open_ rfl (by simp) _ same.symm) rfl rfl
    obtain ⟨authorization, authorized, assigned⟩ := after_assigned applied type target payload
    have parent := after_caused applied
    rw [event] at authorized parent
    rw [← current] at assigned parent run
    rw [run] at permitted ⊢
    have permitted := permitted.right
    rw [trace_bind] at permitted
    simp only [run_bind]
    have dispatch : request.assignmentCommand request.identity.dispatchCommandID
        request.identity.dispatchKey .taskDispatch (task.revision + 1) [⟨granted.eventID, .causal⟩]
        (.taskDispatch candidate.actorFQN.text) [] =
        request.dispatchCommand (task.revision + 1) [⟨granted.eventID, .causal⟩]
          candidate.actorFQN := rfl
    obtain ⟨again, recognized, outcome⟩ :=
      prepared.send sound rfl (List.cons_ne_nil _ _) dispatch permitted.left
    have accepted : Accepts later.current _ again ↔ _ := dispatch_accepted_iff plans
      prepared.keeps prepared.bound prepared.registered authorized assigned rfl sound
      prepared.revised open_ identified parent dispatch
    obtain ⟨accepts, sent, _, _, run⟩ | ⟨refuses, after, receipt, error, refused, run⟩ := outcome
    · rw [run]
      refine iff_of_true ⟨?_, ?_⟩ ⟨caused, short, accepted.mp accepts, evidenced, substantiated⟩
      · rfl
      · rfl
    · rw [run]
      refine iff_of_false ?_ fun conditions => refuses (accepted.mpr conditions.2.dispatchKey)
      rintro ⟨_, dispatched⟩
      simp [wasApplied, refused] at dispatched
  · rw [run]
    constructor
    · rintro ⟨authorized, _⟩
      simp [wasApplied, refused] at authorized
    · rintro ⟨caused, assignable⟩
      exact absurd (accepted.mpr ⟨assignable.authorizationKey, caused, assignable.evidenced,
        assignable.substantiated⟩) refuses

theorem assign_keeps (evaluator : Evaluator) (system : AggregateRef)
    (around : KernelCommand → Surroundings) (request : AssignmentCoordinationRequest)
    (result : AssignmentCoordinationResult) (revision : Nat) (parents : List DagParent)
    (store : Store) :
    ((request.assign result revision parents).run (serveAssignment evaluator system around)
        store).2.1.decision = result.decision ∧
      ((request.assign result revision parents).run (serveAssignment evaluator system around)
        store).2.1.readinessReceipt = result.readinessReceipt := by
  unfold AssignmentCoordinationRequest.assign
  dsimp only
  split
  · simp only [run_bind]
    split
    · exact ⟨rfl, rfl⟩
    · simp only [run_bind]
      split
      · exact ⟨rfl, rfl⟩
      · exact ⟨rfl, rfl⟩
  · exact ⟨rfl, rfl⟩

/-- What the kernel asks for and neither the planner nor the coordinator checks. -/
structure Feasible (store : Store) (request : AssignmentCoordinationRequest)
    (candidate : AssignmentCandidate) : Prop where
  readinessKey : request.input.task.phase = .planned →
    request.identity.readinessKey.utf8ByteSize ≤ 256
  parents : Caused store (if request.input.task.phase = .planned then
    request.input.readinessParents else [⟨request.input.readiedEventID, .causal⟩])
  assignable : Assignable store request candidate

theorem Caused.perm {first second : List DagParent} (same : first.Perm second) :
    Caused store first ↔ Caused store second :=
  forall_congr' fun _ => imp_congr_left same.mem_iff

theorem Assignable.of_evidence {before after : Store} (same : after.evidence = before.evidence)
    (assignable : Assignable before request candidate) : Assignable after request candidate :=
  { assignable with evidenced := by rw [Evidenced, same]; exact assignable.evidenced }

section CarryOut

variable (text : List UUIDv7 → Nat → String) (plans : request.input.Plans candidate decision)
  (sound : request.Sound)
  (prepares : Prepares evaluator shared request candidate request.input.task)
  (permitted : AllPermitted evaluator around ((request.carryOut text decision).trace
    (serveAssignment evaluator system around) shared.current))

include plans sound prepares permitted in
theorem carryOut_ready_iff (ready : request.input.task.phase = .ready)
    (readied : request.input.readiedEventID.valid = true) :
    CarriedOut ((request.carryOut text decision).run (serveAssignment evaluator system around)
        shared.current).2.1 ↔ Feasible shared.current request candidate := by
  obtain ⟨needless, parents⟩ := plans.needsReadiness
  simp only [ready, beq_iff_eq, reduceCtorEq, if_false] at parents
  have needless : decision.needsReadiness = false := by rw [needless, ready]; rfl
  simp only [AssignmentCoordinationRequest.carryOut, needless, parents, plans.task,
    Bool.false_eq_true, if_false] at permitted ⊢
  have assigned := assign_iff plans sound prepares (by rw [ready]; rfl) (.single readied) rfl
    permitted
  have kept := (assign_keeps evaluator system around request ⟨decision, none, none, none⟩
    request.input.task.revision [⟨request.input.readiedEventID, .causal⟩] shared.current).1
  constructor
  · rintro ⟨_, authorized, dispatched⟩
    obtain ⟨caused, assignable⟩ := assigned.mp ⟨authorized, dispatched⟩
    exact ⟨by simp [ready], by simpa [ready] using caused, assignable⟩
  · rintro ⟨_, caused, assignable⟩
    obtain ⟨authorized, dispatched⟩ := assigned.mpr ⟨by simpa [ready] using caused, assignable⟩
    refine ⟨fun needed => ?_, authorized, dispatched⟩
    rw [kept, needless] at needed
    cases needed

include plans sound prepares permitted in
theorem carryOut_planned_iff (planned : request.input.task.phase = .planned)
    (id : request.identity.readinessCommandID.valid = true)
    (named : request.identity.readinessKey ≠ "") :
    CarriedOut ((request.carryOut text decision).run (serveAssignment evaluator system around)
        shared.current).2.1 ↔ Feasible shared.current request candidate := by
  obtain ⟨needed, parents⟩ := plans.needsReadiness
  simp only [planned, beq_self_eq_true, if_true] at needed parents
  have command : request.assignmentCommand request.identity.readinessCommandID
      request.identity.readinessKey .taskMarkReady request.input.task.revision
      (canonicalParents request.input.readinessParents)
      (.unread (text decision.dependencyEventIDs decision.readinessPolicyRevision)) [] =
      request.readinessCommand text decision := by
    rw [AssignmentCoordinationRequest.readinessCommand, plans.task, parents]
  simp only [AssignmentCoordinationRequest.carryOut, needed, if_true, trace_bind,
    run_bind] at permitted ⊢
  have causes := Causes.planned plans
  obtain ⟨granted, identified, outcome⟩ :=
    prepares.send sound rfl causes.some_ command permitted.left
  have accepted : Accepts shared.current _ granted ↔ _ := markReady_accepted_iff
    prepares.keeps sound prepares.revised causes planned id named command
  rw [Caused.perm (canonicalParents_perm _)] at accepted
  obtain ⟨accepts, applied, same, event, run⟩ | ⟨refuses, after, receipt, error, refused, run⟩ :=
    outcome
  · obtain ⟨short, caused⟩ := accepted.mp accepts
    have same := same.trans command.symm
    have typed : assignmentPayload applied.command.commandType applied.command.payload = true :=
      same ▸ rfl
    obtain ⟨later, current, prepared⟩ := prepares.step applied typed
      (congrArg KernelCommand.target same)
      (markReady_evolved prepares.keeps planned _ same.symm) rfl rfl
    have untouched := after_untouched applied typed
    have parent := after_caused applied
    rw [event] at parent
    rw [← current] at parent run untouched
    rw [run] at permitted ⊢
    have permitted := permitted.right
    simp only [plans.task] at permitted ⊢
    have assigned := assign_iff plans sound prepared rfl (.single identified) rfl permitted
    obtain ⟨_, receipt⟩ := assign_keeps evaluator system around request
      ⟨decision, some applied.decision.receipt, none, none⟩ (request.input.task.revision + 1)
      [⟨granted.eventID, .causal⟩] later.current
    constructor
    · rintro ⟨_, authorized, dispatched⟩
      exact ⟨fun _ => short, by simpa [planned] using caused,
        (assigned.mp ⟨authorized, dispatched⟩).2.of_evidence untouched.evidence.symm⟩
    · rintro ⟨_, _, assignable⟩
      obtain ⟨authorized, dispatched⟩ :=
        assigned.mpr ⟨parent, assignable.of_evidence untouched.evidence⟩
      refine ⟨fun _ => ?_, authorized, dispatched⟩
      rw [receipt]
      rfl
  · rw [run]
    refine iff_of_false (fun carried => ?_) fun feasible => refuses (accepted.mpr
      ⟨feasible.readinessKey planned, by simpa [planned] using feasible.parents⟩)
    have unsent := carried.authorization
    simp [wasApplied] at unsent

end CarryOut

theorem AssignmentCoordinationRequest.valid_sound {hashes : Hashes}
    (plans : request.input.Plans candidate decision)
    (valid : request.valid hashes decision = true) :
    request.Sound ∧ (decision.needsReadiness = true →
      request.identity.readinessCommandID.valid = true ∧ request.identity.readinessKey ≠ "") := by
  simp only [AssignmentCoordinationRequest.valid, plans.task, tests_iff] at valid
  refine ⟨by constructor <;> simp [valid], fun needed => ?_⟩
  simpa [needed] using valid.1.1.1.2

theorem coordinate_carriesOut (text : List UUIDv7 → Nat → String)
    (around : KernelCommand → Surroundings) (ready : (planAssignment request.input).status = .ready)
    (valid : request.valid evaluator.hashes (planAssignment request.input) = true)
    {admission : PolicyResult} (accepted : admission.accepted = true)
    (admits : continuityAdmission system store .dispatch request.powerEpoch = .ok admission) :
    (request.coordinate text evaluator.hashes).run (serveAssignment evaluator system around)
        store =
      (request.carryOut text (planAssignment request.input)).run
        (serveAssignment evaluator system around) store ∧
    (request.coordinate text evaluator.hashes).trace (serveAssignment evaluator system around)
        store =
      [(store, .admission .dispatch request.powerEpoch)] ++
        (request.carryOut text (planAssignment request.input)).trace
          (serveAssignment evaluator system around) store := by
  have served : (Program.request (AssignmentCall.admission .dispatch request.powerEpoch)).run
      (serveAssignment evaluator system around) store = (store, .ok admission) :=
    congrArg (Prod.mk store) admits
  unfold AssignmentCoordinationRequest.coordinate
  simp only [ready, bne_self_eq_false, Bool.false_eq_true, if_false, valid, Bool.not_true,
    run_bind, trace_bind, served, accepted, true_and]
  rfl

/-- The commands that `Coordinate` sends for a plan that is ready are all applied, one after the
other, exactly when the input passes the checks of the kernel that the planner leaves out. -/
theorem planned_assignment_applied_iff (text : List UUIDv7 → Nat → String)
    (reached : evaluator.Reachable shared) (noFault : shared.current.faultPoint = .none)
    (ready : (planAssignment request.input).status = .ready)
    (selected : request.input.selected = some candidate)
    (stored : shared.current.states.lookup request.task = some request.input.task)
    (profiled : shared.current.workProfiles.lookup request.task = some request.input.workProfile)
    (registered : shared.current.executions.lookup candidate.actorFQN = some candidate.execution)
    (valid : request.valid evaluator.hashes (planAssignment request.input) = true)
    (admitted : ∃ admission, continuityAdmission system shared.current .dispatch
      request.powerEpoch = .ok admission ∧ admission.accepted = true)
    (permitted : AllPermitted evaluator around ((request.coordinate text evaluator.hashes).trace
      (serveAssignment evaluator system around) shared.current)) :
    CarriedOut ((request.coordinate text evaluator.hashes).run
        (serveAssignment evaluator system around) shared.current).2.1 ↔
      Feasible shared.current request candidate := by
  obtain ⟨planned, plans⟩ := planAssignment_ready ready
  cases plans.selected.symm.trans selected
  obtain ⟨sound, readiness⟩ := request.valid_sound plans valid
  obtain ⟨admission, admits, accepted⟩ := admitted
  have task := plans.formed.task
  simp only [validAssignmentTask, tests_iff] at task
  have prepares : Prepares evaluator shared request candidate request.input.task := {
    reached
    noFault
    keeps := ⟨stored, reached.statesCurrent _ _ stored, rfl, task.1.1.1.1, rfl, rfl⟩
    revised := task.1.1.2
    bound := profiled
    registered }
  obtain ⟨run, trace⟩ := coordinate_carriesOut text around ready valid accepted admits
  rw [trace] at permitted
  rw [run]
  rcases plans.phase with phase | ⟨phase, readied⟩
  · obtain ⟨id, named⟩ := readiness (by rw [plans.needsReadiness.1, phase]; rfl)
    exact carryOut_planned_iff text plans sound prepares permitted.right phase id named
  · exact carryOut_ready_iff text plans sound prepares permitted.right phase readied

end Run

def Surroundings.context (around : Surroundings) (provenance : ProvenanceBasis) :
    DecisionContext where
  receivedAt := around.now
  decidedAt := around.later
  eventID := around.eventID.getD default
  intentID := around.intentID.getD default
  provenance

def permitsCall (evaluator : Evaluator) (around : KernelCommand → Surroundings) :
    Store × AssignmentCall → Bool
  | (store, .handle ⟨command, provenance, .lookup⟩) =>
    let context := (around command).context provenance
    !(around command).canceled && (around command).eventID.isSome &&
      (around command).intentID.isSome &&
      validateDecisionContext evaluator.hashes context &&
      (store.event? context.eventID).isNone &&
      (store.receipts.lookup command.commandID).isNone &&
      (store.idempotency.lookup (idempotencyScopeDigest evaluator.hashes command)).isNone &&
      (evaluator.catalogue.resolveCommand command).isOk &&
      command.expectedPolicyRevision == store.authorizationPolicy.revision &&
      store.authorizationPolicy.policyDigest == provenance.policyDigest &&
      store.authorizationPolicy.revision == provenance.policyRevision &&
      ((store.loadDecision command).authorize command context).allowed &&
      (evaluateAttemptPolicy evaluator.hashes command (store.loadDecision command)).isOk
  | _ => true

theorem allPermitted_of {calls : List (Store × AssignmentCall)}
    (checked : calls.all (permitsCall evaluator around) = true) :
    AllPermitted evaluator around calls := by
  intro store command provenance member
  have permitted := List.all_eq_true.mp checked _ member
  refine ⟨(around command).context provenance, ?_⟩
  simp only [permitsCall, tests_iff, Option.isNone_iff_eq_none] at permitted
  obtain ⟨⟨⟨⟨⟨⟨⟨⟨⟨⟨⟨⟨running, event⟩, intent⟩, valid⟩, newEvent⟩, newCommand⟩, newScope⟩,
    resolved⟩, revision⟩, digest⟩, basis⟩, allowed⟩, attempt⟩ := permitted
  obtain ⟨eventID, event⟩ := Option.isSome_iff_exists.mp event
  obtain ⟨intentID, intent⟩ := Option.isSome_iff_exists.mp intent
  have isOk : ∀ {ε α : Type} {result : Except ε α}, result.isOk = true → ∃ value,
      result = .ok value := by
    intro ε α result ok
    cases result with
    | error => cases ok
    | ok value => exact ⟨value, rfl⟩
  exact {
    provides := {
      running
      eventID := by simp [Surroundings.context, event]
      intentID := by simp [Surroundings.context, intent]
      receivedAt := rfl
      decidedAt := rfl
      provenance := rfl }
    contextValid := valid
    newEvent
    unseen := ⟨newCommand, newScope⟩
    schema := isOk resolved
    policyRevision := revision
    policyDigest := digest
    policyBasis := basis
    allowed
    attempt := isOk attempt }

end

namespace Sample

set_option maxRecDepth 4096

open Kernel.Sample

def teamScope : AuthorityScope :=
  { scope with
    commandTypes := .systemConfigureContinuity :: commandTypes
    targetKinds := .system :: scope.targetKinds }

def teamPolicy : AuthorizationPolicy :=
  { policy with grants := [{ grant 1 .policy with scope := teamScope }] }

def team : Shared Store :=
  evaluator.script ⟨.new teamPolicy .none, []⟩
    [entry registerEvidence, entry registerExecution, entry createTask, entry bindWorkProfile,
      entry (configure 5 0 5)]

theorem team_reachable : evaluator.Reachable team :=
  (Evaluator.Reaches.start teamPolicy .none).script fun _ _ _ _ => trivial

def qualification : ModelProfileQualification :=
  ⟨.number 23, .number 0, .number 0, .number 0, .boundedExecution, "r", [.implementation], .pass,
    1000000000, none, none, [.number 1]⟩

variable (constraints : Nat)

def candidate : AssignmentCandidate where
  actorFQN := actor
  execution := execution 1
  activeAssignments := 0
  modelProfileDigest := .number 0
  runtimeIdentityDigest := .number 0
  qualification
  hardConstraints := List.replicate constraints ⟨"c", .pass, [.number 1]⟩
  selectionEvidence := [evidence]
  selectionReasons := ["s"]
  expectedTotalCost := {}

def dependency : DependencyRequirement where
  aggregate := ⟨.task, .number 21⟩
  requiredPhase := .completed
  observedState := some { kind := .task, id := .number 21, revision := 9, lifecycleEpoch := 1,
                          scopeRevision := 1, phase := .completed, condition := .runnable }
  evidenceEventID := .number 4

def request : AssignmentCoordinationRequest where
  input := {
    task := { kind := .task, id := .number 20, revision := 2, lifecycleEpoch := 1,
              scopeRevision := 1, phase := .planned, condition := .runnable }
    dependencies := [dependency]
    readinessParents := [⟨.number 4, .causal⟩]
    readiedEventID := .text ""
    readinessPolicyRevision := 1
    workProfile := ⟨profile, .number 4, 2⟩
    selectionPolicyRevision := 1
    selectionPolicyDigest := .number 0
    decidedAt := 2000000000
    candidates := [candidate constraints] }
  powerEpoch := 5
  identity := ⟨.number 6, .number 7, .number 8, .number 0, "kkkkkk", "kkkkkkk", "kkkkkkkk"⟩
  policyAuthority := principal .policy
  policyRevision := 1
  catalogueRevision := Kernel.catalogueRevision
  provenance := basis

def surroundings (command : KernelCommand) : Surroundings where
  now := 1
  later := 1
  eventID := some command.commandID
  intentID := some command.commandID

def coordination : Assigning (AssignmentCoordinationResult × Option AssignmentError) :=
  (request constraints).coordinate (fun _ _ => "") evaluator.hashes

def coordinated : AssignmentCoordinationResult :=
  ((coordination constraints).run (serveAssignment evaluator system surroundings) team.current).2.1

/-- The commands of the run are permitted, on whichever store each of them is sent. -/
def Permitted : Prop :=
  AllPermitted evaluator surroundings
    ((coordination constraints).trace (serveAssignment evaluator system surroundings) team.current)

/-- Two constraints of one id pass the planner; the kernel refuses the authorization. -/
theorem repeated_constraint_refused :
    evaluator.Reachable team ∧ Permitted 2 ∧
      (planAssignment (request 2).input).status = .ready ∧
      (request 2).input.selected = some (candidate 2) ∧
      team.current.states.lookup (request 2).task = some (request 2).input.task ∧
      team.current.workProfiles.lookup (request 2).task = some (request 2).input.workProfile ∧
      team.current.executions.lookup (candidate 2).actorFQN = some (candidate 2).execution ∧
      (coordinated 2).readinessReceipt.map (·.outcomeCode) = some .applied ∧
      (coordinated 2).authorizationReceipt.map (·.outcomeCode) = some .rejectedConflict ∧
      (coordinated 2).dispatchReceipt = none :=
  ⟨team_reachable, allPermitted_of (by decide), by decide⟩

theorem request_feasible : Feasible team.current (request 1) (candidate 1) where
  readinessKey := by decide
  parents := by unfold Caused; decide
  assignable := {
    authorizationKey := by decide
    dispatchKey := by decide
    evidenced := by unfold Evidenced; decide
    substantiated := ⟨by decide, by decide, by decide⟩ }

theorem single_constraint_applied : CarriedOut (coordinated 1) :=
  (planned_assignment_applied_iff (fun _ _ => "") team_reachable (by decide) (by decide)
    (by decide) (by decide) (by decide) (by decide) (by decide)
    ⟨⟨true, "ACCEPTED"⟩, by decide, rfl⟩ (allPermitted_of (by decide))).mpr request_feasible

end Sample

end Tekroo.Application
