import Mathlib.Data.List.MinMax
import Mathlib.Order.Nat
import Tekroo.Properties.WorkflowRuns

/-! # Parallel work

How many nodes of a concurrency group are admitted or running at once.
-/

namespace Tekroo.Kernel

open Lib WorkflowInstance WorkflowNode WorkflowTransition

variable {hash : WorkflowDefinition → Digest} {transition : WorkflowTransition}
  {definition : WorkflowDefinition} {stage : WorkflowStageDefinition} {nodes : List WorkflowNode}
  {node other : WorkflowNode} {id : UUIDv7} {current next : WorkflowInstance} {group : String}
  {eventID : UUIDv7} {specs : List WorkflowNodeSpec}

/-- The largest number of places that a stage of the group declares. -/
def WorkflowDefinition.groupLimit (definition : WorkflowDefinition) (group : String) : Nat :=
  ((definition.stages.filter fun stage => stage.concurrencyGroup == group).map
    WorkflowStageDefinition.maximumParallelism).foldr max 0

theorem WorkflowDefinition.le_groupLimit (listed : stage ∈ definition.stages) :
    stage.maximumParallelism ≤ definition.groupLimit stage.concurrencyGroup := by
  have within : stage ∈ definition.stages.filter fun other =>
      other.concurrencyGroup == stage.concurrencyGroup := by
    simpa using listed
  exact List.le_max_of_le (List.mem_map_of_mem within) (le_refl stage.maximumParallelism)

def WorkflowInstance.activeCount (definition : WorkflowDefinition) (current : WorkflowInstance)
    (group : String) : Nat :=
  current.nodes.countP (activeIn definition group)

def WorkflowInstance.Fits (definition : WorkflowDefinition) (current : WorkflowInstance)
    (node : WorkflowNode) : Prop :=
  ∀ stage, workflowStageByID definition node.stageID = some stage →
    current.activeCount definition stage.concurrencyGroup < stage.maximumParallelism

/-- A ready node is admitted only from the frontier, and a node that was interrupted is resumed
only while it has a place. -/
def KeepsFrontier (hash : WorkflowDefinition → Digest) (definition : WorkflowDefinition)
    (current : WorkflowInstance) (step : WorkflowStep) : Prop :=
  ∀ node ∈ current.nodes,
    match step with
    | .proposal proposal => node.nodeID = proposal.nodeID → node.state = .ready →
        node ∈ current.admissibleReadyNodes hash definition
    | .transition transition => node.nodeID = transition.nodeID →
        (transition.kind = .admitNode → node.state = .ready →
          node ∈ current.admissibleReadyNodes hash definition) ∧
        (transition.kind = .ready →
          node.blockedFrom = some .admitted ∨ node.blockedFrom = some .running →
            current.Fits definition node)
    | .expansion _ _ => True

theorem KeepsFrontier.becomes {proposal : WorkProposal} {invocationID : UUIDv7} {recordedAt : Time}
    (allowed : KeepsFrontier hash definition current (.proposal proposal)) :
    KeepsFrontier hash definition current
      (.transition (proposal.transition current eventID invocationID recordedAt)) :=
  fun node member same => ⟨fun _ => allowed node member same, nofun⟩

theorem WorkflowInstance.selectReady_fits {selected : List WorkflowNode}
    (found : node ∈ selectReady definition current selected nodes) :
    node ∈ selected ∨ current.Fits definition node := by
  induction nodes generalizing selected with
  | nil => exact .inl found
  | cons head rest induction =>
    unfold selectReady at found
    split at found
    · exact induction found
    · next stage known =>
      dsimp only at found
      split at found
      · exact induction found
      · next free =>
        rcases induction found with listed | fits
        · rcases List.mem_append.mp listed with listed | added
          · exact .inl listed
          · obtain rfl := List.mem_singleton.mp added
            refine .inr fun other same => ?_
            cases known.symm.trans same
            simp only [tests_iff, not_or, not_le] at free
            exact lt_of_le_of_lt (Nat.le_add_right _ _) free.2
        · exact .inr fits

theorem WorkflowInstance.admissibleReadyNodes_fits
    (found : node ∈ current.admissibleReadyNodes hash definition) :
    current.Fits definition node := by
  unfold admissibleReadyNodes at found
  split at found
  · exact (selectReady_fits found).resolve_left (List.not_mem_nil)
  · cases found

theorem activeIn_iff : activeIn definition group node = true ↔
    (node.state = .admitted ∨ node.state = .running) ∧
      ∃ stage, workflowStageByID definition node.stageID = some stage ∧
        stage.concurrencyGroup = group := by
  simp [activeIn, Option.any_eq_true]

@[simp] theorem activeIn_readied :
    activeIn definition group (node.readied definition nodes) = activeIn definition group node := by
  have states : ∀ state, state ≠ .pending → state ≠ .ready →
      ((node.readied definition nodes).state = state ↔ node.state = state) :=
    fun _ => readied_state
  rw [Bool.eq_iff_iff, activeIn_iff, activeIn_iff, states .admitted nofun nofun,
    states .running nofun nofun, stageID_of_skeleton readied_skeleton]

@[simp] theorem activeIn_change :
    activeIn definition group (transition.change definition nodes node) =
      activeIn definition group (transition.writeAt node) := by
  unfold change
  split
  · exact activeIn_readied
  · rfl

theorem activeIn_write (permitted : transition.permits definition nodes node = true)
    (active : activeIn definition group (transition.write node) = true) :
    activeIn definition group node = true ∨ transition.kind = .admitNode ∨
      transition.kind = .ready ∧
        (node.blockedFrom = some .admitted ∨ node.blockedFrom = some .running) := by
  have state := permits_state permitted
  rw [activeIn_iff, stageID_of_skeleton write_skeleton, write_state] at active
  cases kind : transition.kind with
  | admitNode => exact .inr (.inl rfl)
  | start | checkpoint =>
    refine .inl (activeIn_iff.mpr ⟨?_, active.2⟩)
    simp_all
  | complete | skip | fail | block | cancel | other => simp_all
  | ready =>
    simp only [permits, kind, tests_iff] at permitted
    obtain ⟨earlier, found⟩ := Option.isSome_iff_exists.mp permitted.1.2
    simp only [kind, found, Option.getD_some] at active
    exact .inr (.inr ⟨rfl, by simpa [found] using active.1⟩)

theorem countP_expandNodes {placeholderID : UUIDv7} {stageID : String} :
    (expandNodes placeholderID stageID specs nodes).countP (activeIn definition group) ≤
      nodes.countP (activeIn definition group) := by
  have fresh : (specs.map (WorkflowNodeSpec.node stageID)).countP
      (activeIn definition group) = 0 := by
    simp [activeIn, WorkflowNodeSpec.node]
  unfold expandNodes
  induction nodes with
  | nil => rfl
  | cons node rest induction =>
    rw [List.flatMap_cons, List.countP_append, List.countP_cons]
    split
    · omega
    · have same : activeIn definition group (node.rewire placeholderID
          (specs.map WorkflowNodeSpec.nodeID)) = activeIn definition group node := by
        simp [activeIn]
      rw [List.countP_singleton, same]
      omega

theorem WorkflowInstance.activeCount_expanded {placeholder : WorkflowNode} :
    (current.expanded definition placeholder eventID specs).activeCount definition group ≤
      current.activeCount definition group := by
  simp only [activeCount, expanded, List.countP_map]
  refine le_trans (le_of_eq (List.countP_congr fun node _ => ?_)) countP_expandNodes
  rw [Function.comp_apply, activeIn_readied]

theorem Moves.activeCount_le (wired : Wired definition current.nodes)
    (allowed : KeepsFrontier hash definition current (.transition transition))
    (moves : Moves definition current transition next)
    (within : current.activeCount definition group ≤ definition.groupLimit group) :
    next.activeCount definition group ≤ definition.groupLimit group := by
  obtain ⟨_, _, nodes, _⟩ | ⟨node, _, member, same, permitted, nodes, _⟩ := moves
  · refine le_of_eq_of_le ?_ (Nat.zero_le _)
    rw [activeCount, nodes, List.countP_map, List.countP_eq_zero]
    intro other _
    unfold Function.comp cancel
    split <;> simp_all [activeIn]
  · have count : next.activeCount definition group =
        current.nodes.countP fun other => activeIn definition group (transition.writeAt other) := by
      rw [activeCount, nodes, List.countP_map]
      exact List.countP_congr fun other _ => by rw [Function.comp_apply, activeIn_change]
    have others : ∀ other ∈ current.nodes, other.nodeID ≠ transition.nodeID →
        activeIn definition group (transition.writeAt other) = true →
          activeIn definition group other = true := by
      intro other _ different active
      rwa [writeAt, if_neg different] at active
    rw [count]
    by_cases takes : activeIn definition group (transition.writeAt node) = true ∧
        activeIn definition group node = false
    · -- The node takes a place, and there was one.
      obtain ⟨active, idle⟩ := takes
      rw [writeAt, if_pos same] at active
      have fits : current.Fits definition node := by
        rcases activeIn_write permitted active with already | admits | ⟨resumes, earlier⟩
        · rw [idle] at already
          cases already
        · have ready := permits_state permitted
          simp only [admits] at ready
          exact admissibleReadyNodes_fits ((allowed node member same).1 admits ready)
        · exact (allowed node member same).2 resumes earlier
      rw [activeIn_iff, stageID_of_skeleton write_skeleton] at active
      obtain ⟨_, stage, found, rfl⟩ := active
      calc _ ≤ current.activeCount definition stage.concurrencyGroup + 1 :=
            countP_le_succ_of_key wired.distinct others
        _ ≤ stage.maximumParallelism := fits stage found
        _ ≤ definition.groupLimit stage.concurrencyGroup :=
            WorkflowDefinition.le_groupLimit (List.mem_of_find?_eq_some found)
    · refine le_trans (List.countP_mono_left fun other listed active => ?_) within
      by_cases here : other.nodeID = transition.nodeID
      · obtain rfl := wired.distinct.eq listed member (here.trans same.symm)
        by_contra idle
        exact takes ⟨active, by simpa using idle⟩
      · exact others other listed here active

/-- In every state of a run that admits only from the frontier, the admitted and running nodes of
a concurrency group are no more than the largest number that a stage of the group declares. -/
theorem parallelism_respected (hash : WorkflowDefinition → Digest)
    (definition : WorkflowDefinition) (current : WorkflowInstance)
    (run : WorkflowRun hash definition (KeepsFrontier hash definition) current) (group : String) :
    current.activeCount definition group ≤ definition.groupLimit group := by
  induction run with
  | start created =>
    obtain ⟨_, _, _, rfl, _⟩ := newWorkflowInstance_ok.mp created
    refine le_of_eq_of_le (List.countP_eq_zero.mpr fun node listed => ?_) (Nat.zero_le _)
    rcases WorkflowDefinition.firstInstance_state listed with state | state <;>
      simp [activeIn, state]
  | advance run allowed advanced within =>
    exact (run.wired.advanced advanced).activeCount_le run.wired allowed within
  | expand _ _ expanded within =>
    obtain ⟨_, _, _, _, _, _, _, _, _, _, _, rfl, _⟩ := expandWorkflowNode_ok.mp expanded
    exact activeCount_expanded.trans within
  | propose run allowed evaluated within =>
    obtain ⟨_, _, moved⟩ := evaluateWorkflowAdmission_ok evaluated
    split at moved
    · exact moved.activeCount_le run.wired allowed.becomes within
    · rwa [activeCount, moved.1]

namespace Sample

def workProposal (stageID : String) (node : Nat) : WorkProposal :=
  ⟨"1.0.0", .number (200 + node), .number (300 + node), .number 1, stageID, .number node,
    ⟨"demo::worker-1"⟩, ⟨.number 50, 1⟩, .number 3, [.number 51], [], 1⟩

def favourable : WorkflowAdmissionFacts := ⟨true, true, true, true⟩

def proposed (definition : WorkflowDefinition) (current : WorkflowInstance) (stageID : String)
    (node : Nat) : Except WorkflowError WorkflowInstance :=
  (evaluateWorkflowAdmission workflowHash definition current (workProposal stageID node) favourable
    (.number (1001 + current.revision)) (.number (100 + node)) 1).map (·.nextInstance)

def pairAdmitted : WorkflowInstance :=
  { workflowInstance 2 .active
      [workflowTask 10 "left" .admitted, workflowNode 11 "right" .ready] with
    proposedMessageIDs := [.number 310]
    acceptedMessageIDs := [.number 310] }

def pairCrowded : WorkflowInstance :=
  { workflowInstance 3 .active
      [workflowTask 10 "left" .admitted, workflowTask 11 "right" .admitted] with
    proposedMessageIDs := [.number 310, .number 311]
    acceptedMessageIDs := [.number 310, .number 311] }

/-- Two proposals are accepted for a group with one place. -/
theorem crowded_group :
    proposed pair pairReady "left" 10 = .ok pairAdmitted ∧
      proposed pair pairAdmitted "right" 11 = .ok pairCrowded ∧
      pair.groupLimit "work" = 1 ∧ pairCrowded.activeCount pair "work" = 2 := by
  decide

/-- The node was on the frontier when it was proposed. -/
theorem admitted_within_limit : pairAdmitted.activeCount pair "work" ≤ pair.groupLimit "work" := by
  obtain ⟨evaluation, evaluated, admitted⟩ :
      ∃ evaluation, evaluateWorkflowAdmission workflowHash pair pairReady (workProposal "left" 10)
        favourable (.number 1002) (.number 110) 1 = .ok evaluation ∧
          evaluation.nextInstance = pairAdmitted := by
    refine ⟨⟨⟨"1.0.0", .number 210, .number 1, .number 10, .admitted, .accepted, .number 1002,
      some (.number 110), 1⟩, pairAdmitted⟩, ?_, rfl⟩
    decide
  have frontier : KeepsFrontier workflowHash pair pairReady
      (.proposal (workProposal "left" 10)) := by
    change ∀ node ∈ pairReady.nodes, node.nodeID = .number 10 → node.state = .ready →
      node ∈ pairReady.admissibleReadyNodes workflowHash pair
    decide
  exact admitted ▸ parallelism_respected workflowHash pair evaluation.nextInstance
    (.propose (.start pairReady_created) frontier evaluated) "work"

end Sample

open Checked

variable {definition : WorkflowDefinition} {current next : WorkflowInstance}

inductive WorkflowInstance.Returns (hash : WorkflowDefinition → Digest)
    (definition : WorkflowDefinition) (current : WorkflowInstance) : WorkflowInstance → Prop where
  | fold {transitions : List WorkflowTransition} {next : WorkflowInstance} :
      foldWorkflowInstance hash definition current transitions = .ok next →
        Returns hash definition current next
  | expand {placeholderID eventID : UUIDv7} {specs : List WorkflowNodeSpec}
      {next : WorkflowInstance} :
      expandWorkflowNode hash definition current placeholderID eventID specs = .ok next →
        Returns hash definition current next
  | propose {proposal : WorkProposal} {facts : WorkflowAdmissionFacts}
      {eventID invocationID : UUIDv7} {recordedAt : Time}
      {evaluation : WorkflowAdmissionEvaluation} :
      evaluateWorkflowAdmission hash definition current proposal facts eventID invocationID
          recordedAt = .ok evaluation →
        Returns hash definition current evaluation.nextInstance

theorem applyWorkflowTransition_proposed
    (applied : applyWorkflowTransition definition current transition = .ok next) :
    next.proposedMessageIDs = current.proposedMessageIDs := by
  simp only [applyWorkflowTransition, chain_ok] at applied
  obtain ⟨_, applied⟩ := applied
  split at applied
  · cases applied
    rfl
  · simp only [chain_ok] at applied
    obtain ⟨_, _, _, rfl⟩ := applied
    rw [settle_eq]

section Evaluated

variable {proposal : WorkProposal} {facts : WorkflowAdmissionFacts} {eventID invocationID : UUIDv7}
  {recordedAt : Time} {evaluation : WorkflowAdmissionEvaluation}
  (evaluated : evaluateWorkflowAdmission hash definition current proposal facts eventID
    invocationID recordedAt = .ok evaluation)

include evaluated

theorem admitted_folded (admitted : evaluation.result.outcome = .admitted) :
    ∃ folded, foldWorkflowInstance hash definition current
        [proposal.transition current eventID invocationID recordedAt] = .ok folded ∧
      evaluation.nextInstance = { folded with
        proposedMessageIDs := evaluation.nextInstance.proposedMessageIDs
        acceptedMessageIDs := evaluation.nextInstance.acceptedMessageIDs } := by
  obtain ⟨valid, ends, follows, accepted, decided, outcome, stamped⟩ :=
    evaluateWorkflowAdmission_decided evaluated
  rw [← stamped] at ends ⊢
  rw [decideWorkflowAdmission, if_pos (accepted.mp admitted)] at outcome
  split at outcome
  · cases outcome
  · next moved applied =>
    cases outcome
    rw [Distinct.applied (by exact valid.wired.distinct)] at applied
    obtain ⟨running, ⟨cancels, _⟩ | ⟨node, member, same, permitted, rfl⟩⟩ := applied
    · cases cancels
    · refine ⟨_, (fold_single valid follows).mpr ⟨⟨_, valid.wired.distinct.applied.mpr
        ⟨running, .inr ⟨node, member, same, permitted, rfl⟩⟩, rfl⟩, ?_⟩, rfl⟩
      have known := valid.headed
      simp only [headed, tests_iff] at known
      exact ⟨headed_moved valid.headed follows (List.length_map _)
        known.1.1.1.1.1.1.1.2, ends.formed, ends.wired, ends.timely, ends.stands.completed,
        ends.stands.failed, ends.stands.cancelled, ends.stands.blocked⟩

theorem evaluated_noted :
    evaluation.nextInstance.proposedMessageIDs =
        appendUniqueUUID current.proposedMessageIDs proposal.messageID ∧
      (evaluation.result.outcome = .admitted →
        proposal.messageID ∉ current.proposedMessageIDs) := by
  obtain ⟨_, _, _, accepted, decided, outcome, stamped⟩ :=
    evaluateWorkflowAdmission_decided evaluated
  constructor
  · rw [← stamped]
    unfold decideWorkflowAdmission at outcome
    split at outcome
    · dsimp only at outcome
      split at outcome
      · cases outcome
      · next moved applied =>
        cases outcome
        exact applyWorkflowTransition_proposed applied
    · cases outcome
      rfl
  · intro admitted noted
    have reason := accepted.mp admitted
    have listed := List.contains_iff_mem.mpr noted
    simp only [workflowAdmissionReason, listed, Bool.true_or, if_true] at reason
    split at reason <;> cases reason

end Evaluated

theorem mem_appendUniqueUUID {values : List UUIDv7} {value wanted : UUIDv7} :
    wanted ∈ appendUniqueUUID values value ↔ wanted ∈ values ∨ wanted = value := by
  unfold appendUniqueUUID
  split
  · next listed =>
    refine ⟨.inl, fun either => either.elim id fun same => ?_⟩
    exact same ▸ List.contains_iff_mem.mp listed
  · simp

theorem WorkflowInstance.Returns.proposed (returns : current.Returns hash definition next)
    {messageID : UUIDv7} (noted : messageID ∈ current.proposedMessageIDs) :
    messageID ∈ next.proposedMessageIDs := by
  cases returns with
  | fold folded =>
    refine foldlM_holds (fun passed => messageID ∈ passed.proposedMessageIDs)
      (fun _ _ _ noted advanced => ?_) (foldWorkflowInstance_ok.mp folded).2.1 noted
    obtain ⟨_, moved, applied, rfl⟩ := advanceWorkflow_ok.mp advanced
    exact (applyWorkflowTransition_proposed applied).symm ▸ noted
  | expand expanded =>
    obtain ⟨_, _, _, _, _, _, _, _, _, _, _, rfl, _⟩ := expandWorkflowNode_ok.mp expanded
    exact noted
  | propose evaluated =>
    rw [(evaluated_noted evaluated).1, mem_appendUniqueUUID]
    exact .inl noted

/-- An admitted proposal is the fold of its transition with the message noted, a rejected one
leaves nodes and state alone, and a message that was proposed is never admitted afterwards. -/
theorem admission_refines_fold (hash : WorkflowDefinition → Digest)
    (definition : WorkflowDefinition) (current : WorkflowInstance) (proposal : WorkProposal)
    (facts : WorkflowAdmissionFacts) (eventID invocationID : UUIDv7) (recordedAt : Time)
    (evaluation : WorkflowAdmissionEvaluation)
    (evaluated : evaluateWorkflowAdmission hash definition current proposal facts eventID
      invocationID recordedAt = .ok evaluation) :
    (evaluation.result.outcome = .admitted →
      ∃ folded, foldWorkflowInstance hash definition current
          [proposal.transition current eventID invocationID recordedAt] = .ok folded ∧
        evaluation.nextInstance = { folded with
          proposedMessageIDs := evaluation.nextInstance.proposedMessageIDs
          acceptedMessageIDs := evaluation.nextInstance.acceptedMessageIDs }) ∧
    (evaluation.result.outcome = .rejected →
      evaluation.nextInstance.nodes = current.nodes ∧
        evaluation.nextInstance.state = current.state) ∧
    ∀ later, Relation.ReflTransGen (Returns hash definition)
        evaluation.nextInstance later →
      ∀ again facts eventID invocationID recordedAt answer,
        again.messageID = proposal.messageID →
        evaluateWorkflowAdmission hash definition later again facts eventID invocationID
          recordedAt = .ok answer → answer.result.outcome = .rejected := by
  refine ⟨admitted_folded evaluated, fun rejected => ?_, ?_⟩
  · have moved := (evaluateWorkflowAdmission_ok evaluated).2.2
    rwa [if_neg (by simp [rejected])] at moved
  · intro later run again facts eventID invocationID recordedAt answer same answered
    have noted : proposal.messageID ∈ later.proposedMessageIDs := by
      clear answered
      induction run with
      | refl =>
        rw [(evaluated_noted evaluated).1, mem_appendUniqueUUID]
        exact .inr rfl
      | tail _ returns noted => exact returns.proposed noted
    have new := (evaluated_noted answered).2
    cases outcome : answer.result.outcome with
    | rejected => rfl
    | admitted => exact absurd (same ▸ noted) (new outcome)

namespace Sample

def pairEvaluation : WorkflowAdmissionEvaluation :=
  ⟨⟨"1.0.0", .number 210, .number 1, .number 10, .admitted, .accepted, .number 1002,
    some (.number 110), 1⟩, pairAdmitted⟩

theorem pairAdmitted_folded :
    ∃ folded, foldWorkflowInstance workflowHash pair pairReady
        [(workProposal "left" 10).transition pairReady (.number 1002) (.number 110) 1] =
          .ok folded ∧
      pairAdmitted = { folded with
        proposedMessageIDs := [.number 310]
        acceptedMessageIDs := [.number 310] } :=
  (admission_refines_fold workflowHash pair pairReady (workProposal "left" 10) favourable
    (.number 1002) (.number 110) 1 pairEvaluation (by decide)).1 rfl

end Sample

end Tekroo.Kernel
