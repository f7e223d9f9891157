import Tekroo.Properties.WorkflowProgress

/-! # Folds in two parts

A fold validates the instance it ends with, and none before it.
-/

namespace Tekroo.Kernel

open Checked WorkflowNode WorkflowTransition WorkflowInstance

variable {hash : WorkflowDefinition → Digest} {definition : WorkflowDefinition}
  {nodes : List WorkflowNode} {node other : WorkflowNode} {current next : WorkflowInstance}
  {transition : WorkflowTransition} {transitions : List WorkflowTransition}

/-- Nothing that the validator refuses on a skipped node has been written to the node. -/
def WorkflowNode.Untouched (node : WorkflowNode) : Prop :=
  node.progressDigest = none ∧ node.checkpointID = none ∧ node.continuationNodeID = none ∧
    node.outputEvidenceIDs = [] ∧ node.failureClassification = .none

/-- The transition may leave the node as the validator refuses it until something else follows. -/
def WorkflowTransition.Spoils (transition : WorkflowTransition) (current : WorkflowInstance)
    (node : WorkflowNode) : Prop :=
  match transition.kind with
  | .fail => transition.failureClassification = .cancelled
  | .skip => ¬node.Untouched ∧
      ∃ other ∈ current.nodes, other.nodeID ≠ node.nodeID ∧ other.finished = false
  | .ready => node.blockedFrom ≠ some .ready ∧ node.blockedFrom ≠ some .admitted ∧
      node.blockedFrom ≠ some .running
  | _ => False

/-- No transition of the list that is accepted spoils the node that it finds. -/
def Steady (definition : WorkflowDefinition) : WorkflowInstance → List WorkflowTransition → Prop
  | _, [] => True
  | current, transition :: rest =>
    ∀ next, advanceWorkflow definition current transition = .ok next →
      (∀ node ∈ current.nodes, node.nodeID = transition.nodeID →
        ¬transition.Spoils current node) ∧ Steady definition next rest

/-- Folding both lists at once is folding one after the other. -/
def Composes (hash : WorkflowDefinition → Digest) (definition : WorkflowDefinition)
    (current : WorkflowInstance) (first second : List WorkflowTransition) : Prop :=
  ∀ next, foldWorkflowInstance hash definition current (first ++ second) = .ok next ↔
    ∃ middle, foldWorkflowInstance hash definition current first = .ok middle ∧
      foldWorkflowInstance hash definition middle second = .ok next

section Written

variable (permitted : transition.permits definition nodes node = true)
  (formed : node.Formed definition) (sound : ¬transition.Spoils current node)

include permitted formed

theorem WorkflowNode.Formed.skip (skips : transition.kind = .skip) (untouched : node.Untouched) :
    (transition.write node).Formed definition := by
  simp only [permits, skips, tests_iff] at permitted
  have free : node.blockedFrom = none := by
    simpa using mt formed.blocked.mpr (by simp [permitted])
  have ready : node.state = .ready := by tauto
  simp only [WorkflowTransition.write, skips]
  exact ⟨shaped_of formed.shaped rfl rfl rfl rfl formed.classified, formed.fields, by simp [free],
    by simp [free], by simp [free], fun _ => formed.free (.inr (.inl ready)),
    fun _ => ⟨by tauto, untouched⟩, by simp, by simp⟩

theorem WorkflowNode.Formed.block (blocks : transition.kind = .block) :
    (transition.write node).Formed definition := by
  have state := permits_state permitted
  simp only [blocks] at state
  simp only [WorkflowTransition.write, blocks]
  refine ⟨shaped_of formed.shaped rfl rfl rfl rfl formed.classified, formed.fields, by simp, ?_,
    fun held => formed.held ?_, fun free => formed.free ?_, by simp, by simp, by simp⟩
  · rintro _ ⟨⟩
    rcases state with state | state | state <;> simp [state, WorkflowNodeState.valid]
  · simp at held
    tauto
  · simp at free
    tauto

theorem WorkflowNode.Formed.checkpoint (saves : transition.kind = .checkpoint) :
    (transition.write node).Formed definition := by
  have state := permits_state permitted
  have fields := formed.fields
  simp only [permits, saves, tests_iff] at permitted state fields
  simp only [WorkflowTransition.write, saves]
  refine ⟨formed.shaped, ?_, formed.blocked, formed.earlier, formed.held, formed.free,
    fun skipped => ?_, formed.failed, formed.cancelled⟩
  · simp only [tests_iff, Option.all_some]
    tauto
  · have kept : node.state = .skipped := skipped
    simp [kept] at state

include sound

theorem WorkflowNode.Formed.resume (resumes : transition.kind = .ready) :
    (transition.write node).Formed definition := by
  have state := permits_state permitted
  simp only [WorkflowTransition.Spoils, resumes] at sound state
  have earlier : node.blockedFrom = some .ready ∨ node.blockedFrom = some .admitted ∨
      node.blockedFrom = some .running := by
    tauto
  simp only [WorkflowTransition.write, resumes]
  rcases earlier with earlier | earlier | earlier <;> simp only [earlier, Option.getD_some]
  · exact ⟨shaped_of formed.shaped rfl rfl rfl rfl formed.classified, formed.fields, by simp,
      by simp, by simp, fun _ => formed.free (by simp [earlier]), by simp, by simp, by simp⟩
  all_goals
    exact ⟨shaped_of formed.shaped rfl rfl rfl rfl formed.classified, formed.fields, by simp,
      by simp, fun _ => formed.held (by simp [earlier]), by simp, by simp, by simp, by simp⟩

/-- A transition that does not spoil its node fits it, but for a completion with too much evidence
and for the skip that ends the workflow. -/
theorem WorkflowTransition.fits_of (few : transition.kind = .complete →
      transition.evidenceIDs.length ≤ 1024)
    (untouched : transition.kind = .skip → node.Untouched) :
    transition.Fits definition node := by
  refine ⟨?_, fun resumes => ?_⟩
  · cases kind : transition.kind with
    | admitNode | start | complete =>
      exact formed.write permitted ⟨by simp [kind], few⟩
    | skip => exact formed.skip permitted kind (untouched kind)
    | fail =>
      have state := permits_state permitted
      simp only [permits, kind, tests_iff, WorkflowTransition.Spoils] at permitted sound state
      exact formed.fail state kind (by tauto) (by tauto) (by tauto) sound
    | block => exact formed.block permitted kind
    | ready => exact formed.resume permitted sound kind
    | checkpoint => exact formed.checkpoint permitted kind
    | cancel | other => simp [permits, kind] at permitted
  · have state := permits_state permitted
    simp only [WorkflowTransition.Spoils, resumes] at sound
    cases earlier : node.blockedFrom with
    | none => simp_all
    | some state => exact ⟨state, rfl, by simp_all; tauto⟩

end Written

theorem WorkflowTransition.change_finished :
    (transition.change definition nodes node).finished = (transition.writeAt node).finished := by
  rw [Bool.eq_iff_iff]
  simp only [WorkflowNode.finished, tests_iff]
  rw [change_state (by simp) (by simp), change_state (by simp) (by simp)]

/-- A completed node has more evidence than the validator allows, which nothing changes. -/
def WorkflowInstance.Overfull (current : WorkflowInstance) : Prop :=
  ∃ node ∈ current.nodes, node.state = .completed ∧ 1024 < node.outputEvidenceIDs.length

theorem WorkflowInstance.Valid.not_overfull (valid : current.Valid hash definition) :
    ¬current.Overfull := by
  rintro ⟨node, member, _, many⟩
  have shaped := (valid.formed node member).shaped
  simp only [WorkflowNode.shaped, tests_iff] at shaped
  omega

theorem WorkflowInstance.Overfull.moves (overfull : current.Overfull)
    (distinct : Distinct current.nodes) (moves : Moves definition current transition next) :
    next.Overfull := by
  obtain ⟨node, member, done, many⟩ := overfull
  refine ⟨node, ?_, done, many⟩
  cases moves with
  | cancels _ _ nodes =>
    exact nodes ▸ List.mem_map.mpr ⟨node, member, by simp [cancel, done]⟩
  | applies other _ within same permitted nodes =>
    have apart : node.nodeID ≠ transition.nodeID := by
      intro here
      obtain rfl := distinct.eq member within (here.trans same.symm)
      have unsettled := permits_unsettled permitted
      simp [done, WorkflowNodeState.settled] at unsettled
    have kept : transition.writeAt node = node := if_neg apart
    refine nodes ▸ List.mem_map.mpr ⟨node, member, ?_⟩
    simp [change, kept, readied_of_ne, done]

theorem WorkflowInstance.Overfull.folded (overfull : current.Overfull)
    (wired : Wired definition current.nodes)
    (folded : transitions.foldlM (advanceWorkflow definition) current = .ok next) :
    Wired definition next.nodes ∧ next.Overfull := by
  induction transitions generalizing current with
  | nil =>
    cases folded
    exact ⟨wired, overfull⟩
  | cons transition rest induction =>
    rw [List.foldlM_cons, bind_ok] at folded
    obtain ⟨middle, advanced, folded⟩ := folded
    have moves := wired.advanced advanced
    exact induction (overfull.moves wired.distinct moves) (wired.moves moves) folded

theorem advanceWorkflow_running
    (advanced : advanceWorkflow definition current transition = .ok next) :
    current.state.terminal = false := by
  obtain ⟨_, _, applied, _⟩ := advanceWorkflow_ok.mp advanced
  simp only [applyWorkflowTransition, chain_ok] at applied
  exact applied.1

theorem WorkflowInstance.Valid.advanced (valid : current.Valid hash definition)
    (sound : ∀ node ∈ current.nodes, node.nodeID = transition.nodeID →
      ¬transition.Spoils current node)
    (advanced : advanceWorkflow definition current transition = .ok next) :
    next.Valid hash definition ∨ next.Overfull ∨ next.state.terminal = true := by
  obtain ⟨follows, _⟩ := advanceWorkflow_ok.mp advanced
  obtain ⟨_, _, _, state⟩ | ⟨node, running, member, same, permitted, nodes, state⟩ :=
    valid.wired.advanced advanced
  · exact .inr (.inr (state ▸ rfl))
  have result := valid.wired.distinct.advance follows running member same permitted
  cases advanced.symm.trans result
  have formed := valid.formed node member
  have sound := sound node member same
  by_cases gone : transition.kind = .fail ∧ transition.failureClassification = .terminalPolicy
  · refine .inr (.inr ?_)
    rw [state]
    simp [outcome, settle, gone, WorkflowInstanceState.terminal]
  by_cases many : transition.kind = .complete ∧ 1024 < transition.evidenceIDs.length
  · refine .inr (.inl ⟨_, nodes ▸ List.mem_map_of_mem member, ?_, ?_⟩)
    · rw [change_state (by simp) (by simp), writeAt, if_pos same, write_state, many.1]
    · simp only [change, writeAt, same, if_true, write, many.1, readied]
      split
      · split <;> exact many.2
      · exact many.2
  by_cases ends : transition.kind = .skip ∧ ¬node.Untouched
  · refine .inr (.inr ?_)
    rw [state, outcome_of_refreshes (by simp [refreshes, ends]), if_pos]
    · rfl
    · intro after listed
      obtain ⟨other, within, rfl⟩ := List.mem_map.mp listed
      rw [change_finished]
      by_cases here : other.nodeID = node.nodeID
      · simp [writeAt, here, same, WorkflowNode.finished, write_state, ends]
      · rw [writeAt, if_neg (same ▸ here)]
        simp only [WorkflowTransition.Spoils, ends, not_false_eq_true, true_and,
          not_exists, not_and] at sound
        simpa using sound other within here
  · have fits := fits_of permitted formed sound (by simpa using many) (by simpa using ends)
    exact .inl (valid.fitted member same permitted fits (by simpa using gone) follows running)

theorem Steady.valid (steady : Steady definition current transitions)
    (valid : current.Valid hash definition)
    (folded : transitions.foldlM (advanceWorkflow definition) current = .ok next) :
    next.Valid hash definition ∨ (Wired definition next.nodes ∧ next.Overfull) ∨
      next.state.terminal = true := by
  induction transitions generalizing current with
  | nil =>
    cases folded
    exact .inl valid
  | cons transition rest induction =>
    rw [List.foldlM_cons, bind_ok] at folded
    obtain ⟨middle, advanced, folded⟩ := folded
    obtain ⟨sound, steady⟩ := steady middle advanced
    obtain between | overfull | ended := valid.advanced sound advanced
    · exact induction steady between folded
    · have wired := valid.wired.moves (valid.wired.advanced advanced)
      exact .inr (.inl (overfull.folded wired folded))
    · -- An instance that has ended is refused by the next transition.
      cases rest with
      | nil =>
        cases folded
        exact .inr (.inr ended)
      | cons =>
        rw [List.foldlM_cons, bind_ok] at folded
        obtain ⟨_, later, _⟩ := folded
        simp [advanceWorkflow_running later] at ended

/-- Where no accepted transition of the first list spoils its node, folding both lists at once is
folding one after the other. -/
theorem steady_folds_compose {first second : List WorkflowTransition}
    (steady : Steady definition current first) : Composes hash definition current first second := by
  refine fun next => ⟨fun folded => ?_, fun ⟨_, early, late⟩ =>
    foldWorkflowInstance_append early late⟩
  obtain ⟨valid, folded, ends⟩ := foldWorkflowInstance_ok.mp folded
  rw [List.foldlM_append, bind_ok] at folded
  obtain ⟨middle, early, late⟩ := folded
  have between : middle.Valid hash definition := by
    obtain between | ⟨wired, overfull⟩ | ended := steady.valid valid early
    · exact between
    · exact absurd (overfull.folded wired late).2 ends.not_overfull
    · cases second with
      | nil =>
        cases late
        exact ends
      | cons =>
        rw [List.foldlM_cons, bind_ok] at late
        obtain ⟨_, advanced, _⟩ := late
        simp [advanceWorkflow_running advanced] at ended
  exact ⟨middle, foldWorkflowInstance_ok.mpr ⟨valid, early, between⟩,
    foldWorkflowInstance_ok.mpr ⟨between, late, ends⟩⟩

namespace Sample

def cancelledFailure : WorkflowTransition :=
  { giveUp 4 10 with failureClassification := .cancelled }

/-- The node is blocked, gets a checkpoint, is resumed and skipped. -/
def skipTouched : List WorkflowTransition :=
  [workflowTransition 2 .block 10,
    { workflowTransition 3 .checkpoint 10 with checkpointID := .number 50 },
    workflowTransition 4 .ready 10, workflowTransition 5 .skip 10]

def pendingBlocked : WorkflowInstance :=
  workflowInstance 2 .blocked
    [{ workflowNode 10 "intake" .blocked with blockedFrom := some .pending }]

/-- Three ways to an instance that is refused, unless a cancellation follows in the same fold: a
failure that is classified as a cancellation, the skip of a node with a checkpoint, and a node that
was blocked while it was pending. -/
theorem spoilt_nodes_repaired :
    ((foldWorkflowInstance workflowHash intake intakeRunning
        [cancelledFailure, workflowTransition 5 .cancel]).isOk = true ∧
      foldWorkflowInstance workflowHash intake intakeRunning [cancelledFailure] =
        .error .invalidWorkflowInstance) ∧
    ((foldWorkflowInstance workflowHash optionalFirst optionalReady
        (skipTouched ++ [workflowTransition 6 .cancel])).isOk = true ∧
      foldWorkflowInstance workflowHash optionalFirst optionalReady skipTouched =
        .error .invalidWorkflowInstance) ∧
    (foldWorkflowInstance workflowHash intake pendingBlocked
        [workflowTransition 3 .ready 10, workflowTransition 4 .cancel]).isOk = true ∧
      foldWorkflowInstance workflowHash intake pendingBlocked [workflowTransition 3 .ready 10] =
        .error .invalidWorkflowInstance := by
  decide

theorem blocked_and_resumed :
    ∃ middle, foldWorkflowInstance workflowHash intake intakeReady
        [workflowTransition 2 .block 10, workflowTransition 3 .ready 10] = .ok middle ∧
      foldWorkflowInstance workflowHash intake middle [workflowWork 4 .admitNode 10] =
        .ok (workflowInstance 4 .active [workflowTask 10 "intake" .admitted]) := by
  refine (steady_folds_compose ?_ _).mp (by decide)
  intro blocked advanced
  obtain rfl : intakeBlocked = blocked := by
    have same : advanceWorkflow intake intakeReady (workflowTransition 2 .block 10) =
        .ok intakeBlocked := by decide
    exact Except.ok.inj (same.symm.trans advanced)
  refine ⟨fun _ _ _ => id, fun _ _ => ⟨fun node member _ spoils => ?_, trivial⟩⟩
  rw [List.mem_singleton.mp member] at spoils
  exact spoils.1 rfl

end Sample

end Tekroo.Kernel
