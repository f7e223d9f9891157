import Tekroo.Properties.WorkflowEnds

/-! # Ended workflows

What can still happen to a workflow that is completed, failed or cancelled.
-/

namespace Tekroo.Kernel

open Checked WorkflowNode

variable {hash : WorkflowDefinition → Digest} {definition : WorkflowDefinition}
  {nodes : List WorkflowNode} {node : WorkflowNode} {current next : WorkflowInstance}

def WorkflowInstance.Keeps (current next : WorkflowInstance) : Prop :=
  next.nodes = current.nodes ∧ next.state = current.state

/-- No function of the package returns the instance with other nodes or another state. -/
structure WorkflowInstance.Immutable (hash : WorkflowDefinition → Digest)
    (definition : WorkflowDefinition) (current : WorkflowInstance) : Prop where
  folds : ∀ transitions next,
    foldWorkflowInstance hash definition current transitions = .ok next → current.Keeps next
  expands : ∀ placeholderID eventID specs next,
    expandWorkflowNode hash definition current placeholderID eventID specs = .ok next →
      current.Keeps next
  admissions : ∀ proposal facts eventID invocationID recordedAt evaluation,
    evaluateWorkflowAdmission hash definition current proposal facts eventID invocationID
      recordedAt = .ok evaluation → current.Keeps evaluation.nextInstance

theorem fold_terminal (ended : current.state.terminal = true)
    {transitions : List WorkflowTransition}
    (folded : foldWorkflowInstance hash definition current transitions = .ok next) :
    current.Keeps next := by
  obtain ⟨valid, moved, _⟩ := foldWorkflowInstance_ok.mp folded
  cases transitions with
  | nil =>
    obtain rfl := (pure_ok _ _).mp moved
    exact ⟨rfl, rfl⟩
  | cons transition rest =>
    rw [List.foldlM_cons, bind_ok] at moved
    obtain ⟨middle, first, _⟩ := moved
    obtain ⟨_, _, applied, _⟩ := advanceWorkflow_ok.mp first
    have running := (valid.wired.distinct.applied.mp applied).1
    rw [ended] at running
    cases running

/-! ## A placeholder expanded into itself

A replacement that keeps the identity of the placeholder and waits for the same nodes is always
accepted. -/

section Reissue

variable {placeholder : WorkflowNode} {evidence : List UUIDv7} {eventID : UUIDv7}

def WorkflowNode.reissue (placeholder : WorkflowNode) (evidence : List UUIDv7) :
    WorkflowNodeSpec where
  nodeID := placeholder.nodeID
  predecessorNodeIDs := placeholder.predecessorNodeIDs
  inputEvidenceIDs := evidence

def WorkflowNode.reissued (placeholder : WorkflowNode) (evidence : List UUIDv7)
    (node : WorkflowNode) : WorkflowNode :=
  if node = placeholder then (placeholder.reissue evidence).node placeholder.stageID else node

theorem WorkflowNode.reissued_skeleton :
    (placeholder.reissued evidence node).skeleton = node.skeleton := by
  unfold reissued
  split
  · next same =>
    rw [same]
    rfl
  · rfl

theorem WorkflowNode.reissued_alike
    (untouched : placeholder.state = .pending ∨ placeholder.state = .ready) :
    List.Forall₂ Alike nodes (nodes.map (placeholder.reissued evidence)) := by
  rw [List.forall₂_map_right_iff, List.forall₂_same]
  intro node _
  unfold reissued
  split
  · next same =>
    refine ⟨same ▸ rfl, .inr ⟨?_, rfl⟩⟩
    rcases untouched with state | state <;> rw [same, state] <;> rfl
  · exact .refl node

theorem WorkflowNode.Formed.reissue (formed : placeholder.Formed definition)
    (set : workflowValidUUIDSet evidence = true) (few : evidence.length ≤ 1024) :
    ((placeholder.reissue evidence).node placeholder.stageID).Formed definition := by
  refine ⟨?_, rfl, by simp [WorkflowNodeSpec.node], nofun, by simp [WorkflowNodeSpec.node],
    fun _ => rfl, by simp [WorkflowNodeSpec.node], by simp [WorkflowNodeSpec.node],
    by simp [WorkflowNodeSpec.node]⟩
  have shaped := formed.shaped
  have empty : workflowValidUUIDSet [] = true := rfl
  simp only [WorkflowNode.shaped, tests_iff] at shaped
  simp [WorkflowNode.shaped, WorkflowNodeSpec.node, WorkflowNode.reissue, set, few, empty, shaped,
    WorkflowNodeState.valid, WorkflowFailureClassification.valid]

theorem expandNodes_reissue (distinct : Distinct nodes) (member : placeholder ∈ nodes) :
    expandNodes placeholder.nodeID placeholder.stageID [placeholder.reissue evidence] nodes =
      nodes.map (placeholder.reissued evidence) := by
  rw [expandNodes, @List.map_eq_flatMap _ _ (placeholder.reissued evidence)]
  refine List.flatMap_congr fun node within => ?_
  have single : (fun id => if id = placeholder.nodeID then [placeholder.nodeID] else [id]) =
      fun id => [id] := by
    funext id
    split <;> simp_all
  by_cases same : node = placeholder
  · simp [reissued, same]
  · have different : node.nodeID ≠ placeholder.nodeID := fun equal =>
      same (distinct.eq within member equal)
    simp [reissued, same, different, rewire, reissue, single]

variable (valid : current.Valid hash definition) (member : placeholder ∈ current.nodes)
  (untouched : placeholder.state = .pending ∨ placeholder.state = .ready)
  (event : eventID.valid = true)

include valid member untouched event

theorem WorkflowInstance.Valid.reissued (set : workflowValidUUIDSet evidence = true)
    (few : evidence.length ≤ 1024) :
    (current.expanded definition placeholder eventID [placeholder.reissue evidence]).Valid hash
      definition := by
  have state : current.state.valid = true := by
    have headed := valid.headed
    simp only [WorkflowInstance.headed, tests_iff] at headed
    tauto
  have unfinished : current.state ≠ .completed := by
    intro completed
    have finished := valid.stands.completed.mp completed placeholder member
    rcases untouched with state | state <;> simp [WorkflowNode.finished, state] at finished
  simp only [WorkflowInstance.expanded, expandNodes_reissue valid.wired.distinct member]
  have kept : ∀ node ∈ current.nodes, node.state ≠ .pending → node.state ≠ .ready →
      node ∈ (current.nodes.map (placeholder.reissued evidence)).map
        (readied definition (current.nodes.map (placeholder.reissued evidence))) := by
    intro node within waits ready
    have different : node ≠ placeholder := by
      rintro rfl
      exact untouched.elim waits ready
    have same : placeholder.reissued evidence node = node := if_neg different
    exact List.mem_map.mpr ⟨node, List.mem_map.mpr ⟨node, within, same⟩, readied_of_ne waits⟩
  refine ⟨headed_update valid.headed (by simp) state event (by simp), ?_,
    (valid.wired.map fun _ => reissued_skeleton).map fun _ => readied_skeleton, ?_,
    ⟨⟨fun completed => absurd completed unfinished, fun all => ?_⟩, ?_, ?_, ?_⟩⟩
  · intro changed listed
    obtain ⟨_, inside, rfl⟩ := List.mem_map.mp listed
    obtain ⟨node, within, rfl⟩ := List.mem_map.mp inside
    refine Formed.readied ?_
    unfold WorkflowNode.reissued
    split
    · exact (valid.formed placeholder member).reissue set few
    · exact valid.formed node within
  · refine Timely.readied fun changed inside ready => ?_
    obtain ⟨node, within, rfl⟩ := List.mem_map.mp inside
    rw [predecessorsSatisfied_alike (reissued_alike untouched)]
    unfold WorkflowNode.reissued at ready ⊢
    split at ready
    · cases ready
    · next different =>
      rw [if_neg different]
      exact (valid.timely node within).1 ready
  · have done := all _ (List.mem_map_of_mem (List.mem_map_of_mem member))
    simp [WorkflowNode.reissued, readied, WorkflowNode.finished, WorkflowNodeSpec.node] at done
    split at done <;> simp at done
  · intro failed
    obtain ⟨node, within, state⟩ := valid.stands.failed failed
    exact ⟨node, kept node within (by simp [state]) (by simp [state]), state⟩
  · intro cancelled
    have done := valid.stands.cancelled cancelled placeholder member
    rcases untouched with state | state <;> simp [state] at done
  · intro blocked
    obtain ⟨node, within, state⟩ := valid.stands.blocked blocked
    exact ⟨node, kept node within (by simp [state]) (by simp [state]), state⟩

theorem WorkflowInstance.Valid.reissue_changes :
    ∃ specs next, expandWorkflowNode hash definition current placeholder.nodeID eventID specs =
      .ok next ∧ next.nodes ≠ current.nodes := by
  have shaped := (valid.formed placeholder member).shaped
  simp only [WorkflowNode.shaped, tests_iff] at shaped
  have headed := valid.headed
  simp only [WorkflowInstance.headed, tests_iff] at headed
  obtain ⟨evidence, set, few, other⟩ : ∃ evidence, workflowValidUUIDSet evidence = true ∧
      evidence.length ≤ 1024 ∧ evidence ≠ placeholder.inputEvidenceIDs := by
    by_cases empty : placeholder.inputEvidenceIDs = []
    · exact ⟨[.number 0], rfl, by simp, by simp [empty]⟩
    · exact ⟨[], rfl, by simp, Ne.symm empty⟩
  have spec : ∀ spec ∈ [placeholder.reissue evidence], spec.valid = true := by
    simp [WorkflowNodeSpec.valid, reissue, shaped, set]
  refine ⟨_, _, expandWorkflowNode_ok.mpr ⟨valid, by tauto, event, List.cons_ne_nil _ [], ?_, spec,
    List.nodup_singleton _, placeholder, member, rfl, untouched, rfl,
    valid.reissued member untouched event set few⟩, fun same => other ?_⟩
  · rw [List.length_singleton]
    omega
  · simp only [WorkflowInstance.expanded, expandNodes_reissue valid.wired.distinct member,
      List.map_map] at same
    have fixed := List.map_inj_left.mp (same.trans (List.map_id _).symm) placeholder member
    simpa [readied, WorkflowNode.reissued, apply_ite WorkflowNode.inputEvidenceIDs,
      WorkflowNodeSpec.node, reissue] using congrArg WorkflowNode.inputEvidenceIDs fixed

end Reissue

/-- An ended workflow stays as it is exactly when no node of it is pending or ready: a failed
workflow may hold such a node, and expansion does not ask whether the workflow has ended. -/
theorem ended_workflow_immutable_iff (hash : WorkflowDefinition → Digest)
    (definition : WorkflowDefinition) (current : WorkflowInstance)
    (valid : current.validate hash definition = true) (ended : current.state.terminal = true) :
    current.Immutable hash definition ↔
      ∀ node ∈ current.nodes, node.state ≠ .pending ∧ node.state ≠ .ready := by
  rw [WorkflowInstance.validate_iff] at valid
  constructor
  · intro immutable node member
    by_contra touched
    have untouched : node.state = .pending ∨ node.state = .ready := by tauto
    have event : UUIDv7.valid (.number 0) = true := rfl
    obtain ⟨_, next, expanded, changed⟩ := valid.reissue_changes member untouched event
    exact changed (immutable.expands _ _ _ _ expanded).1
  · intro touched
    refine ⟨fun _ _ => fold_terminal ended, ?_, ?_⟩
    · intro placeholderID eventID specs next expanded
      obtain ⟨_, _, _, _, _, _, _, placeholder, member, _, untouched, _⟩ :=
        expandWorkflowNode_ok.mp expanded
      obtain ⟨first, second⟩ := touched placeholder member
      exact absurd untouched (not_or.mpr ⟨first, second⟩)
    · intro proposal facts eventID invocationID recordedAt evaluation evaluated
      obtain ⟨_, _, moved⟩ := evaluateWorkflowAdmission_ok evaluated
      split at moved
      · exact absurd moved.running (by simp [ended])
      · exact moved

namespace Sample

def pairFailed : WorkflowInstance :=
  workflowInstance 4 .failed
    [{ workflowTask 10 "left" .failed with
        progressDigest := some (.number 7)
        failureClassification := .terminalPolicy },
      workflowNode 11 "right" .ready]

/-- A failed workflow is expanded. -/
theorem failed_workflow_expanded :
    pairFailed.validate workflowHash pair = true ∧ pairFailed.state.terminal = true ∧
      ((expandWorkflowNode workflowHash pair pairFailed (.number 11) (.number 9)
        [⟨.number 12, [], []⟩, ⟨.number 13, [.number 12], []⟩]).toOption.any fun next =>
          next.nodes.length == 3) = true := by
  decide

def pairCancelled : WorkflowInstance :=
  workflowInstance 5 .cancelled
    [workflowTask 10 "left" .completed,
      { workflowNode 11 "right" .cancelled with failureClassification := .cancelled }]

theorem cancelled_workflow_immutable : pairCancelled.Immutable workflowHash pair :=
  (ended_workflow_immutable_iff workflowHash pair pairCancelled (by decide) rfl).mpr (by decide)

end Sample

end Tekroo.Kernel
