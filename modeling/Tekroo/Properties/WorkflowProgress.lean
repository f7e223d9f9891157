import Mathlib.Algebra.Order.BigOperators.Group.List
import Mathlib.Algebra.Order.Ring.Nat
import Tekroo.Properties.StageOrder

/-! # Progress of a workflow -/

namespace Tekroo.Kernel

open Checked WorkflowNode WorkflowTransition WorkflowInstance

variable {hash : WorkflowDefinition → Digest} {definition : WorkflowDefinition}
  {stage : WorkflowStageDefinition} {nodes : List WorkflowNode}
  {node other placeholder : WorkflowNode} {id : UUIDv7} {current next : WorkflowInstance}
  {transition : WorkflowTransition} {specs : List WorkflowNodeSpec}

/-- The transition leaves its node right by itself, and resumes only what it may have blocked. -/
structure WorkflowTransition.Fits (definition : WorkflowDefinition)
    (transition : WorkflowTransition) (node : WorkflowNode) : Prop where
  formed : (transition.write node).Formed definition
  resumes : transition.kind = .ready → ∃ state, node.blockedFrom = some state ∧
    (state = .ready ∨ state = .admitted ∨ state = .running)

section Fits

variable (permitted : transition.permits definition nodes node = true)
  (fits : transition.Fits definition node)

include permitted

theorem WorkflowTransition.permits_unsettled : node.state.settled = false := by
  have state := permits_state permitted
  split at state
  all_goals
    first
      | rw [state]; rfl
      | rcases state with state | state | state <;> rw [state] <;> rfl

include fits

theorem WorkflowTransition.Fits.written : (transition.write node).state ≠ .pending ∧
    ((transition.write node).state = .ready → transition.kind = .ready ∧
      predecessorsSatisfied definition nodes node = true) ∧
    ((transition.write node).state.settled = false ∨
      transition.kind = .complete ∨ transition.kind = .skip ∨ transition.kind = .fail) := by
  have state := permits_state permitted
  rw [write_state]
  cases kind : transition.kind with
  | ready =>
    obtain ⟨earlier, blocked, unsettled⟩ := fits.resumes kind
    simp only [permits, kind, tests_iff] at permitted
    simp only [blocked, Option.getD_some, permitted.2]
    rcases unsettled with rfl | rfl | rfl <;> simp [WorkflowNodeState.settled]
  | checkpoint =>
    simp only [kind] at state
    rcases state with state | state | state <;> simp [state, WorkflowNodeState.settled]
  | other | cancel => simp [kind] at state
  | _ => simp [WorkflowNodeState.settled]

end Fits

def WorkflowTransition.proceeds (transition : WorkflowTransition) (current : WorkflowInstance) :
    WorkflowInstanceState :=
  match transition.kind with
  | .block => .blocked
  | .ready => .active
  | _ => current.state

theorem WorkflowTransition.outcome_of_refreshes (again : transition.refreshes = true) :
    transition.outcome definition current =
      if ∀ node ∈ current.nodes.map (transition.change definition current.nodes),
        node.finished = true then .completed
      else current.state := by
  have settles : transition.settle definition (transition.written current) =
      refreshWorkflowReadiness definition (transition.written current) := by
    unfold WorkflowTransition.settle
    cases kind : transition.kind <;> simp_all [refreshes]
  have nodes := @settle_written_nodes definition current transition
  simp only [WorkflowTransition.outcome, settles, refreshWorkflowReadiness,
    List.countP_eq_length] at nodes ⊢
  rw [nodes]
  rfl

theorem WorkflowTransition.proceeds_cases (Holds : WorkflowInstanceState → Prop)
    (blocked : Holds .blocked) (active : Holds .active) (kept : Holds current.state) :
    Holds (transition.proceeds current) := by
  unfold proceeds
  split
  · exact blocked
  · exact active
  · exact kept

section Applied

variable (valid : current.Valid hash definition) (member : node ∈ current.nodes)
  (same : node.nodeID = transition.nodeID)
  (permitted : transition.permits definition current.nodes node = true)
  (fits : transition.Fits definition node)
  (goesOn : transition.kind = .fail → transition.failureClassification ≠ .terminalPolicy)

include permitted fits goesOn

theorem WorkflowTransition.Fits.quiet (quiet : transition.refreshes = false) :
    (transition.write node).state.settled = false := by
  obtain ⟨_, _, unsettled | kind | kind | kind⟩ := fits.written permitted
  · exact unsettled
  all_goals simp [refreshes, kind, goesOn] at quiet

include member same in
theorem WorkflowTransition.Fits.outcome :
    transition.outcome definition current =
      if ∀ node ∈ current.nodes.map (transition.change definition current.nodes),
        node.finished = true then .completed
      else transition.proceeds current := by
  by_cases quiet : transition.refreshes = false
  · rw [if_neg]
    · unfold WorkflowTransition.outcome WorkflowTransition.settle proceeds
      cases kind : transition.kind <;> simp_all [refreshes, WorkflowTransition.written]
    · intro all
      have finished := all _ (List.mem_map_of_mem member)
      have unsettled := fits.quiet permitted goesOn quiet
      rw [change_of_quiet quiet, writeAt, if_pos same, WorkflowNode.finished] at finished
      simp_all [WorkflowNodeState.settled]
  · rw [outcome_of_refreshes (by simpa using quiet)]
    unfold proceeds
    cases kind : transition.kind <;> simp_all [refreshes]

include valid member same

theorem WorkflowTransition.Fits.timely :
    Timely definition (current.nodes.map (transition.change definition current.nodes)) := by
  obtain ⟨waits, turned, _⟩ := fits.written permitted
  have unsettled := permits_unsettled permitted
  by_cases quiet : transition.refreshes = false
  · rw [change_of_quiet quiet]
    have alike : List.Forall₂ Alike current.nodes
        (current.nodes.map transition.writeAt) := by
      rw [List.forall₂_map_right_iff, List.forall₂_same]
      intro other within
      unfold writeAt
      split
      · next here =>
        obtain rfl := valid.wired.distinct.eq within member (here.trans same.symm)
        exact ⟨nodeID_of_skeleton write_skeleton,
          .inr ⟨unsettled, fits.quiet permitted goesOn quiet⟩⟩
      · exact .refl other
    intro after listed
    obtain ⟨other, within, rfl⟩ := List.mem_map.mp listed
    rw [predecessorsSatisfied_alike alike]
    unfold writeAt
    split
    · next here =>
      obtain rfl := valid.wired.distinct.eq within member (here.trans same.symm)
      refine ⟨fun ready => ?_, fun pending => absurd pending waits⟩
      simpa only [predecessorsSatisfied, predecessorsCompleted, stageID_of_skeleton write_skeleton,
        predecessors_of_skeleton write_skeleton] using (turned ready).2
    · exact valid.timely other within
  · have refreshed : Timely definition ((current.nodes.map transition.writeAt).map
        (readied definition (current.nodes.map transition.writeAt))) := by
      refine Timely.readied fun after listed ready => ?_
      obtain ⟨other, within, rfl⟩ := List.mem_map.mp listed
      unfold writeAt at ready ⊢
      split at ready
      · next here =>
        obtain rfl := valid.wired.distinct.eq within member (here.trans same.symm)
        simp [refreshes, (turned ready).1] at quiet
      · next there =>
        rw [if_neg there]
        exact valid.ready_kept member same unsettled within ready
    rw [List.map_map] at refreshed
    have change : transition.change definition current.nodes =
        readied definition (current.nodes.map transition.writeAt) ∘
          transition.writeAt := by
      funext other
      simp [change, quiet]
    rwa [change]

theorem WorkflowInstance.Valid.fitted (follows : transition.Follows current)
    (running : current.state.terminal = false) :
    (transition.result definition current).Valid hash definition := by
  have outcome := fits.outcome member same permitted goesOn
  have known : current.state.valid = true := by
    have headed := valid.headed
    simp only [WorkflowInstance.headed, tests_iff] at headed
    tauto
  have open_ : (transition.proceeds current).terminal = false :=
    proceeds_cases (·.terminal = false) rfl rfl running
  have apart : ∀ state : WorkflowInstanceState, state.terminal = true → state ≠ .completed →
      transition.outcome definition current ≠ state := by
    rintro _ ends different rfl
    rw [outcome] at ends different
    split at ends
    · simp_all
    · simp [open_] at ends
  refine ⟨headed_moved valid.headed follows (by simp) ?_, fun after listed => ?_,
    valid.wired.map fun _ => change_skeleton,
    fits.timely valid member same permitted goesOn, ?_⟩
  · rw [outcome]
    split
    · rfl
    · exact proceeds_cases (·.valid = true) rfl rfl known
  · obtain ⟨other, within, rfl⟩ := List.mem_map.mp listed
    have written : (transition.writeAt other).Formed definition := by
      unfold writeAt
      split
      · next here =>
        obtain rfl := valid.wired.distinct.eq within member (here.trans same.symm)
        exact fits.formed
      · exact valid.formed other within
    unfold change
    split
    · exact written.readied
    · exact written
  · refine ⟨⟨fun completed => ?_, fun all => outcome.trans (if_pos all)⟩,
      fun failed => absurd failed (apart .failed rfl (by simp)),
      fun cancelled => absurd cancelled (apart .cancelled rfl (by simp)), fun blocked => ?_⟩
    · by_contra unfinished
      have kept := outcome.trans (if_neg unfinished)
      rw [show transition.outcome definition current = .completed from completed] at kept
      rw [← kept] at open_
      cases open_
    · have kept : transition.proceeds current = .blocked := by
        have kept : transition.outcome definition current = .blocked := blocked
        rw [outcome] at kept
        split at kept
        · cases kept
        · exact kept
      have state := permits_state permitted
      by_cases blocks : transition.kind = .block
      · refine ⟨_, List.mem_map_of_mem member, (change_state (by simp) (by simp)).mpr ?_⟩
        rw [writeAt, if_pos same, write_state, blocks]
      · have before : current.state = .blocked ∧ transition.kind ≠ .ready := by
          unfold proceeds at kept
          split at kept <;> simp_all
        obtain ⟨held, within, holds⟩ := valid.stands.blocked before.1
        refine ⟨_, List.mem_map_of_mem within, (change_state (by simp) (by simp)).mpr ?_⟩
        unfold writeAt
        split
        · next here =>
          obtain rfl := valid.wired.distinct.eq within member (here.trans same.symm)
          rw [write_state]
          cases kind : transition.kind <;> simp_all
        · exact holds

end Applied

/-- The transition takes a node up, starts it or completes it, within the bounds of a node. -/
structure WorkflowTransition.Works (transition : WorkflowTransition) : Prop where
  kind : transition.kind = .admitNode ∨ transition.kind = .start ∨ transition.kind = .complete
  evidence : transition.kind = .complete → transition.evidenceIDs.length ≤ 1024

section Works

variable (permitted : transition.permits definition nodes node = true) (works : transition.Works)

include permitted works

theorem WorkflowTransition.Works.unsettled :
    node.state = .ready ∨ node.state = .admitted ∨ node.state = .running := by
  have state := permits_state permitted
  rcases works.kind with kind | kind | kind <;> simp_all

theorem WorkflowNode.Formed.write (formed : node.Formed definition) :
    (transition.write node).Formed definition := by
  have idle : node.blockedFrom = none := by
    have state := works.unsettled permitted
    simpa using mt formed.blocked.mpr (by rcases state with same | same | same <;> simp [same])
  have fields := formed.fields
  have shaped := formed.shaped
  simp only [tests_iff] at fields
  rcases works.kind with kind | kind | kind
  · simp only [WorkflowTransition.permits, kind, tests_iff] at permitted
    simp only [WorkflowTransition.write, kind]
    refine ⟨shaped_of shaped rfl rfl rfl rfl formed.classified, ?_, by simp [idle],
      by simp [idle], by simp [WorkflowNode.assigned], by simp [idle], by simp, by simp, by simp⟩
    simp only [tests_iff, Option.all_some]
    tauto
  · simp only [WorkflowTransition.permits, kind, tests_iff] at permitted
    have held := formed.held (.inl permitted.1)
    simp only [WorkflowTransition.write, kind]
    exact ⟨shaped_of shaped rfl rfl rfl rfl formed.classified, formed.fields,
      by simp [idle], by simp [idle], fun _ => held, by simp [idle], by simp, by simp, by simp⟩
  · simp only [WorkflowTransition.permits, kind, tests_iff] at permitted
    have held := formed.held (.inr (.inl permitted.1.1.1))
    have few := works.evidence kind
    simp only [WorkflowTransition.write, kind]
    refine ⟨?_, ?_, by simp [idle], by simp [idle], fun _ => held, by simp [idle], by simp,
      by simp, by simp⟩
    · simp only [WorkflowNode.shaped, tests_iff] at shaped ⊢
      tauto
    · simp only [tests_iff, Option.all_some]
      tauto

end Works

def WorkflowNodeState.remaining : WorkflowNodeState → Nat
  | .pending | .ready => 3
  | .admitted => 2
  | .running => 1
  | _ => 0

def WorkflowInstance.remaining (current : WorkflowInstance) : Nat :=
  (current.nodes.map fun node => node.state.remaining).sum

theorem WorkflowInstance.remaining_le : current.remaining ≤ 3 * current.nodes.length := by
  have bound : ∀ left ∈ current.nodes.map fun node => node.state.remaining, left ≤ 3 := by
    intro left listed
    obtain ⟨node, _, rfl⟩ := List.mem_map.mp listed
    cases node.state <;> simp [WorkflowNodeState.remaining]
  have sum := List.sum_le_card_nsmul _ 3 bound
  rwa [List.length_map, Nat.nsmul_eq_mul, Nat.mul_comm] at sum

/-- The transition carries a node on: it is admitted, started, completed or skipped. -/
def WorkflowTransitionKind.advances : WorkflowTransitionKind → Bool
  | .admitNode | .start | .complete | .skip => true
  | _ => false

theorem Moves.remaining_lt (moves : Moves definition current transition next)
    (distinct : Distinct current.nodes) (advances : transition.kind.advances = true) :
    next.remaining < current.remaining := by
  obtain ⟨_, cancels, _, _⟩ | ⟨node, _, member, same, permitted, nodes, _⟩ := moves
  · simp [cancels, WorkflowTransitionKind.advances] at advances
  have state := permits_state permitted
  have readied : ∀ other, (transition.change definition current.nodes other).state.remaining =
      (transition.writeAt other).state.remaining := by
    intro other
    unfold change readied
    split
    · split
      · have pending : (transition.writeAt other).state = .pending := by simp_all
        rw [pending]
        rfl
      · rfl
    · rfl
  have less : (transition.writeAt node).state.remaining < node.state.remaining := by
    rw [writeAt, if_pos same, write_state]
    cases kind : transition.kind <;> rw [kind] at advances state <;>
      simp_all [WorkflowTransitionKind.advances, WorkflowNodeState.remaining]
  rw [remaining, remaining, nodes, List.map_map]
  refine List.sum_lt_sum _ _ (fun other within => ?_) ⟨node, member, ?_⟩
  · rw [Function.comp_apply, readied]
    by_cases here : other.nodeID = transition.nodeID
    · obtain rfl := distinct.eq within member (here.trans same.symm)
      exact less.le
    · rw [writeAt, if_neg here]
  · rwa [Function.comp_apply, readied]

theorem Wired.length_le (wired : Wired definition current.nodes)
    {transitions : List WorkflowTransition}
    (advances : ∀ transition ∈ transitions, transition.kind.advances = true)
    (folded : transitions.foldlM (advanceWorkflow definition) current = .ok next) :
    transitions.length ≤ current.remaining := by
  induction transitions generalizing current with
  | nil => exact Nat.zero_le _
  | cons transition rest induction =>
    rw [List.foldlM_cons, bind_ok] at folded
    obtain ⟨middle, first, others⟩ := folded
    have moves := wired.advanced first
    have less := moves.remaining_lt wired.distinct (advances transition List.mem_cons_self)
    have later := induction (wired.moves moves)
      (fun transition listed => advances transition (List.mem_cons_of_mem _ listed)) others
    rw [List.length_cons]
    omega

/-- Nothing fails, is blocked or is cancelled. -/
def WorkflowStep.Unhindered : WorkflowStep → Prop
  | .transition transition =>
    transition.kind ≠ .fail ∧ transition.kind ≠ .block ∧ transition.kind ≠ .cancel
  | .expansion _ _ | .proposal _ => True

/-- No node of a required stage is made to wait for a node that is skipped. -/
def SkipsFreely (definition : WorkflowDefinition) (current : WorkflowInstance) :
    WorkflowStep → Prop
  | .transition transition => transition.kind = .skip → ∀ node ∈ current.nodes,
      transition.nodeID ∈ node.predecessorNodeIDs →
        workflowSkippableStage definition node.stageID = true
  | .expansion placeholderID specs => ∀ placeholder ∈ current.nodes,
      placeholder.nodeID = placeholderID →
        workflowSkippableStage definition placeholder.stageID = true ∨
          ∀ spec ∈ specs, ∀ node ∈ current.nodes, node.nodeID ∈ spec.predecessorNodeIDs →
            node.state ≠ .skipped
  | .proposal _ => True

/-- The steps of a run in which nothing fails, is blocked or is cancelled, and nodes are skipped
only where no required stage waits for them. -/
def Clears (definition : WorkflowDefinition) (current : WorkflowInstance)
    (step : WorkflowStep) : Prop :=
  step.Unhindered ∧ SkipsFreely definition current step

/-- No node is out of the way of the work, and none waits for a skipped one in vain. -/
structure Clear (definition : WorkflowDefinition) (nodes : List WorkflowNode) : Prop where
  states : ∀ node ∈ nodes, node.state ≠ .failed ∧ node.state ≠ .blocked ∧ node.state ≠ .cancelled
  gaps : ∀ node ∈ nodes, workflowSkippableStage definition node.stageID = false →
    ∀ other ∈ nodes, other.nodeID ∈ node.predecessorNodeIDs → other.state ≠ .skipped

theorem Clear.map {write change : WorkflowNode → WorkflowNode}
    (clear : Clear definition (nodes.map write))
    (skeleton : ∀ node, (change node).skeleton = (write node).skeleton)
    (state : ∀ node {state : WorkflowNodeState}, state ≠ .pending → state ≠ .ready →
      ((change node).state = state ↔ (write node).state = state)) :
    Clear definition (nodes.map change) where
  states := by simpa [state] using clear.states
  gaps := by
    simpa [state, fun node => nodeID_of_skeleton (skeleton node),
      fun node => stageID_of_skeleton (skeleton node),
      fun node => predecessors_of_skeleton (skeleton node)] using clear.gaps

theorem Clear.moves (clear : Clear definition current.nodes) (distinct : Distinct current.nodes)
    (allowed : Clears definition current (.transition transition))
    (moves : Moves definition current transition next) : Clear definition next.nodes := by
  obtain ⟨⟨fails, blocks, cancels⟩, skips⟩ := allowed
  obtain ⟨_, cancelled, _, _⟩ | ⟨node, _, member, same, permitted, nodes, _⟩ := moves
  · exact absurd cancelled cancels
  have state := permits_state permitted
  have clean := clear.states node member
  -- A written node is on its way, completed or skipped.
  have written : ∀ other ∈ current.nodes, (transition.writeAt other).state ≠ .failed ∧
      (transition.writeAt other).state ≠ .blocked ∧
      (transition.writeAt other).state ≠ .cancelled ∧
      ((transition.writeAt other).state = .skipped →
        other.state = .skipped ∨ transition.kind = .skip ∧ other.nodeID = transition.nodeID) := by
    intro other within
    by_cases here : other.nodeID = transition.nodeID
    · obtain rfl := distinct.eq within member (here.trans same.symm)
      rw [writeAt, if_pos here, write_state]
      cases kind : transition.kind <;> rw [kind] at state <;> simp_all
    · rw [writeAt, if_neg here]
      obtain ⟨failed, blocked, cancelled⟩ := clear.states other within
      exact ⟨failed, blocked, cancelled, .inl⟩
  have cleared : Clear definition (current.nodes.map transition.writeAt) := by
    refine ⟨fun after listed => ?_, fun after listed required behind also within skipped => ?_⟩
    · obtain ⟨other, within, rfl⟩ := List.mem_map.mp listed
      obtain ⟨failed, blocked, cancelled, _⟩ := written other within
      exact ⟨failed, blocked, cancelled⟩
    · obtain ⟨later, before, rfl⟩ := List.mem_map.mp listed
      obtain ⟨predecessor, known, rfl⟩ := List.mem_map.mp also
      rw [stageID_of_skeleton writeAt_skeleton] at required
      rw [nodeID_of_skeleton writeAt_skeleton, predecessors_of_skeleton writeAt_skeleton] at within
      rcases (written predecessor known).2.2.2 skipped with already | ⟨skip, here⟩
      · exact clear.gaps later before required predecessor known within already
      · have optional := skips skip later before (here ▸ within)
        simp [required] at optional
  exact nodes ▸ cleared.map (fun _ => change_skeleton.trans writeAt_skeleton.symm)
    fun _ => change_state

theorem Clear.expanded {eventID : UUIDv7} (clear : Clear definition current.nodes)
    (member : placeholder ∈ current.nodes)
    (distinct : Distinct (placeholder.expandIn specs current.nodes))
    (allowed : SkipsFreely definition current (.expansion placeholder.nodeID specs)) :
    Clear definition (current.expanded definition placeholder eventID specs).nodes := by
  have states : ∀ node ∈ placeholder.expandIn specs current.nodes,
      node.state ≠ .failed ∧ node.state ≠ .blocked ∧ node.state ≠ .cancelled := by
    intro node listed
    rcases (mem_expandNodes member).mp listed with ⟨earlier, before, _, rfl⟩ | ⟨spec, _, rfl⟩
    · rw [rewire_state]
      exact clear.states earlier before
    · exact ⟨nofun, nofun, nofun⟩
  have cleared : Clear definition ((placeholder.expandIn specs current.nodes).map id) := by
    rw [List.map_id]
    refine ⟨states, fun node kept required other present within skipped => ?_⟩
    -- What is skipped is a node from before that was skipped then.
    obtain ⟨predecessor, known, rfl⟩ : ∃ predecessor ∈ current.nodes,
        predecessor.rewire placeholder.nodeID (specs.map WorkflowNodeSpec.nodeID) = other := by
      rcases (mem_expandNodes member).mp present with ⟨earlier, before, _, same⟩ | ⟨_, _, rfl⟩
      · exact ⟨earlier, before, same⟩
      · cases skipped
    rw [rewire_state] at skipped
    rw [rewire_nodeID] at within
    rcases (mem_expandNodes member).mp kept with ⟨earlier, before, _, rfl⟩ | ⟨spec, added, rfl⟩
    · rw [rewire_stageID] at required
      rcases mem_rewire.mp within with ⟨edge, _⟩ | ⟨_, fresh⟩
      · exact clear.gaps earlier before required predecessor known edge skipped
      · obtain ⟨spec, added, same⟩ := List.mem_map.mp fresh
        have here := distinct.eq ((mem_expandNodes member).mpr (.inr ⟨spec, added, rfl⟩)) present
          (by rw [rewire_nodeID]; exact same)
        have state := congrArg WorkflowNode.state here
        rw [rewire_state, skipped] at state
        cases state
    · rcases allowed placeholder member rfl with optional | touched
      · have mandatory : workflowSkippableStage definition placeholder.stageID = false := required
        simp [mandatory] at optional
      · exact touched spec added predecessor known within skipped
  exact cleared.map (fun _ => readied_skeleton) fun _ => readied_state

theorem WorkflowRun.clear (run : WorkflowRun hash definition (Clears definition) current) :
    Clear definition current.nodes := by
  induction run with
  | start created =>
    obtain ⟨_, _, _, rfl, _⟩ := newWorkflowInstance_ok.mp created
    refine ⟨fun node listed => ?_, fun _ _ _ other known _ => ?_⟩
    · rcases WorkflowDefinition.firstInstance_state listed with same | same <;> simp [same]
    · rcases WorkflowDefinition.firstInstance_state known with same | same <;> simp [same]
  | advance run allowed advanced clear =>
    exact clear.moves run.wired.distinct allowed (run.wired.advanced advanced)
  | @expand before _ _ _ specs run allowed expanded clear =>
    obtain ⟨_, _, _, _, _, _, _, placeholder, member, rfl, _, rfl, ends⟩ :=
      expandWorkflowNode_ok.mp expanded
    refine clear.expanded member ?_ allowed.2
    exact (distinct_map fun node => readied_skeleton).mp ends.wired.distinct
  | propose run allowed evaluated clear =>
    obtain ⟨_, _, moved⟩ := evaluateWorkflowAdmission_ok evaluated
    split at moved
    · refine clear.moves run.wired.distinct ?_ moved
      simp [Clears, WorkflowStep.Unhindered, SkipsFreely, WorkProposal.transition]
    · exact moved.1 ▸ clear

/-- The definition has no stage that is there for failures. -/
def WorkflowDefinition.Plain (definition : WorkflowDefinition) : Prop :=
  ∀ stage ∈ definition.stages, stage.purpose ≠ .repair ∧ stage.purpose ≠ .replan

theorem WorkflowDefinition.Plain.repairs (plain : definition.Plain) {stageID : String}
    (found : workflowStageByID definition stageID = some stage) : stage.repairs = false := by
  have purpose := plain stage (List.mem_of_find?_eq_some found)
  simp [WorkflowStageDefinition.repairs, purpose.1, purpose.2]

def WorkflowNode.Workable (node : WorkflowNode) : Prop :=
  node.state = .ready ∨ node.state = .admitted ∨ node.state = .running

section Progress

variable (plain : definition.Plain) (valid : current.Valid hash definition)
  (clear : Clear definition current.nodes)

include plain valid clear

/-- An unfinished node can be worked on, or it waits for one that is unfinished. -/
theorem Clear.workable_of_unfinished (member : node ∈ current.nodes)
    (unfinished : node.finished = false) :
    ∃ other ∈ current.nodes, other.Workable := by
  obtain ⟨rank, ranks⟩ := valid.wired.ranked
  -- Along the predecessors the rank falls, so the descent ends.
  induction height : rank node.nodeID using Nat.strong_induction_on generalizing node with
  | _ _ induction =>
    subst height
    by_cases workable : node.Workable
    · exact ⟨node, member, workable⟩
    have pending : node.state = .pending := by
      have clean := clear.states node member
      have known : node.state.valid = true := by
        have shaped := (valid.formed node member).shaped
        simp only [WorkflowNode.shaped, tests_iff] at shaped
        tauto
      simp only [WorkflowNode.finished, WorkflowNode.Workable] at unfinished workable
      cases state : node.state <;> simp_all [WorkflowNodeState.valid]
    obtain ⟨stage, found⟩ := (valid.formed node member).staged
    have waits := (valid.timely node member).2 pending
    by_cases all : ∀ predecessor ∈ current.nodes,
        predecessor.nodeID ∈ node.predecessorNodeIDs → predecessor.finished = true
    · refine absurd ((valid.wired.satisfied member found).mpr ⟨?_, ?_⟩) (by simp [waits])
      · intro predecessor known listed
        have finished := all predecessor known listed
        simp only [WorkflowNode.finished, tests_iff] at finished
        rw [WorkflowStageDefinition.accepts_iff]
        refine finished.imp_right fun skipped => .inl ⟨?_, skipped⟩
        by_contra required
        refine clear.gaps node member ?_ predecessor known listed skipped
        simpa [workflowSkippableStage, found] using required
      · simp [plain.repairs found]
    · push Not at all
      obtain ⟨predecessor, known, listed, open_⟩ := all
      exact induction _ (ranks node member _ listed) known (by simpa using open_) rfl

theorem Clear.workable (open_ : current.state ≠ .completed) :
    ∃ node ∈ current.nodes, node.Workable := by
  have unfinished := mt valid.stands.completed.mpr open_
  push Not at unfinished
  obtain ⟨node, member, open_⟩ := unfinished
  exact clear.workable_of_unfinished plain valid member (by simpa using open_)

omit plain in
theorem Clear.running (open_ : current.state ≠ .completed) : current.state.terminal = false := by
  cases state : current.state with
  | pending | active | blocked | other => rfl
  | completed => exact absurd state open_
  | failed =>
    obtain ⟨node, member, failed⟩ := valid.stands.failed state
    exact absurd failed (clear.states node member).1
  | cancelled =>
    refine absurd (valid.stands.completed.mpr fun node member => ?_) open_
    have done := (valid.stands.cancelled state node member).resolve_right
      (clear.states node member).2.2
    simp [finished, done]

end Progress

def WorkflowInstance.work (current : WorkflowInstance) (actor : ActorFQN) (node : WorkflowNode) :
    WorkflowTransition where
  revision := current.revision + 1
  eventID := .number 0
  kind := match node.state with
    | .ready => .admitNode
    | .admitted => .start
    | _ => .complete
  nodeID := node.nodeID
  actorFQN := actor
  invocationID := node.invocationID.getD (.number 0)
  progressDigest := .number 0
  recordedAt := 1

variable {actor : ActorFQN}

theorem WorkflowInstance.work_works : (current.work actor node).Works := by
  refine ⟨?_, fun _ => Nat.zero_le _⟩
  unfold work
  split <;> simp

theorem WorkflowInstance.work_follows :
    (current.work actor node).Follows current := ⟨rfl, rfl, rfl⟩

theorem WorkflowNode.Formed.work (formed : node.Formed definition) (known : actor.valid = true)
    (workable : node.Workable) :
    (current.work actor node).permits definition nodes node = true := by
  have invoked : node.assigned = true →
      node.invocationID = some (current.work actor node).invocationID := by
    intro assigned
    simp only [WorkflowNode.assigned, tests_iff, Option.isSome_iff_exists] at assigned
    obtain ⟨⟨_, id, invocation⟩, _⟩ := assigned
    simp [WorkflowInstance.work, invocation]
  rcases workable with state | state | state
  · have free := formed.free (.inr (.inl state))
    simp only [WorkflowNode.unassigned, tests_iff, Option.isNone_iff_eq_none] at free
    simp [WorkflowTransition.permits, WorkflowInstance.work, state, known, free.1.2, UUIDv7.valid]
  · have held := invoked (formed.held (.inl state))
    simpa [WorkflowTransition.permits, WorkflowInstance.work, state] using held
  · have held := invoked (formed.held (.inr (.inl state)))
    simpa [WorkflowTransition.permits, WorkflowInstance.work, state, Digest.valid,
      workflowValidUUIDSet] using held

/-- The work of any valid actor, one node after the other, completes the workflow. -/
theorem Clear.completes (known : actor.valid = true) (plain : definition.Plain)
    (valid : current.Valid hash definition) (clear : Clear definition current.nodes) :
    ∃ transitions next, (∀ transition ∈ transitions, transition.kind = .admitNode ∨
        transition.kind = .start ∨ transition.kind = .complete) ∧
      foldWorkflowInstance hash definition current transitions = .ok next ∧
        next.state = .completed := by
  induction left : current.remaining using Nat.strong_induction_on generalizing current with
  | _ _ induction =>
    subst left
    by_cases done : current.state = .completed
    · exact ⟨[], current, by simp, foldWorkflowInstance_ok.mpr ⟨valid, rfl, valid⟩, done⟩
    have running := clear.running valid done
    obtain ⟨node, member, workable⟩ := clear.workable plain valid done
    have works : (current.work actor node).Works := work_works
    have permitted : (current.work actor node).permits definition current.nodes node = true :=
      (valid.formed node member).work known workable
    have advanced := valid.wired.distinct.advance work_follows running member rfl
      permitted
    have fits : (current.work actor node).Fits definition node := by
      refine ⟨(valid.formed node member).write permitted works, fun resumes => ?_⟩
      rcases works.kind with kind | kind | kind <;> cases resumes.symm.trans kind
    have ends := valid.fitted member rfl permitted fits
      (fun fails => by rcases works.kind with kind | kind | kind <;> cases fails.symm.trans kind)
      work_follows running
    have moves := valid.wired.advanced advanced
    have allowed : Clears definition current (.transition (current.work actor node)) := by
      rcases works.kind with kind | kind | kind <;>
        simp [Clears, WorkflowStep.Unhindered, SkipsFreely, kind]
    have advances : (current.work actor node).kind.advances = true := by
      rcases works.kind with kind | kind | kind <;> rw [kind] <;> rfl
    obtain ⟨rest, next, kinds, folded, completed⟩ := induction _
      (moves.remaining_lt valid.wired.distinct advances) ends
      (clear.moves valid.wired.distinct allowed moves) rfl
    refine ⟨current.work actor node :: rest, next, ?_, ?_, completed⟩
    · intro transition listed
      rcases List.mem_cons.mp listed with rfl | later
      · exact works.kind
      · exact kinds transition later
    · have first : foldWorkflowInstance hash definition current [current.work actor node] =
          .ok ((current.work actor node).result definition current) := by
        refine foldWorkflowInstance_ok.mpr ⟨valid, ?_, ends⟩
        rw [List.foldlM_cons, advanced]
        rfl
      exact foldWorkflowInstance_append first folded

/-- As long as nothing fails, is blocked or is cancelled, and nodes are skipped only where no
required stage waits for them: an instance that is not completed has a node to work on; admitting,
starting, completing and skipping come to an end, with nothing left to work on only when the
instance is completed; and there is work that completes it. -/
theorem no_skip_deadlock (hash : WorkflowDefinition → Digest) (definition : WorkflowDefinition)
    (current : WorkflowInstance) (plain : definition.Plain)
    (reached : WorkflowReached hash definition (Clears definition) current) :
    (current.state ≠ .completed → ∃ node ∈ current.nodes,
      node.state = .ready ∨ node.state = .admitted ∨ node.state = .running) ∧
    (∀ transitions next, (∀ transition ∈ transitions, transition.kind.advances = true) →
      FoldAllowed definition (Clears definition) current transitions →
      foldWorkflowInstance hash definition current transitions = .ok next →
        transitions.length ≤ 3 * current.nodes.length ∧
          ((∀ node ∈ next.nodes, ¬(node.state = .ready ∨ node.state = .admitted ∨
            node.state = .running)) → next.state = .completed)) ∧
    ∃ transitions next, (∀ transition ∈ transitions, transition.kind = .admitNode ∨
        transition.kind = .start ∨ transition.kind = .complete) ∧
      foldWorkflowInstance hash definition current transitions = .ok next ∧
        next.state = .completed := by
  have progress : ∀ {state : WorkflowInstance},
      WorkflowReached hash definition (Clears definition) state → state.state ≠ .completed →
        ∃ node ∈ state.nodes, node.Workable :=
    fun reached => reached.run.clear.workable plain reached.valid
  refine ⟨progress reached, fun transitions next advances meets folded => ⟨?_, fun idle => ?_⟩, ?_⟩
  · exact (reached.valid.wired.length_le advances (foldWorkflowInstance_ok.mp folded).2.1).trans
      remaining_le
  · by_contra open_
    obtain ⟨node, member, workable⟩ := progress (reached.fold meets folded) open_
    exact idle node member workable
  · have known : (⟨"demo::worker-1"⟩ : ActorFQN).valid = true := by decide
    exact reached.run.clear.completes known plain reached.valid

namespace Sample

def skippable : WorkflowDefinition :=
  workflow [workflowStage "extra" [] .implementation true, workflowStage "main" ["extra"]]

def skippableReady : WorkflowInstance :=
  workflowInstance 1 .active
    [workflowNode 10 "extra" .ready, workflowNode 11 "main" .pending [10]]

def skippableStuck : WorkflowInstance :=
  workflowInstance 2 .active
    [workflowNode 10 "extra" .skipped, workflowNode 11 "main" .pending [10]]

/-- The optional stage is skipped, and the required one behind it waits for ever. -/
theorem skipped_workflow_stuck :
    newWorkflowInstance workflowHash skippable (.number 1) ⟨.task, .number 2⟩ (.number 3)
        (nodeIDs [("extra", 10), ("main", 11)]) = .ok skippableReady ∧
      foldWorkflowInstance workflowHash skippable skippableReady [workflowTransition 2 .skip 10] =
        .ok skippableStuck ∧
      skippableStuck.state ≠ .completed ∧
      ¬∃ node ∈ skippableStuck.nodes,
        node.state = .ready ∨ node.state = .admitted ∨ node.state = .running := by
  decide

def optionalFirst : WorkflowDefinition :=
  workflow [workflowStage "first" [] .implementation true, workflowStage "second" []]

def optionalReady : WorkflowInstance :=
  workflowInstance 1 .active [workflowNode 10 "first" .ready, workflowNode 11 "second" .ready]

def optionalSkipped : WorkflowInstance :=
  workflowInstance 2 .active [workflowNode 10 "first" .skipped, workflowNode 11 "second" .ready]

theorem optionalSkipped_reached :
    WorkflowReached workflowHash optionalFirst (Clears optionalFirst) optionalSkipped := by
  have created : newWorkflowInstance workflowHash optionalFirst (.number 1) ⟨.task, .number 2⟩
      (.number 3) (nodeIDs [("first", 10), ("second", 11)]) = .ok optionalReady := by
    decide
  have skipped : foldWorkflowInstance workflowHash optionalFirst optionalReady
      [workflowTransition 2 .skip 10] = .ok optionalSkipped := by
    decide
  have clears : Clears optionalFirst optionalReady
      (.transition (workflowTransition 2 .skip 10)) := by
    unfold Clears WorkflowStep.Unhindered SkipsFreely
    decide
  exact WorkflowReached.fold (.create created) (show FoldAllowed _ _ _ [_] from
    ⟨clears, fun _ _ => trivial⟩) skipped

theorem skipped_workflow_workable :
    ∃ node ∈ optionalSkipped.nodes,
      node.state = .ready ∨ node.state = .admitted ∨ node.state = .running :=
  (no_skip_deadlock workflowHash optionalFirst optionalSkipped (show optionalFirst.Plain by
    intro stage listed
    have plain : ∀ stage ∈ optionalFirst.stages, stage.purpose = .implementation := by decide
    simp [plain stage listed]) optionalSkipped_reached).1 (by decide)

end Sample

end Tekroo.Kernel
