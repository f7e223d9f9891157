import Tekroo.Properties.WorkflowEnds

/-! # Runs of a workflow

A fold applies its transitions one at a time; what it returns is the last of the states passed.
-/

namespace Tekroo.Kernel

open Checked WorkflowNode WorkflowTransition WorkflowInstance

variable {hash : WorkflowDefinition → Digest} {definition : WorkflowDefinition}
  {stage : WorkflowStageDefinition} {nodes : List WorkflowNode} {node other : WorkflowNode}
  {id : UUIDv7} {current next : WorkflowInstance} {transition : WorkflowTransition}

inductive WorkflowStep where
  | transition (transition : WorkflowTransition)
  | expansion (placeholderID : UUIDv7) (specs : List WorkflowNodeSpec)
  | proposal (proposal : WorkProposal)

section Runs

variable (hash definition) (allowed : WorkflowInstance → WorkflowStep → Prop)

/-- The states of the runs whose steps are all allowed in the state they are made in. -/
inductive WorkflowRun : WorkflowInstance → Prop
  | start {instanceID root budgetAccountID nodeIDs created} :
      newWorkflowInstance hash definition instanceID root budgetAccountID nodeIDs = .ok created →
        WorkflowRun created
  | advance {before after step} : WorkflowRun before → allowed before (.transition step) →
      advanceWorkflow definition before step = .ok after → WorkflowRun after
  | expand {before after placeholderID eventID specs} : WorkflowRun before →
      allowed before (.expansion placeholderID specs) →
        expandWorkflowNode hash definition before placeholderID eventID specs = .ok after →
          WorkflowRun after
  | propose {before proposal facts eventID invocationID recordedAt evaluation} :
      WorkflowRun before → allowed before (.proposal proposal) →
        evaluateWorkflowAdmission hash definition before proposal facts eventID invocationID
          recordedAt = .ok evaluation → WorkflowRun evaluation.nextInstance

/-- The transitions of a fold are allowed, each in the state it is applied to. -/
def FoldAllowed : WorkflowInstance → List WorkflowTransition → Prop
  | _, [] => True
  | current, transition :: rest => allowed current (.transition transition) ∧
      ∀ next, advanceWorkflow definition current transition = .ok next → FoldAllowed next rest

/-- The instances that are returned in the runs whose steps are all allowed. -/
inductive WorkflowReached : WorkflowInstance → Prop
  | create {instanceID root budgetAccountID nodeIDs created} :
      newWorkflowInstance hash definition instanceID root budgetAccountID nodeIDs = .ok created →
        WorkflowReached created
  | fold {before after transitions} : WorkflowReached before →
      FoldAllowed definition allowed before transitions →
        foldWorkflowInstance hash definition before transitions = .ok after → WorkflowReached after
  | expand {before after placeholderID eventID specs} : WorkflowReached before →
      allowed before (.expansion placeholderID specs) →
        expandWorkflowNode hash definition before placeholderID eventID specs = .ok after →
          WorkflowReached after
  | propose {before proposal facts eventID invocationID recordedAt evaluation} :
      WorkflowReached before → allowed before (.proposal proposal) →
        evaluateWorkflowAdmission hash definition before proposal facts eventID invocationID
          recordedAt = .ok evaluation → WorkflowReached evaluation.nextInstance

end Runs

namespace WorkflowRun

variable {allowed : WorkflowInstance → WorkflowStep → Prop}

theorem fold {transitions : List WorkflowTransition}
    (run : WorkflowRun hash definition allowed current)
    (meets : FoldAllowed definition allowed current transitions)
    (folded : foldWorkflowInstance hash definition current transitions = .ok next) :
    WorkflowRun hash definition allowed next := by
  have moved := (foldWorkflowInstance_ok.mp folded).2.1
  clear folded
  induction transitions generalizing current with
  | nil => exact (pure_ok _ _).mp moved ▸ run
  | cons transition rest induction =>
    rw [List.foldlM_cons, bind_ok] at moved
    obtain ⟨middle, first, others⟩ := moved
    exact induction (run.advance meets.1 first) (meets.2 middle first) others

theorem wired (run : WorkflowRun hash definition allowed current) :
    Wired definition current.nodes := by
  induction run with
  | start created => exact (newWorkflowInstance_ok.mp created).2.2.2.2.wired
  | advance _ _ advanced wired =>
    exact wired.moves (wired.advanced advanced)
  | expand _ _ expanded _ =>
    obtain ⟨_, _, _, _, _, _, _, _, _, _, _, _, ends⟩ := expandWorkflowNode_ok.mp expanded
    exact ends.wired
  | propose _ _ evaluated _ => exact (evaluateWorkflowAdmission_ok evaluated).2.1.wired

end WorkflowRun

namespace WorkflowReached

variable {allowed : WorkflowInstance → WorkflowStep → Prop}

theorem run (reached : WorkflowReached hash definition allowed current) :
    WorkflowRun hash definition allowed current := by
  induction reached with
  | create created => exact .start created
  | fold _ meets folded run => exact run.fold meets folded
  | expand _ meets expanded run => exact run.expand meets expanded
  | propose _ meets evaluated run => exact run.propose meets evaluated

theorem valid (reached : WorkflowReached hash definition allowed current) :
    current.Valid hash definition := by
  cases reached with
  | create created => exact (newWorkflowInstance_ok.mp created).2.2.2.2
  | fold _ _ folded => exact (foldWorkflowInstance_ok.mp folded).2.2
  | expand _ _ expanded =>
    obtain ⟨_, _, _, _, _, _, _, _, _, _, _, _, ends⟩ := expandWorkflowNode_ok.mp expanded
    exact ends
  | propose _ _ evaluated => exact (evaluateWorkflowAdmission_ok evaluated).2.1

end WorkflowReached

structure WorkflowInstance.Flagged (current : WorkflowInstance) : Prop where
  earlier : ∀ node ∈ current.nodes, node.blockedFrom ≠ some .blocked
  flag : current.state.terminal = false →
    (current.state = .blocked ↔ ∃ node ∈ current.nodes, node.state = .blocked)

/-- A node is resumed only when no other one is blocked. -/
def ResumesLast (current : WorkflowInstance) : WorkflowStep → Prop
  | .transition transition => transition.kind = .ready →
      ∀ node ∈ current.nodes, node.state = .blocked → node.nodeID = transition.nodeID
  | .expansion _ _ | .proposal _ => True

theorem WorkflowTransition.write_blockedFrom
    (permitted : transition.permits definition nodes node = true)
    (earlier : node.blockedFrom ≠ some .blocked) :
    (transition.write node).blockedFrom ≠ some .blocked := by
  have state := permits_state permitted
  unfold write
  split
  · exact earlier
  · exact earlier
  · exact earlier
  · exact earlier
  · exact earlier
  · next kind =>
    simp only [kind] at state
    rcases state with same | same | same <;> simp [same]
  · nofun
  · exact earlier
  · exact earlier
  · exact earlier

theorem WorkflowTransition.writeAt_blocked (distinct : Distinct nodes) (member : node ∈ nodes)
    (same : node.nodeID = transition.nodeID)
    (permitted : transition.permits definition nodes node = true)
    (blocks : transition.kind ≠ .block) (resumes : transition.kind ≠ .ready)
    (within : other ∈ nodes) :
    (transition.writeAt other).state = .blocked ↔ other.state = .blocked := by
  unfold writeAt
  split
  · next here =>
    obtain rfl := distinct.eq within member (here.trans same.symm)
    have state := permits_state permitted
    rw [write_state]
    cases kind : transition.kind with
    | admitNode | start | complete | skip | fail => simp_all
    | checkpoint | cancel | other => rfl
    | block => exact absurd kind blocks
    | ready => exact absurd kind resumes
  · rfl

theorem WorkflowInstance.Flagged.moves (flagged : current.Flagged)
    (wired : Wired definition current.nodes)
    (allowed : ResumesLast current (.transition transition))
    (moves : Moves definition current transition next) : next.Flagged := by
  obtain ⟨_, _, nodes, state⟩ | ⟨node, running, member, same, permitted, nodes, state⟩ := moves
  · refine ⟨fun changed listed => ?_, fun open_ => ?_⟩
    · rw [nodes] at listed
      obtain ⟨other, within, rfl⟩ := List.mem_map.mp listed
      unfold WorkflowNode.cancel
      split <;> exact flagged.earlier other within
    · rw [state] at open_
      cases open_
  · have blocked : (∃ changed ∈ next.nodes, changed.state = .blocked) ↔
        ∃ other ∈ current.nodes, (transition.writeAt other).state = .blocked := by
      simp [nodes, change_state]
    refine ⟨fun changed listed => ?_, fun open_ => ?_⟩
    · rw [nodes] at listed
      obtain ⟨other, within, rfl⟩ := List.mem_map.mp listed
      rw [change_blockedFrom, writeAt]
      split
      · next here =>
        obtain rfl := wired.distinct.eq within member (here.trans same.symm)
        exact write_blockedFrom permitted (flagged.earlier other within)
      · exact flagged.earlier other within
    · rw [blocked]
      have written : (transition.writeAt node).state = (transition.write node).state := by
        rw [writeAt, if_pos same]
      by_cases blocks : transition.kind = .block
      · refine ⟨fun _ => ⟨node, member, ?_⟩, fun _ => ?_⟩
        · rw [written, write_state, blocks]
        · rw [state, outcome, settle, blocks]
      · by_cases resumes : transition.kind = .ready
        · have active : next.state = .active := by
            rw [state, outcome, settle, resumes]
          refine ⟨fun marked => by simp [active] at marked, ?_⟩
          rintro ⟨other, within, still⟩
          exfalso
          -- No other node was blocked, and this one is back in the state it was blocked in.
          by_cases here : other.nodeID = transition.nodeID
          · obtain rfl := wired.distinct.eq within member (here.trans same.symm)
            simp only [permits, resumes, tests_iff] at permitted
            obtain ⟨earlier, found⟩ := Option.isSome_iff_exists.mp permitted.1.2
            rw [written, write_state, resumes, found] at still
            obtain rfl : earlier = .blocked := still
            exact flagged.earlier other within found
          · rw [writeAt, if_neg here] at still
            exact here (allowed resumes other within still)
        · have kept : next.state = current.state := by
            rcases outcome_or blocks resumes with kept | ended
            · exact state.trans kept
            · rw [state, ended] at open_
              cases open_
          rw [kept, flagged.flag running]
          refine exists_congr fun other => and_congr_right fun within => ?_
          exact (writeAt_blocked wired.distinct member same permitted blocks resumes within).symm

theorem WorkflowInstance.Valid.flagged (valid : current.Valid hash definition)
    (flag : current.state.terminal = false →
      (current.state = .blocked ↔ ∃ node ∈ current.nodes, node.state = .blocked)) :
    current.Flagged :=
  ⟨fun node member found => ((valid.formed node member).earlier _ found).2 rfl, flag⟩

/-- In every state of a run that resumes a node only when no other one is blocked, the instance is
marked as blocked exactly when one of its nodes is. -/
theorem blocked_iff_node_blocked (hash : WorkflowDefinition → Digest)
    (definition : WorkflowDefinition) (current : WorkflowInstance)
    (run : WorkflowRun hash definition ResumesLast current)
    (open_ : current.state.terminal = false) :
    current.state = .blocked ↔ ∃ node ∈ current.nodes, node.state = .blocked := by
  suffices flagged : current.Flagged from flagged.flag open_
  clear open_
  induction run with
  | start created =>
    obtain ⟨_, _, _, rfl, valid⟩ := newWorkflowInstance_ok.mp created
    refine valid.flagged fun _ => ⟨nofun, ?_⟩
    rintro ⟨node, member, blocked⟩
    rcases WorkflowDefinition.firstInstance_state member with state | state <;>
      simp [blocked] at state
  | advance run allowed advanced flagged =>
    exact flagged.moves run.wired allowed (run.wired.advanced advanced)
  | expand run _ expanded flagged =>
    obtain ⟨_, _, _, _, _, _, _, placeholder, member, rfl, untouched, rfl, ends⟩ :=
      expandWorkflowNode_ok.mp expanded
    refine ends.flagged fun open_ => (flagged.flag open_).trans (Iff.symm ?_)
    exact expanded_state run.wired.distinct member untouched (by simp) (by simp)
  | propose run _ evaluated flagged =>
    obtain ⟨_, ends, moved⟩ := evaluateWorkflowAdmission_ok evaluated
    split at moved
    · exact flagged.moves run.wired (by simp [ResumesLast, WorkProposal.transition]) moved
    · refine ends.flagged fun open_ => ?_
      rw [moved.2] at open_
      rw [moved.1, moved.2]
      exact flagged.flag open_

namespace Sample

def nodeIDs (entries : List (String × Nat)) : Table String UUIDv7 :=
  entries.foldr (fun entry ids => ids.insert entry.1 (.number entry.2)) ∅

def pairReady : WorkflowInstance :=
  workflowInstance 1 .active [workflowNode 10 "left" .ready, workflowNode 11 "right" .ready]

def pairResumed : WorkflowInstance :=
  workflowInstance 4 .active
    [workflowNode 10 "left" .ready,
      { workflowNode 11 "right" .blocked with blockedFrom := some .ready }]

theorem pairReady_created :
    newWorkflowInstance workflowHash pair (.number 1) ⟨.task, .number 2⟩ (.number 3)
      (nodeIDs [("left", 10), ("right", 11)]) = .ok pairReady := by
  decide

/-- Of two blocked nodes one is resumed, and the instance is no longer marked. -/
theorem resumed_workflow_unmarked :
    newWorkflowInstance workflowHash pair (.number 1) ⟨.task, .number 2⟩ (.number 3)
        (nodeIDs [("left", 10), ("right", 11)]) = .ok pairReady ∧
      foldWorkflowInstance workflowHash pair pairReady
        [workflowTransition 2 .block 10, workflowTransition 3 .block 11,
          workflowTransition 4 .ready 10] = .ok pairResumed ∧
      pairResumed.state.terminal = false ∧ pairResumed.state ≠ .blocked ∧
      ∃ node ∈ pairResumed.nodes, node.state = .blocked := by
  decide

def pairHeld : WorkflowInstance :=
  workflowInstance 2 .blocked
    [{ workflowNode 10 "left" .blocked with blockedFrom := some .ready },
      workflowNode 11 "right" .ready]

def pairBlocked : WorkflowInstance := { pairResumed with state := .blocked }

theorem blocked_workflow_marked :
    pairBlocked.state = .blocked ↔ ∃ node ∈ pairBlocked.nodes, node.state = .blocked := by
  have run : WorkflowRun workflowHash pair ResumesLast pairReady := .start pairReady_created
  have block : advanceWorkflow pair pairReady (workflowTransition 2 .block 10) = .ok pairHeld := by
    decide
  have resume : advanceWorkflow pair pairHeld (workflowTransition 3 .ready 10) =
      .ok (workflowInstance 3 .active pairReady.nodes) := by
    decide
  have again : advanceWorkflow pair (workflowInstance 3 .active pairReady.nodes)
      (workflowTransition 4 .block 11) = .ok pairBlocked := by
    decide
  have resumes : ResumesLast pairHeld (.transition (workflowTransition 3 .ready 10)) := by
    unfold ResumesLast
    decide
  exact blocked_iff_node_blocked workflowHash pair pairBlocked
    (((run.advance (by simp [ResumesLast, workflowTransition]) block).advance resumes
      resume).advance (by simp [ResumesLast, workflowTransition]) again) rfl

end Sample

/-- Expansion replaces the placeholder, also where nodes wait for it, and nothing else. -/
theorem expansion_keeps (hash : WorkflowDefinition → Digest) (definition : WorkflowDefinition)
    (current next : WorkflowInstance) (placeholderID eventID : UUIDv7)
    (specs : List WorkflowNodeSpec)
    (expanded : expandWorkflowNode hash definition current placeholderID eventID specs =
      .ok next) :
    next.validate hash definition = true ∧
      (∀ node ∈ current.nodes, node.nodeID ≠ placeholderID → ∃ after ∈ next.nodes,
        after.nodeID = node.nodeID ∧ (node.state ≠ .pending → after.state = node.state) ∧
          (∀ id ∈ node.predecessorNodeIDs, id ≠ placeholderID → id ∈ after.predecessorNodeIDs) ∧
          (placeholderID ∈ node.predecessorNodeIDs →
            ∀ spec ∈ specs, spec.nodeID ∈ after.predecessorNodeIDs)) ∧
      (∀ spec ∈ specs, ∃ after ∈ next.nodes, after.nodeID = spec.nodeID) ∧
      ∀ id, ¬Relation.TransGen (fun parent child => ⟨parent, child⟩ ∈ next.edges) id id := by
  obtain ⟨_, _, _, _, _, _, _, placeholder, member, rfl, _, rfl, ends⟩ :=
    expandWorkflowNode_ok.mp expanded
  refine ⟨validate_iff.mpr ends, fun node within other => ?_, fun spec listed => ?_,
    fun id cycle => ?_⟩
  · refine ⟨_, List.mem_map_of_mem ((mem_expandNodes member).mpr
      (.inl ⟨node, within, other, rfl⟩)), ?_, fun taken => ?_, fun id listed different => ?_,
      fun waits spec listed => ?_⟩
    · rw [nodeID_of_skeleton readied_skeleton, rewire_nodeID]
    · rw [readied_of_ne (by rwa [rewire_state]), rewire_state]
    · rw [predecessors_of_skeleton readied_skeleton]
      exact mem_rewire.mpr (.inl ⟨listed, different⟩)
    · rw [predecessors_of_skeleton readied_skeleton]
      exact mem_rewire.mpr (.inr ⟨waits, List.mem_map_of_mem listed⟩)
  · refine ⟨_, List.mem_map_of_mem ((mem_expandNodes member).mpr (.inr ⟨spec, listed, rfl⟩)), ?_⟩
    rw [nodeID_of_skeleton readied_skeleton]
    rfl
  · obtain ⟨rank, ranks⟩ := ends.wired.ranked
    refine lt_irrefl (rank id) (Relation.transGen_eq_self.le _ _ (cycle.lift rank ?_))
    intro parent child edge
    obtain ⟨node, inside, edge⟩ := List.mem_flatMap.mp edge
    obtain ⟨_, listed, same⟩ := List.mem_map.mp edge
    cases same
    exact ranks node inside _ listed

namespace Sample

def mendedReady : WorkflowInstance :=
  workflowInstance 1 .active [workflowNode 10 "build" .ready, workflowNode 11 "mend" .pending [10]]

def buildParts : List WorkflowNodeSpec := [⟨.number 12, [], []⟩, ⟨.number 13, [.number 12], []⟩]

/-- The repair of a build that is split in two waits for both parts. -/
theorem build_expanded :
    ∃ next, expandWorkflowNode workflowHash mended mendedReady (.number 10) (.number 9) buildParts =
        .ok next ∧
      next.validate workflowHash mended = true ∧
      ∃ mend ∈ next.nodes, mend.nodeID = .number 11 ∧
        ∀ part ∈ buildParts, part.nodeID ∈ mend.predecessorNodeIDs := by
  obtain ⟨next, expanded⟩ : ∃ next, expandWorkflowNode workflowHash mended mendedReady (.number 10)
    (.number 9) buildParts = .ok next := ⟨_, rfl⟩
  obtain ⟨valid, kept, _⟩ := expansion_keeps _ _ _ _ _ _ _ expanded
  obtain ⟨mend, member, same, _, _, waits⟩ :=
    kept (workflowNode 11 "mend" .pending [10]) (by decide) (by decide)
  exact ⟨next, expanded, valid, mend, member, same, waits (by decide)⟩

end Sample

end Tekroo.Kernel
