import Tekroo.Properties.WorkflowRuns

/-! # The order of the stages

A node is taken up only when the work of the stages that its own stage depends on is over.
-/

namespace Tekroo.Kernel

open WorkflowNode WorkflowTransition WorkflowStageDefinition

variable {hash : WorkflowDefinition → Digest} {definition : WorkflowDefinition}
  {stage : WorkflowStageDefinition} {nodes : List WorkflowNode}
  {node other placeholder : WorkflowNode} {id : UUIDv7} {current next : WorkflowInstance}
  {transition : WorkflowTransition} {specs : List WorkflowNodeSpec}

/-- The predecessors of every node that was taken up let it go on. -/
def Paced (definition : WorkflowDefinition) (nodes : List WorkflowNode) : Prop :=
  ∀ node ∈ nodes, node.state ≠ .pending → node.state ≠ .cancelled →
    ∀ stage, workflowStageByID definition node.stageID = some stage →
      ∀ predecessor ∈ nodes, predecessor.nodeID ∈ node.predecessorNodeIDs →
        stage.accepts predecessor.state = true

theorem WorkflowStageDefinition.taken_of_accepts {state : WorkflowNodeState}
    (accepted : stage.accepts state = true) : state ≠ .pending ∧ state ≠ .cancelled := by
  rcases accepts_iff.mp accepted with rfl | ⟨_, rfl⟩ | ⟨_, rfl⟩ <;> simp

theorem WorkflowTransition.open_of_permits
    (permitted : transition.permits definition nodes node = true) :
    node.state ≠ .pending ∧ node.state ≠ .cancelled ∧
      ∀ stage : WorkflowStageDefinition, stage.accepts node.state ≠ true := by
  have state := permits_state permitted
  simp only [ne_eq, accepts_iff]
  cases kind : transition.kind <;> rw [kind] at state <;> simp_all
  · rcases state with same | same | same <;> simp [same]
  · rcases state with same | same | same <;> simp [same]

theorem Paced.writeAt (paced : Paced definition nodes) (distinct : Distinct nodes)
    (member : node ∈ nodes) (same : node.nodeID = transition.nodeID)
    (permitted : transition.permits definition nodes node = true) :
    Paced definition (nodes.map transition.writeAt) := by
  intro changed listed waits ends stage found behind also within
  obtain ⟨earlier, before, rfl⟩ := List.mem_map.mp listed
  obtain ⟨predecessor, known, rfl⟩ := List.mem_map.mp also
  rw [stageID_of_skeleton writeAt_skeleton] at found
  rw [nodeID_of_skeleton writeAt_skeleton, predecessors_of_skeleton writeAt_skeleton] at within
  have taken : earlier.state ≠ .pending ∧ earlier.state ≠ .cancelled := by
    by_cases here : earlier.nodeID = transition.nodeID
    · obtain rfl := distinct.eq before member (here.trans same.symm)
      exact ⟨(open_of_permits permitted).1, (open_of_permits permitted).2.1⟩
    · rw [WorkflowTransition.writeAt, if_neg here] at waits ends
      exact ⟨waits, ends⟩
  have accepted := paced earlier before taken.1 taken.2 stage found predecessor known within
  -- What lets a node go on is over, so it is not what the transition is applied to.
  have elsewhere : predecessor.nodeID ≠ transition.nodeID := by
    intro here
    obtain rfl := distinct.eq known member (here.trans same.symm)
    exact (open_of_permits permitted).2.2 stage accepted
  rwa [WorkflowTransition.writeAt, if_neg elsewhere]

theorem Paced.readied (paced : Paced definition nodes) (distinct : Distinct nodes) :
    Paced definition (nodes.map (WorkflowNode.readied definition nodes)) := by
  intro changed listed waits ends stage found behind also within
  obtain ⟨earlier, before, rfl⟩ := List.mem_map.mp listed
  obtain ⟨predecessor, known, rfl⟩ := List.mem_map.mp also
  rw [stageID_of_skeleton readied_skeleton] at found
  rw [nodeID_of_skeleton readied_skeleton, predecessors_of_skeleton readied_skeleton] at within
  have accepted : stage.accepts predecessor.state = true := by
    by_cases pending : earlier.state = .pending
    · -- It turned ready, so its predecessors were looked at.
      have satisfied : predecessorsSatisfied definition nodes earlier = true := by
        by_contra kept
        exact waits (by simp [WorkflowNode.readied, kept, pending])
      obtain ⟨reached, here, same, accepted⟩ := ((distinct.satisfied found).mp satisfied).1 _ within
      rwa [← distinct.eq here known same]
    · rw [WorkflowNode.readied_of_ne pending] at ends
      exact paced earlier before pending ends stage found predecessor known within
  rwa [WorkflowNode.readied_of_ne (taken_of_accepts accepted).1]

theorem Paced.moves (paced : Paced definition current.nodes)
    (distinct : Distinct current.nodes) (moves : Moves definition current transition next)
    (open_ : next.state.terminal = false) : Paced definition next.nodes := by
  obtain ⟨_, _, _, state⟩ | ⟨node, _, member, same, permitted, nodes, _⟩ := moves
  · rw [state] at open_
    cases open_
  · have written := paced.writeAt distinct member same permitted
    rw [nodes]
    unfold change
    split
    · have ids := (distinct_map fun node =>
        @WorkflowTransition.writeAt_skeleton node transition).mpr distinct
      have refreshed := written.readied ids
      rwa [List.map_map] at refreshed
    · exact written

abbrev WorkflowNode.expandIn (placeholder : WorkflowNode) (specs : List WorkflowNodeSpec)
    (nodes : List WorkflowNode) : List WorkflowNode :=
  expandNodes placeholder.nodeID placeholder.stageID specs nodes

theorem Paced.expanded (paced : Paced definition nodes) (wired : Wired definition nodes)
    (member : placeholder ∈ nodes)
    (untouched : placeholder.state = .pending ∨ placeholder.state = .ready)
    (distinct : Distinct (placeholder.expandIn specs nodes)) :
    Paced definition (placeholder.expandIn specs nodes) := by
  intro changed listed waits ends stage found behind also within
  rcases (mem_expandNodes member).mp listed with ⟨earlier, before, _, rfl⟩ | ⟨spec, _, rfl⟩
  · rw [rewire_stageID] at found
    rw [rewire_state] at waits ends
    have accepts := paced earlier before waits ends stage found
    have apart : placeholder.nodeID ∉ earlier.predecessorNodeIDs := by
      intro waiting
      have accepted := accepts placeholder member waiting
      rcases untouched with state | state <;>
        simp [state, WorkflowStageDefinition.accepts] at accepted
    obtain ⟨listed, different⟩ :=
      (mem_rewire.mp within).resolve_right fun replaced => apart replaced.1
    obtain ⟨_, predecessor, known, same, _⟩ := wired.linked earlier before _ listed
    have kept : predecessor.rewire placeholder.nodeID (specs.map WorkflowNodeSpec.nodeID) ∈
        placeholder.expandIn specs nodes :=
      (mem_expandNodes member).mpr (.inl ⟨predecessor, known, same ▸ different, rfl⟩)
    rw [← distinct.eq kept also (by rw [rewire_nodeID, same]), rewire_state]
    exact accepts predecessor known (same ▸ listed)
  · exact absurd rfl waits

/-- Every node waits for all nodes of the stages that its stage depends on, or for another one of
its own stage. -/
def Layered (definition : WorkflowDefinition) (nodes : List WorkflowNode) : Prop :=
  ∀ node ∈ nodes, ∀ stage, workflowStageByID definition node.stageID = some stage →
    ∀ other ∈ nodes, other.stageID ∈ stage.dependsOn → other.nodeID ∈ node.predecessorNodeIDs ∨
      ∃ middle ∈ nodes, middle.stageID = node.stageID ∧ middle.nodeID ∈ node.predecessorNodeIDs

theorem Layered.accepts (layered : Layered definition nodes) (paced : Paced definition nodes)
    (wired : Wired definition nodes) (member : node ∈ nodes)
    (found : workflowStageByID definition node.stageID = some stage)
    (waits : node.state ≠ .pending) (ends : node.state ≠ .cancelled) (known : other ∈ nodes)
    (depends : other.stageID ∈ stage.dependsOn) : stage.accepts other.state = true := by
  obtain ⟨rank, ranks⟩ := wired.ranked
  -- The rank falls on the way through the nodes of the stage.
  induction height : rank node.nodeID using Nat.strong_induction_on generalizing node with
  | _ _ induction =>
    have accepts := paced node member waits ends stage found
    rcases layered node member stage found other known depends with
      edge | ⟨middle, within, same, edge⟩
    · exact accepts other known edge
    · have taken := taken_of_accepts (accepts middle within edge)
      exact induction _ (height ▸ ranks node member _ edge) within (same ▸ found) taken.1 taken.2
        rfl

theorem Layered.map {change : WorkflowNode → WorkflowNode}
    (keeps : ∀ node, (change node).skeleton = node.skeleton) (layered : Layered definition nodes) :
    Layered definition (nodes.map change) := by
  intro changed listed stage found behind also depends
  obtain ⟨node, member, rfl⟩ := List.mem_map.mp listed
  obtain ⟨other, known, rfl⟩ := List.mem_map.mp also
  rw [stageID_of_skeleton (keeps _)] at found depends
  rw [nodeID_of_skeleton (keeps _), predecessors_of_skeleton (keeps _)]
  refine (layered node member stage found other known depends).imp_right ?_
  rintro ⟨middle, within, same, edge⟩
  refine ⟨change middle, List.mem_map_of_mem within, ?_, ?_⟩
  · rw [stageID_of_skeleton (keeps _), stageID_of_skeleton (keeps _), same]
  · rwa [nodeID_of_skeleton (keeps _)]

theorem Layered.moves (layered : Layered definition current.nodes)
    (moves : Moves definition current transition next) : Layered definition next.nodes := by
  cases moves with
  | cancels _ _ nodes => exact nodes ▸ layered.map fun _ => cancel_skeleton
  | applies _ _ _ _ _ nodes =>
    exact nodes ▸ layered.map fun _ => change_skeleton

/-- Every replacement waits for all that the placeholder waits for, itself or through another
replacement. -/
def WorkflowNodeSpec.Inherits (specs : List WorkflowNodeSpec) (placeholder : WorkflowNode)
    (spec : WorkflowNodeSpec) : Prop :=
  placeholder.predecessorNodeIDs ⊆ spec.predecessorNodeIDs ∨
    ∃ other ∈ specs, other.nodeID ∈ spec.predecessorNodeIDs

theorem Layered.expanded (layered : Layered definition nodes) (sound : definition.Sound)
    (wired : Wired definition nodes) (member : placeholder ∈ nodes) (some_ : specs ≠ [])
    (inherits : ∀ spec ∈ specs, spec.Inherits specs placeholder) :
    Layered definition (placeholder.expandIn specs nodes) := by
  intro changed listed stage found behind also depends
  have survivor : ∀ earlier ∈ nodes, earlier.nodeID ≠ placeholder.nodeID →
      earlier.rewire placeholder.nodeID (specs.map WorkflowNodeSpec.nodeID) ∈
        placeholder.expandIn specs nodes :=
    fun earlier before apart => (mem_expandNodes member).mpr (.inl ⟨earlier, before, apart, rfl⟩)
  have replacement : ∀ spec ∈ specs, spec.node placeholder.stageID ∈
      placeholder.expandIn specs nodes :=
    fun spec present => (mem_expandNodes member).mpr (.inr ⟨spec, present, rfl⟩)
  have apart : ∀ stageID, workflowStageByID definition stageID = some stage →
      stageID ∉ stage.dependsOn := by
    intro stageID found depends
    obtain ⟨declared, rfl⟩ := sound.stageByID.mp found
    exact (sound.known stage declared _ depends).1 rfl
  rcases (mem_expandNodes member).mp listed with
    ⟨earlier, before, _, rfl⟩ | ⟨spec, present, rfl⟩
  · rw [rewire_stageID] at found ⊢
    have through : (∃ middle ∈ nodes, middle.stageID = earlier.stageID ∧
        middle.nodeID ∈ earlier.predecessorNodeIDs) → ∃ middle ∈ placeholder.expandIn specs nodes,
          middle.stageID = earlier.stageID ∧ middle.nodeID ∈ (earlier.rewire placeholder.nodeID
            (specs.map WorkflowNodeSpec.nodeID)).predecessorNodeIDs := by
      rintro ⟨middle, within, same, edge⟩
      by_cases here : middle.nodeID = placeholder.nodeID
      · obtain rfl := wired.distinct.eq within member here
        obtain ⟨spec, present⟩ := List.exists_mem_of_ne_nil specs some_
        exact ⟨_, replacement spec present, same,
          mem_rewire.mpr (.inr ⟨edge, List.mem_map_of_mem present⟩)⟩
      · refine ⟨_, survivor middle within here, by rwa [rewire_stageID], ?_⟩
        rw [rewire_nodeID]
        exact mem_rewire.mpr (.inl ⟨edge, here⟩)
    rcases (mem_expandNodes member).mp also with
      ⟨other, known, different, rfl⟩ | ⟨spec, present, rfl⟩
    · rw [rewire_stageID] at depends
      rw [rewire_nodeID]
      exact (layered earlier before stage found other known depends).imp
        (fun edge => mem_rewire.mpr (.inl ⟨edge, different⟩)) through
    · exact (layered earlier before stage found placeholder member depends).imp
        (fun edge => mem_rewire.mpr (.inr ⟨edge, List.mem_map_of_mem present⟩)) through
  · rcases inherits spec present with all | ⟨other, also, edge⟩
    · rcases (mem_expandNodes member).mp also with ⟨other, known, _, rfl⟩ | ⟨_, _, rfl⟩
      · rw [rewire_stageID] at depends
        rw [rewire_nodeID]
        refine (layered placeholder member stage found other known depends).imp (all ·) ?_
        rintro ⟨middle, within, same, edge⟩
        have here := (wired.linked placeholder member _ edge).1
        refine ⟨_, survivor middle within here, by rwa [rewire_stageID], ?_⟩
        rw [rewire_nodeID]
        exact all edge
      · exact absurd depends (apart _ found)
    · exact .inr ⟨_, replacement other also, rfl, edge⟩

/-- An expansion drops none of the dependencies of its placeholder. -/
def KeepsDependencies (current : WorkflowInstance) : WorkflowStep → Prop
  | .expansion placeholderID specs => ∀ placeholder ∈ current.nodes,
      placeholder.nodeID = placeholderID → ∀ spec ∈ specs, spec.Inherits specs placeholder
  | .transition _ | .proposal _ => True

/-- The nodes stand in the order of their stages, and an open instance kept to it. -/
structure InOrder (definition : WorkflowDefinition) (current : WorkflowInstance) : Prop where
  layered : Layered definition current.nodes
  paced : current.state.terminal = false → Paced definition current.nodes

theorem InOrder.moves (ordered : InOrder definition current) (distinct : Distinct current.nodes)
    (moves : Moves definition current transition next) : InOrder definition next :=
  ⟨ordered.layered.moves moves, (ordered.paced moves.running).moves distinct moves⟩

theorem WorkflowDefinition.Sound.firstInstance {instanceID budgetAccountID : UUIDv7}
    {root : AggregateRef} {nodeIDs : Table String UUIDv7} (sound : definition.Sound) :
    InOrder definition (definition.firstInstance instanceID root budgetAccountID nodeIDs) := by
  constructor
  · intro node member stage found other known depends
    obtain ⟨own, declared, rfl⟩ := List.mem_map.mp member
    obtain ⟨earlier, _, rfl⟩ := List.mem_map.mp known
    have same := sound.stageByID.mpr ⟨declared, rfl⟩
    cases same.symm.trans found
    exact .inl (List.mem_map_of_mem depends)
  · intro _ node member waits _ stage _ predecessor _ within
    obtain ⟨own, _, rfl⟩ := List.mem_map.mp member
    simp only [firstNode] at waits within
    cases empty : own.dependsOn with
    | nil => simp [empty] at within
    | cons => simp [empty] at waits

theorem WorkflowRun.sound {allowed : WorkflowInstance → WorkflowStep → Prop}
    (run : WorkflowRun hash definition allowed current) : definition.Sound := by
  induction run with
  | start created => exact definition.validate_sound (newWorkflowInstance_ok.mp created).1.1
  | advance _ _ _ sound | expand _ _ _ sound | propose _ _ _ sound => exact sound

theorem WorkflowRun.inOrder (run : WorkflowRun hash definition KeepsDependencies current) :
    InOrder definition current := by
  induction run with
  | start created =>
    obtain ⟨⟨valid, _⟩, _, _, rfl, _⟩ := newWorkflowInstance_ok.mp created
    exact (definition.validate_sound valid).firstInstance
  | advance run _ advanced ordered =>
    exact ordered.moves run.wired.distinct (run.wired.advanced advanced)
  | @expand before after _ eventID specs run allowed expanded ordered =>
    obtain ⟨_, _, _, some_, _, _, _, placeholder, member, rfl, untouched, rfl, ends⟩ :=
      expandWorkflowNode_ok.mp expanded
    have keeps : ∀ node : WorkflowNode, (node.readied definition
        (placeholder.expandIn specs before.nodes)).skeleton = node.skeleton :=
      fun _ => readied_skeleton
    have distinct := (distinct_map keeps).mp ends.wired.distinct
    exact ⟨.map keeps (ordered.layered.expanded run.sound run.wired member some_
      (allowed placeholder member rfl)), fun open_ =>
        ((ordered.paced open_).expanded run.wired member untouched distinct).readied distinct⟩
  | propose run _ evaluated ordered =>
    obtain ⟨_, _, moved⟩ := evaluateWorkflowAdmission_ok evaluated
    split at moved
    · exact ordered.moves run.wired.distinct moved
    · exact ⟨moved.1 ▸ ordered.layered, fun open_ => moved.1 ▸ ordered.paced (moved.2 ▸ open_)⟩

/-- The node of that identity is admitted, by a transition or by a proposal. -/
inductive AdmitsNode (hash : WorkflowDefinition → Digest) (definition : WorkflowDefinition)
    (current : WorkflowInstance) (id : UUIDv7) : WorkflowInstance → Prop where
  | transition {step : WorkflowTransition} {after : WorkflowInstance} : step.kind = .admitNode →
      step.nodeID = id → advanceWorkflow definition current step = .ok after →
        AdmitsNode hash definition current id after
  | proposal {proposal : WorkProposal} {facts : WorkflowAdmissionFacts}
      {eventID invocationID : UUIDv7} {recordedAt : Time}
      {evaluation : WorkflowAdmissionEvaluation} : proposal.nodeID = id →
        evaluateWorkflowAdmission hash definition current proposal facts eventID invocationID
            recordedAt = .ok evaluation →
          evaluation.result.outcome = .admitted →
            AdmitsNode hash definition current id evaluation.nextInstance

theorem AdmitsNode.moves (wired : Wired definition current.nodes)
    (admits : AdmitsNode hash definition current id next) :
    ∃ transition : WorkflowTransition, transition.kind = .admitNode ∧ transition.nodeID = id ∧
      Moves definition current transition next := by
  cases admits with
  | transition kind same advanced => exact ⟨_, kind, same, wired.advanced advanced⟩
  | proposal same evaluated admitted =>
    obtain ⟨_, _, moved⟩ := evaluateWorkflowAdmission_ok evaluated
    rw [if_pos admitted] at moved
    exact ⟨_, rfl, same, moved⟩

/-- In every run whose expansions keep the dependencies of what they replace, a node is admitted
only after all nodes of the stages that its stage depends on are completed or skipped, or have
failed if the stage is there for failures. -/
theorem stage_order_kept (hash : WorkflowDefinition → Digest) (definition : WorkflowDefinition)
    (current next : WorkflowInstance) (node other : WorkflowNode) (stage : WorkflowStageDefinition)
    (run : WorkflowRun hash definition KeepsDependencies current)
    (admits : AdmitsNode hash definition current node.nodeID next) (member : node ∈ next.nodes)
    (found : workflowStageByID definition node.stageID = some stage)
    (known : other ∈ next.nodes) (depends : other.stageID ∈ stage.dependsOn) :
    other.state = .completed ∨ other.state = .skipped ∨
      (stage.purpose = .repair ∨ stage.purpose = .replan) ∧ other.state = .failed := by
  obtain ⟨transition, kind, named, moves⟩ := admits.moves run.wired
  obtain ⟨_, cancels, _⟩ | ⟨ready, running, within, same, permitted, nodes, _⟩ := moves
  · rw [kind] at cancels
    cases cancels
  have changes : next.nodes = current.nodes.map transition.writeAt := by
    rw [nodes, change_of_quiet (by simp [refreshes, kind])]
  rw [changes] at member known
  obtain ⟨before, here, rfl⟩ := List.mem_map.mp member
  obtain ⟨earlier, there, rfl⟩ := List.mem_map.mp known
  rw [stageID_of_skeleton writeAt_skeleton] at found depends
  rw [nodeID_of_skeleton writeAt_skeleton] at named
  obtain rfl := run.wired.distinct.eq here within (named.symm.trans same.symm)
  obtain ⟨declared, stageID⟩ := run.sound.stageByID.mp found
  have apart : earlier.nodeID ≠ transition.nodeID := by
    intro equal
    obtain rfl := run.wired.distinct.eq there here (equal.trans same.symm)
    exact (run.sound.known stage declared _ depends).1 stageID.symm
  obtain ⟨waits, ends, _⟩ := open_of_permits permitted
  have accepted := run.inOrder.layered.accepts (run.inOrder.paced running) run.wired here found
    waits ends there depends
  rw [WorkflowTransition.writeAt, if_neg apart]
  rcases accepts_iff.mp accepted with
    done | ⟨_, skipped⟩ | ⟨repairs, failed⟩
  · exact .inl done
  · exact .inr (.inl skipped)
  · refine .inr (.inr ⟨?_, failed⟩)
    simp only [WorkflowStageDefinition.repairs, tests_iff] at repairs
    exact repairs.2

namespace Sample

def chain : WorkflowDefinition :=
  workflow [workflowStage "first" [], workflowStage "second" ["first"]]

def chainReady : WorkflowInstance :=
  workflowInstance 1 .active
    [workflowNode 10 "first" .ready, workflowNode 11 "second" .pending [10]]

/-- The node of the second stage was replaced by one that waits for nothing. -/
def chainLoose : WorkflowInstance :=
  workflowInstance 2 .active [workflowNode 10 "first" .ready, workflowNode 12 "second" .ready]

def workflowWork (revision : Nat) (kind : WorkflowTransitionKind) (node : Nat) :
    WorkflowTransition :=
  { workflowTransition revision kind node with
    actorFQN := ⟨"demo::worker-1"⟩
    invocationID := .number (100 + node)
    progressDigest := .number 7 }

theorem chainReady_created :
    newWorkflowInstance workflowHash chain (.number 1) ⟨.task, .number 2⟩ (.number 3)
      (nodeIDs [("first", 10), ("second", 11)]) = .ok chainReady := by
  decide

/-- A node of the second stage is admitted while the first stage has not begun. -/
theorem second_stage_first :
    newWorkflowInstance workflowHash chain (.number 1) ⟨.task, .number 2⟩ (.number 3)
        (nodeIDs [("first", 10), ("second", 11)]) = .ok chainReady ∧
      expandWorkflowNode workflowHash chain chainReady (.number 11) (.number 1002)
        [⟨.number 12, [], []⟩] = .ok chainLoose ∧
      foldWorkflowInstance workflowHash chain chainLoose [workflowWork 3 .admitNode 12] =
        .ok (workflowInstance 3 .active
          [workflowNode 10 "first" .ready, workflowTask 12 "second" .admitted]) := by
  decide

def chainBegun : WorkflowInstance :=
  workflowInstance 4 .active
    [{ workflowTask 10 "first" .completed with progressDigest := some (.number 7) },
      workflowNode 11 "second" .ready [10]]

def chainExpanded : WorkflowInstance :=
  workflowInstance 5 .active
    [{ workflowTask 10 "first" .completed with progressDigest := some (.number 7) },
      workflowNode 12 "second" .ready [10]]

theorem chainExpanded_reached : WorkflowRun workflowHash chain KeepsDependencies chainExpanded := by
  have begun := @WorkflowRun.fold _ _ _ chainBegun KeepsDependencies
    [workflowWork 2 .admitNode 10, workflowWork 3 .start 10, workflowWork 4 .complete 10]
    (.start chainReady_created)
    ⟨trivial, fun _ _ => ⟨trivial, fun _ _ => ⟨trivial, fun _ _ => trivial⟩⟩⟩ (by decide)
  refine @WorkflowRun.expand _ _ _ _ _ (.number 11) (.number 1005) [⟨.number 12, [.number 10], []⟩]
    begun ?_ (by decide)
  intro placeholder member same spec listed
  have inherited : ∀ node ∈ chainBegun.nodes, node.nodeID = .number 11 →
      node.predecessorNodeIDs ⊆ [.number 10] := by
    decide
  obtain rfl := List.mem_singleton.mp listed
  exact .inl (inherited placeholder member same)

theorem second_stage_second :
    (workflowTask 10 "first" .completed).state = .completed ∨
      (workflowTask 10 "first" .completed).state = .skipped ∨
      ((workflowStage "second" ["first"]).purpose = .repair ∨
        (workflowStage "second" ["first"]).purpose = .replan) ∧
          (workflowTask 10 "first" .completed).state = .failed :=
  stage_order_kept workflowHash chain chainExpanded
    (workflowInstance 6 .active
      [{ workflowTask 10 "first" .completed with progressDigest := some (.number 7) },
        workflowTask 12 "second" .admitted [10]])
    (workflowTask 12 "second" .admitted [10])
    { workflowTask 10 "first" .completed with progressDigest := some (.number 7) }
    (workflowStage "second" ["first"]) chainExpanded_reached
    (@AdmitsNode.transition _ _ _ _ (workflowWork 6 .admitNode 12) _ rfl rfl (by decide))
    (by decide) (by decide) (by decide) (by decide)

end Sample

end Tekroo.Kernel
