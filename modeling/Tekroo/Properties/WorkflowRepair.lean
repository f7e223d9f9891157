import Tekroo.Properties.WorkflowProgress

/-! # Completion and repair

A definition without stages for failures can always be completed, and no other one can: what has
failed once stays failed.
-/

namespace Tekroo.Kernel

open Checked WorkflowTransition WorkflowStageDefinition

variable {hash : WorkflowDefinition → Digest} {definition : WorkflowDefinition}
  {stage : WorkflowStageDefinition} {nodes : List WorkflowNode} {node other : WorkflowNode}
  {id : UUIDv7} {current next : WorkflowInstance} {transition : WorkflowTransition}
  {instanceID budgetAccountID : UUIDv7} {root : AggregateRef} {nodeIDs : Table String UUIDv7}
  {transitions : List WorkflowTransition}

/-- What a new instance is made of: every stage has an identity of its own. -/
structure WorkflowDefinition.Given (definition : WorkflowDefinition) (instanceID : UUIDv7)
    (root : AggregateRef) (budgetAccountID : UUIDv7) (nodeIDs : Table String UUIDv7) : Prop where
  instanceID : instanceID.valid = true
  root : root.valid = true
  budgetAccountID : budgetAccountID.valid = true
  length : nodeIDs.entries.length = definition.stages.length
  valid : ∀ entry ∈ nodeIDs.entries, entry.2.valid = true
  found : ∀ stage ∈ definition.stages, (nodeIDs.lookup stage.stageID).isSome = true
  distinct : (definition.stages.map fun stage => stageNodeID nodeIDs stage.stageID).Nodup

/-- A stage for failures depends on another one, whose failure it can wait for. -/
def WorkflowDefinition.Founded (definition : WorkflowDefinition) : Prop :=
  ∀ stage ∈ definition.stages, stage.purpose = .repair ∨ stage.purpose = .replan →
    stage.dependsOn ≠ []

section Creation

variable (sound : definition.Sound)
  (given : definition.Given instanceID root budgetAccountID nodeIDs)

include given

theorem WorkflowDefinition.Given.stageNodeID_valid (declared : stage ∈ definition.stages) :
    (stageNodeID nodeIDs stage.stageID).valid = true := by
  obtain ⟨id, found⟩ := Option.isSome_iff_exists.mp (given.found stage declared)
  rw [stageNodeID, found]
  exact given.valid ⟨_, id⟩ (AList.mem_lookup_iff.mp found)

theorem WorkflowDefinition.Given.stageNodeID_inj {second : WorkflowStageDefinition}
    (declared : stage ∈ definition.stages) (also : second ∈ definition.stages)
    (same : stageNodeID nodeIDs stage.stageID = stageNodeID nodeIDs second.stageID) :
    stage = second :=
  List.inj_on_of_nodup_map given.distinct declared also same

include sound

theorem WorkflowDefinition.Given.formed (declared : stage ∈ definition.stages) :
    (stage.firstNode nodeIDs).Formed definition := by
  have state := @WorkflowStageDefinition.firstNode_state stage nodeIDs
  have known : ∀ predecessor ∈ stage.dependsOn,
      ∃ other ∈ definition.stages, other.stageID = predecessor :=
    fun predecessor listed => (sound.known stage declared predecessor listed).2
  have predecessors : workflowValidUUIDSet (stage.dependsOn.map (stageNodeID nodeIDs)) = true := by
    simp only [workflowValidUUIDSet, tests_iff]
    constructor
    · intro id listed
      obtain ⟨predecessor, within, rfl⟩ := List.mem_map.mp listed
      obtain ⟨other, also, rfl⟩ := known predecessor within
      exact given.stageNodeID_valid also
    · refine List.Nodup.map_on (fun first here second there same => ?_) (sound.once stage declared)
      obtain ⟨one, listed, rfl⟩ := known first here
      obtain ⟨two, also, rfl⟩ := known second there
      rw [given.stageNodeID_inj listed also same]
  have found : workflowStageByID definition stage.stageID = some stage :=
    sound.stageByID.mpr ⟨declared, rfl⟩
  refine ⟨?_, rfl, ?_, ?_, ?_, fun _ => rfl, ?_, ?_, ?_⟩
  · have valid : (stage.firstNode nodeIDs).state.valid = true := by
      rcases state with same | same <;> rw [same] <;> rfl
    simp only [WorkflowNode.shaped, tests_iff]
    refine ⟨⟨⟨⟨⟨⟨⟨⟨⟨⟨given.stageNodeID_valid declared, sound.named stage declared⟩, valid⟩, rfl⟩,
      ?_⟩, Nat.zero_le _⟩, Nat.zero_le _⟩, predecessors⟩, rfl⟩, rfl⟩, ?_⟩
    · simpa [firstNode] using sound.narrow stage declared
    · exact Option.isSome_iff_exists.mpr ⟨stage, found⟩
  all_goals rcases state with same | same <;> simp [same]

theorem WorkflowDefinition.Given.wired :
    Wired definition (definition.stages.map (firstNode nodeIDs)) where
  distinct := by
    rw [Distinct, List.map_map]
    exact given.distinct
  covered := fun stage declared => ⟨_, List.mem_map_of_mem declared, rfl⟩
  linked := by
    intro node listed id within
    obtain ⟨stage, declared, rfl⟩ := List.mem_map.mp listed
    obtain ⟨predecessor, depends, rfl⟩ := List.mem_map.mp within
    obtain ⟨different, other, also, rfl⟩ := sound.known stage declared predecessor depends
    refine ⟨fun same => different ?_, _, List.mem_map_of_mem also, rfl, .inr ⟨stage, ?_, depends⟩⟩
    · rw [given.stageNodeID_inj also declared same]
    · exact sound.stageByID.mpr ⟨declared, rfl⟩
  ranked := by
    obtain ⟨rank, ranks⟩ := sound.ranked
    -- An identity has the rank of the stage that it was given to.
    let place (id : UUIDv7) : Nat :=
      ((definition.stages.find? fun stage => stageNodeID nodeIDs stage.stageID == id).map
        fun stage => rank stage.stageID).getD 0
    have placed : ∀ stage ∈ definition.stages,
        place (stageNodeID nodeIDs stage.stageID) = rank stage.stageID := by
      intro stage declared
      have found := (Lib.find?_key_iff given.distinct).mpr ⟨declared, rfl⟩
      simp only [place, found, Option.map_some, Option.getD_some]
    refine ⟨place, fun node listed id within => ?_⟩
    obtain ⟨stage, declared, rfl⟩ := List.mem_map.mp listed
    obtain ⟨predecessor, depends, rfl⟩ := List.mem_map.mp within
    obtain ⟨_, other, also, rfl⟩ := sound.known stage declared predecessor depends
    have below := ranks stage declared other.stageID depends
    rwa [← placed other also, ← placed stage declared] at below

theorem WorkflowDefinition.Given.timely (founded : definition.Founded) :
    Timely definition (definition.stages.map (firstNode nodeIDs)) := by
  intro node listed
  have wired := given.wired sound
  obtain ⟨stage, declared, rfl⟩ := List.mem_map.mp listed
  have found : workflowStageByID definition (stage.firstNode nodeIDs).stageID = some stage :=
    sound.stageByID.mpr ⟨declared, rfl⟩
  constructor
  · intro ready
    have alone : stage.dependsOn = [] := by
      by_contra depends
      simp [firstNode, depends] at ready
    refine (wired.satisfied listed found).mpr ⟨fun predecessor _ within => ?_, fun repairs => ?_⟩
    · simp [firstNode, alone] at within
    · simp only [WorkflowStageDefinition.repairs, tests_iff] at repairs
      exact absurd alone (founded stage declared repairs.2)
  · intro pending
    by_contra satisfied
    obtain ⟨all, _⟩ := (wired.satisfied listed found).mp (by simpa using satisfied)
    -- A predecessor is new as well, so it lets nothing go on.
    cases depends : stage.dependsOn with
    | nil => simp [firstNode, depends] at pending
    | cons predecessor rest =>
      obtain ⟨_, other, also, same⟩ := sound.known stage declared predecessor (by simp [depends])
      have accepted := all (other.firstNode nodeIDs) (List.mem_map_of_mem also) (by
        simp [firstNode, depends, same])
      rcases @WorkflowStageDefinition.firstNode_state other nodeIDs with state | state <;>
        simp [state, accepts] at accepted

theorem WorkflowDefinition.Given.created (valid : definition.validate hash = true)
    (founded : definition.Founded) :
    newWorkflowInstance hash definition instanceID root budgetAccountID nodeIDs =
      .ok (definition.firstInstance instanceID root budgetAccountID nodeIDs) := by
  refine newWorkflowInstance_ok.mpr ⟨⟨valid, given.instanceID, given.root, given.budgetAccountID,
    given.length⟩, given.valid, given.found, rfl, ?_, fun node listed => ?_, given.wired sound,
    given.timely sound founded, ⟨⟨nofun, fun all => ?_⟩, nofun, nofun, nofun⟩⟩
  · have few := sound.few
    simp [WorkflowInstance.headed, WorkflowDefinition.firstInstance, valid, given.instanceID,
      given.root, given.budgetAccountID, workflowValidUUIDSet, WorkflowInstanceState.valid]
    omega
  · obtain ⟨stage, declared, rfl⟩ := List.mem_map.mp listed
    exact given.formed sound declared
  · obtain ⟨stage, declared⟩ := List.exists_mem_of_ne_nil _ sound.nonempty
    have finished := all _ (List.mem_map_of_mem declared)
    rcases @WorkflowStageDefinition.firstNode_state stage nodeIDs with state | state <;>
      simp [WorkflowNode.finished, state] at finished

end Creation

def WorkflowInstance.Lost (current : WorkflowInstance) : Prop :=
  (∃ node ∈ current.nodes, node.state = .failed) ∨ current.state = .cancelled

theorem WorkflowInstance.Lost.moves (lost : current.Lost) (distinct : Distinct current.nodes)
    (moves : Moves definition current transition next) : next.Lost := by
  rcases lost with ⟨failed, within, state⟩ | cancelled
  · obtain ⟨_, _, _, ended⟩ | ⟨node, _, member, same, permitted, nodes, _⟩ := moves
    · exact .inr ended
    · refine .inl ⟨_, nodes ▸ List.mem_map_of_mem within,
        (change_state (by simp) (by simp)).mpr ?_⟩
      rw [writeAt, if_neg, state]
      intro here
      obtain rfl := distinct.eq within member (here.trans same.symm)
      have allowed := permits_state permitted
      cases kind : transition.kind <;> simp [kind, state] at allowed
  · have running := moves.running
    rw [cancelled] at running
    cases running

theorem WorkflowInstance.Lost.folded (lost : current.Lost) (wired : Wired definition current.nodes)
    (folded : transitions.foldlM (advanceWorkflow definition) current = .ok next) :
    next.Lost := by
  refine (foldlM_holds (fun passed => passed.Lost ∧ Wired definition passed.nodes)
    (fun _ _ _ both first => ?_) folded ⟨lost, wired⟩).1
  have moves := both.2.advanced first
  exact ⟨both.1.moves both.2.distinct moves, both.2.moves moves⟩

theorem WorkflowInstance.Valid.not_lost (valid : current.Valid hash definition)
    (completed : current.state = .completed) : ¬current.Lost := by
  rintro (⟨node, member, failed⟩ | cancelled)
  · have finished := valid.stands.completed.mp completed node member
    simp [WorkflowNode.finished, failed] at finished
  · rw [completed] at cancelled
    cases cancelled

theorem Wired.folded (wired : Wired definition current.nodes)
    (folded : transitions.foldlM (advanceWorkflow definition) current = .ok next) :
    Wired definition next.nodes :=
  foldlM_holds (fun passed => Wired definition passed.nodes)
    (fun _ _ _ wired first => wired.moves (wired.advanced first)) folded wired

theorem Moves.lost (moves : Moves definition current transition next)
    (fails : transition.kind = .fail) : next.Lost := by
  obtain ⟨_, cancels, _, _⟩ | ⟨node, _, member, same, _, nodes, _⟩ := moves
  · rw [fails] at cancels
    cases cancels
  · refine .inl ⟨_, nodes ▸ List.mem_map_of_mem member,
      (change_state (by simp) (by simp)).mpr ?_⟩
    rw [writeAt, if_pos same, write_state, fails]

theorem failure_not_completed {early late : List WorkflowTransition}
    (fails : transition.kind = .fail)
    (folded : foldWorkflowInstance hash definition current (early ++ transition :: late) =
      .ok next) : next.state ≠ .completed := by
  intro completed
  obtain ⟨valid, moved, ends⟩ := foldWorkflowInstance_ok.mp folded
  rw [List.foldlM_append, bind_ok] at moved
  obtain ⟨middle, before, after⟩ := moved
  rw [List.foldlM_cons, bind_ok] at after
  obtain ⟨failed, first, rest⟩ := after
  have wired := valid.wired.folded before
  have moves := wired.advanced first
  exact ends.not_lost completed ((moves.lost fails).folded (wired.moves moves) rest)

/-- The instance can be completed: when nothing fails, and also when a node that a stage for
failures depends on fails once and the node of that stage is completed afterwards. -/
structure WorkflowInstance.Completable (hash : WorkflowDefinition → Digest)
    (definition : WorkflowDefinition) (current : WorkflowInstance) : Prop where
  unfailed : ∃ transitions next, (∀ transition ∈ transitions, transition.kind ≠ .fail) ∧
    foldWorkflowInstance hash definition current transitions = .ok next ∧ next.state = .completed
  repaired : ∀ node ∈ current.nodes, ∀ repair ∈ current.nodes, ∀ stage,
    workflowStageByID definition repair.stageID = some stage →
      stage.purpose = .repair ∨ stage.purpose = .replan →
        node.nodeID ∈ repair.predecessorNodeIDs →
          ∃ (early late : List WorkflowTransition) (failure completion : WorkflowTransition)
            (next : WorkflowInstance),
            (∀ transition ∈ early ++ late, transition.kind ≠ .fail) ∧
            failure.kind = .fail ∧ failure.nodeID = node.nodeID ∧
            failure.failureClassification = .correctableWork ∧
            completion ∈ late ∧ completion.kind = .complete ∧
            completion.nodeID = repair.nodeID ∧
            foldWorkflowInstance hash definition current (early ++ failure :: late) = .ok next ∧
            next.state = .completed

/-- A new instance can be completed, without failures and after a repaired one, exactly when its
definition has no stage for failures. -/
theorem repair_completable_iff (hash : WorkflowDefinition → Digest)
    (definition : WorkflowDefinition) (instanceID : UUIDv7) (root : AggregateRef)
    (budgetAccountID : UUIDv7) (nodeIDs : Table String UUIDv7)
    (valid : definition.validate hash = true) (founded : definition.Founded)
    (given : definition.Given instanceID root budgetAccountID nodeIDs) :
    (∃ created, newWorkflowInstance hash definition instanceID root budgetAccountID nodeIDs =
      .ok created ∧ created.Completable hash definition) ↔ definition.Plain := by
  have sound := definition.validate_sound valid
  have created := given.created sound valid founded
  constructor
  · rintro ⟨_, same, completable⟩ stage declared
    obtain rfl := Except.ok.inj (created.symm.trans same)
    rw [← not_or]
    intro purpose
    obtain ⟨predecessor, depends⟩ := List.exists_mem_of_ne_nil _ (founded stage declared purpose)
    obtain ⟨_, other, also, rfl⟩ := sound.known stage declared predecessor depends
    obtain ⟨early, late, failure, _, next, _, fails, _, _, _, _, _, folded, completed⟩ :=
      completable.repaired (other.firstNode nodeIDs) (List.mem_map_of_mem also)
        (stage.firstNode nodeIDs) (List.mem_map_of_mem declared) stage
        (sound.stageByID.mpr ⟨declared, rfl⟩) purpose (List.mem_map_of_mem depends)
    exact failure_not_completed fails folded completed
  · intro plain
    refine ⟨_, created, ⟨?_, ?_⟩⟩
    · have known : (⟨"demo::worker-1"⟩ : ActorFQN).valid = true := by decide
      have run : WorkflowRun hash definition (Clears definition) _ := .start created
      obtain ⟨transitions, next, kinds, folded, completed⟩ := run.clear.completes known plain
        (newWorkflowInstance_ok.mp created).2.2.2.2
      refine ⟨transitions, next, fun transition listed => ?_, folded, completed⟩
      rcases kinds transition listed with kind | kind | kind <;> simp [kind]
    · intro _ _ repair _ stage found purpose
      have other := plain stage (List.mem_of_find?_eq_some found)
      exact absurd purpose (by simp [other])

namespace Sample

def mendedFresh : WorkflowInstance :=
  workflowInstance 1 .active
    [workflowNode 10 "build" .ready, workflowNode 11 "mend" .pending [10]]

def correctable (revision number : Nat) : WorkflowTransition :=
  { giveUp revision number with failureClassification := .correctableWork }

/-- The build has failed, the repair is completed, and the instance is not. -/
def mendedDone : WorkflowInstance :=
  workflowInstance 7 .active
    [{ workflowTask 10 "build" .failed with
        progressDigest := some (.number 7), failureClassification := .correctableWork },
      { workflowTask 11 "mend" .completed [10] with progressDigest := some (.number 7) }]

/-- The repair of a build is completed, which does not complete the instance, and nothing does. -/
theorem mended_not_completed :
    newWorkflowInstance workflowHash mended (.number 1) ⟨.task, .number 2⟩ (.number 3)
        (Sample.nodeIDs [("build", 10), ("mend", 11)]) = .ok mendedFresh ∧
      foldWorkflowInstance workflowHash mended mendedFresh
        [workflowWork 2 .admitNode 10, workflowWork 3 .start 10, correctable 4 10,
          workflowWork 5 .admitNode 11, workflowWork 6 .start 11, workflowWork 7 .complete 11] =
            .ok mendedDone ∧
      mendedDone.state = .active ∧ ¬mendedFresh.Completable workflowHash mended := by
  refine ⟨by decide, by decide, rfl, fun completable => ?_⟩
  obtain ⟨early, late, failure, _, next, _, fails, _, _, _, _, _, folded, completed⟩ :=
    completable.repaired (workflowNode 10 "build" .ready) (by decide)
      (workflowNode 11 "mend" .pending [10]) (by decide) (workflowStage "mend" ["build"] .repair)
      (by decide) (.inl rfl) (by decide)
  exact failure_not_completed fails folded completed

theorem chain_completable :
    ∃ created, newWorkflowInstance workflowHash chain (.number 1) ⟨.task, .number 2⟩ (.number 3)
        (Sample.nodeIDs [("first", 10), ("second", 11)]) = .ok created ∧
      created.Completable workflowHash chain := by
  have plain : ∀ stage ∈ chain.stages, stage.purpose = .implementation := by decide
  refine (repair_completable_iff workflowHash chain _ _ _ _ (by decide)
    (fun stage listed purpose => ?_)
    ⟨rfl, rfl, rfl, rfl, by decide, by decide, by decide⟩).mpr fun stage listed => ?_
  · simp [plain stage listed] at purpose
  · simp [plain stage listed]

end Sample

end Tekroo.Kernel
