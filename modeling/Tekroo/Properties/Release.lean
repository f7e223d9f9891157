import Tekroo.Properties.Reviews
import Tekroo.Store.WorkHistory

namespace Tekroo.Kernel

open Lib Checked ReleasePlanSnapshot

/-! # Release plans and the epochs of their stories

A plan stays as it is when its story is reopened.  The author's approval is looked up by event id
among the events of all stories.
-/

theorem ReleasePlanCreatePayload.snapshot_ok {payload : ReleasePlanCreatePayload}
    {eventID : UUIDv7} {plan : ReleasePlanSnapshot}
    (created : payload.snapshot eventID = some plan) :
    plan.plan = payload ∧ plan.openingEventID = eventID := by
  simp only [ReleasePlanCreatePayload.snapshot, tests_iff] at created
  obtain ⟨_, rfl⟩ := created
  exact ⟨rfl, rfl⟩

def Store.PlansStamped (store : Store) : Prop :=
  ∀ reference plan, store.releasePlans.lookup reference = some plan →
    ∃ scope, store.Stamped plan.openingEventID plan.story plan.storyLifecycleEpoch scope

def Store.ApprovalsStamped (store : Store) : Prop :=
  ∀ event ∈ store.events, event.eventType = .storyReleaseApproved →
    ∃ scope, store.Stamped event.eventID event.aggregate event.lifecycleEpoch scope

namespace AppliedCommand

variable {evaluator : Evaluator} {copy current : Store}
  (applied : AppliedCommand evaluator copy current) (grown : copy.Extends current)

include grown

theorem creates_plan (type : applied.command.commandType = .releasePlanCreate) :
    ∃ value state approval, applied.command.payload = .releaseCreate value ∧
      current.states.lookup value.story = some state ∧
      state.lifecycleEpoch = value.storyLifecycleEpoch ∧
      current.event? value.authorApprovalEventID = some approval ∧
      approval.eventType = .storyReleaseApproved := by
  have policy := applied.commandTypePolicy_of type rfl
  simp only [commandTypePolicy, type] at policy
  obtain ⟨value, plan, story, state, approval, payload, created, _, related, found, epoch,
    accepted, approved, _⟩ := createReleasePlanPolicy_ok policy
  obtain ⟨rfl, named⟩ := applied.related_lookup related
  obtain ⟨same, _⟩ := ReleasePlanCreatePayload.snapshot_ok created
  rw [story, same] at named found
  have logged : ∃ event, copy.event? value.authorApprovalEventID = some event ∧
      event.eventType = .storyReleaseApproved := by
    obtain ⟨event, listed, rfl⟩ := Option.map_eq_some_iff.mp accepted
    exact ⟨event, listed, approved⟩
  obtain ⟨event, listed, approved⟩ := logged
  obtain ⟨later, log⟩ := grown.events
  refine ⟨value, state, event, payload,
    (grown.unmoved _ (applied.pinned named)).states.symm.trans found, epoch, ?_, approved⟩
  rw [Store.event?, ← log]
  exact find?_append_of_some listed

theorem plansStamped (held : current.StatesCurrent) (stamped : current.PlansStamped) :
    applied.after.PlansStamped := by
  have kept : ∀ reference plan, current.releasePlans.lookup reference = some plan →
      ∃ scope, applied.after.Stamped plan.openingEventID plan.story plan.storyLifecycleEpoch
        scope := by
    intro reference plan found
    obtain ⟨scope, stamp⟩ := stamped reference plan found
    exact ⟨scope, applied.stamped grown held stamp⟩
  intro reference plan found
  rcases applied.after_releasePlans reference with same | ⟨_, next, written, changed⟩
  · exact kept reference plan (same.symm.trans found)
  rw [written] at found
  cases found
  rcases changed with ⟨eventType, payload, carried, created⟩ | ⟨before, found, moved⟩
  · have type := applied.commandType_of eventType rfl
    obtain ⟨value, state, _, given, found, epoch, _⟩ := applied.creates_plan grown type
    rw [applied.event_payload (by simp [type]), given] at carried
    cases carried
    obtain ⟨same, eventID⟩ := ReleasePlanCreatePayload.snapshot_ok created
    have other : payload.story ≠ applied.target := by
      intro story
      have kind := applied.target_kind type rfl
      rw [← story] at kind
      cases kind
    refine ⟨state.scopeRevision, ?_⟩
    rw [story, storyLifecycleEpoch, same, eventID, ← epoch]
    exact applied.stamps (.inl rfl) ((applied.unmoved other).states.symm.trans found)
  · obtain ⟨same, eventID, _⟩ := applyReleaseEvent_plan moved
    rw [story, storyLifecycleEpoch, same, eventID]
    exact kept reference before found

theorem approvalsStamped (held : current.StatesCurrent) (stamped : current.ApprovalsStamped) :
    applied.after.ApprovalsStamped := by
  intro event member eventType
  rw [applied.after_events, List.mem_append, List.mem_singleton] at member
  rcases member with old | rfl
  · obtain ⟨scope, stamp⟩ := stamped event old eventType
    exact ⟨scope, applied.stamped grown held stamp⟩
  have type := applied.commandType_of eventType rfl
  have policy := applied.commandTypePolicy_of type rfl
  simp only [commandTypePolicy, type] at policy
  obtain ⟨state, loaded⟩ := approveReleasePolicy_ok policy
  obtain ⟨next, moved, _⟩ := applied.evolves grown held
    ((applied.snapshot_state grown held).symm.trans loaded)
  have kind := applied.target_kind type rfl
  have epoch : applied.event.lifecycleEpoch = next.lifecycleEpoch := by
    obtain ⟨phase4, _, _, _, epoch⟩ := applied.admitted.phase4
    rwa [moved] at epoch
  rw [epoch]
  exact ⟨next.scopeRevision, applied.stamps (.inl kind) (by simp [applied.after_states, moved])⟩

end AppliedCommand

section Runs

variable {evaluator : Evaluator} {allowed : Store → Store → StoreInput → Prop}
  {shared : Shared Store}

theorem Evaluator.Reaches.plansStamped (reached : evaluator.Reaches allowed shared) :
    shared.current.PlansStamped := by
  refine reached.holds (fun _ _ => by simp [Store.PlansStamped, Store.new])
    (fun same stamped reference plan found => ?_)
    (fun applied reached taken _ _ stamped =>
      applied.plansStamped (reached.growth taken) reached.statesCurrent stamped)
  rw [same.releasePlans] at found
  obtain ⟨scope, stamp⟩ := stamped reference plan found
  exact ⟨scope, stamp.congr same⟩

theorem Evaluator.Reaches.approvalsStamped (reached : evaluator.Reaches allowed shared) :
    shared.current.ApprovalsStamped := by
  refine reached.holds (fun _ _ => by simp [Store.ApprovalsStamped, Store.new])
    (fun same stamped event member eventType => ?_)
    (fun applied reached taken _ _ stamped =>
      applied.approvalsStamped (reached.growth taken) reached.statesCurrent stamped)
  rw [same.events] at member
  obtain ⟨scope, stamp⟩ := stamped event member eventType
  exact ⟨scope, stamp.congr same⟩

end Runs

theorem AppliedCommand.requests_acceptance {evaluator : Evaluator} {copy current : Store}
    (applied : AppliedCommand evaluator copy current) (grown : copy.Extends current)
    (type : applied.command.commandType = .storyRequestAcceptance) :
    ∃ value plan, applied.command.payload = .requestAcceptance value ∧
      current.releasePlans.lookup ⟨.releasePlan, value.releasePlanID⟩ = some plan ∧
      plan.story = applied.target := by
  have policy := applied.commandTypePolicy_of type rfl
  simp only [commandTypePolicy, type] at policy
  obtain ⟨value, plan, payload, found, story, named⟩ := requestAcceptancePolicy_ok policy
  exact ⟨value, plan, payload,
    (grown.unmoved _ (applied.pinned named)).releasePlans.symm.trans found, story⟩

/-- Whenever a story is accepted, the release plan it cites is of the story's own epoch exactly
when the story was not reopened since the plan was created. -/
theorem accepted_release_epoch_iff {evaluator : Evaluator} {shared : Shared Store}
    {copy : Store} {command : KernelCommand} {context : DecisionContext}
    (reached : evaluator.Reachable shared) (taken : copy ∈ shared.copies)
    (applies : evaluator.applies copy shared.current command context = true)
    (type : command.commandType = .storyRequestAcceptance) :
    ∃ value plan state, command.payload = .requestAcceptance value ∧
      shared.current.releasePlans.lookup ⟨.releasePlan, value.releasePlanID⟩ = some plan ∧
      plan.story = command.target ∧
      shared.current.states.lookup command.target = some state ∧
      (plan.storyLifecycleEpoch = state.lifecycleEpoch ↔
        shared.current.reopenedSince plan.openingEventID command.target = false) := by
  obtain ⟨applied, rfl, rfl, _⟩ := Evaluator.applies_update applies
  obtain ⟨value, plan, payload, found, story⟩ :=
    applied.requests_acceptance (reached.growth taken) type
  obtain ⟨scope, stamped⟩ := reached.plansStamped _ plan found
  obtain ⟨state, stored, _⟩ := stamped.state
  have current := stamped.epoch_iff
  rw [story] at stored current
  refine ⟨value, plan, state, payload, found, story, stored, ?_⟩
  rw [← show applied.target = applied.command.target from rfl, ← current]
  simp [stored, eq_comm]

namespace Sample

set_option maxRecDepth 4096

variable (value : Nat)

def finalizeReview (work : AggregateRef) (epoch result : Nat) : KernelCommand :=
  { command value .policy .completionReviewFinalize (review epoch) (revision 2)
      (.reviewFinalize ⟨(review epoch).id, work.kind, work.id, epoch, 1, 2, .pass, [.number result],
        [.number 1], epoch, reviewedProfile epoch, .number 0, .number 0⟩) with
    causation := [⟨.number 1, .causal⟩]
    evidenceRefs := [evidence] }

def requestCompletion (kind : PrincipalKind) (commandType : CommandType) (work : AggregateRef)
    (epoch expected finalized : Nat) : KernelCommand :=
  workCommand value kind commandType work epoch expected
    (.requestCompletion ⟨epoch, 1, (review epoch).id, 2, 1, .number finalized, [], [.number 1]⟩)

def reviewed (work : AggregateRef) (epoch expected : Nat) : List Entry :=
  [entry (openReview value work epoch expected (branch (principal .human) [.principal])),
    entry (recordResult (value + 1) .human epoch [.principal]),
    entry (finalizeReview (value + 2) work epoch (value + 1))]

def reopen (work : AggregateRef) (expected : Nat) (carry : Bool) : KernelCommand :=
  workCommand value .policy .workReopen work 1 expected (.reopen ⟨1, 2, carry, [.number 1]⟩)

def approveRelease : KernelCommand :=
  workCommand 23 .human .storyApproveRelease story 1 5
    (.approveRelease ⟨story.id, 1, 5, principal .human, [.number 1]⟩)

def plan (epoch : Nat) : AggregateRef := ⟨.releasePlan, .number (90 + epoch)⟩

def createPlan (value epoch expected : Nat) : KernelCommand :=
  { command value .policy .releasePlanCreate (plan epoch) create (.releaseCreate {
      releasePlanID := (plan epoch).id
      storyID := story.id
      storyLifecycleEpoch := epoch
      expectedStoryRevision := expected
      author := principal .human
      authorApprovalEventID := .number 23
      authorApprovalRevision := 1
      policyRevision := 1
      planDigest := .number 0
      evidenceIDs := [.number 1]
      mode := .notRequired
      noReleaseReason := "n" }) with
    preconditions := [⟨story, revision expected⟩]
    causation := [⟨.number 23, .response⟩]
    evidenceRefs := [evidence] }

def finalizePlan : KernelCommand :=
  { command 25 .policy .releasePlanFinalize (plan 1) (revision 1) (.releaseFinalize {
      releasePlanID := (plan 1).id
      expectedRevision := 1
      planDigest := .number 0
      mode := .notRequired
      terminalStatus := .notRequired
      evidenceIDs := [.number 1] }) with
    causation := [⟨.number 24, .causal⟩]
    evidenceRefs := [evidence] }

/-- The story is completed with a finalized plan, reopened and completed once more. -/
def completedTwice : List Entry :=
  activeStory ++ reviewed 19 story 1 4 ++
    [entry (requestCompletion 22 .human .storyRequestCompletion story 1 4 21),
      entry approveRelease, entry (createPlan 24 1 6), entry finalizePlan,
      entry (reopen 26 story 6 false)] ++
    reviewed 27 story 2 7 ++
    [entry (requestCompletion 30 .human .storyRequestCompletion story 2 7 29)]

def completedAgain : Shared Store := (evaluator.script start completedTwice).copy

theorem completedAgain_reachable : evaluator.Reachable completedAgain :=
  ((Evaluator.Reaches.start policy .none).script fun _ _ _ _ => trivial).copy

theorem completedAgain_taken : completedAgain.current ∈ completedAgain.copies :=
  Shared.current_copied _

def requestAcceptance : KernelCommand :=
  { workCommand 31 .human .storyRequestAcceptance story 2 8 (.requestAcceptance {
      lifecycleEpoch := 2
      releaseMode := .notRequired
      releasePlanID := (plan 1).id
      releasePlanRevision := 2
      releaseFinalizedEventID := .number 25
      evidenceIDs := [.number 1] }) with
    preconditions := [⟨plan 1, revision 2⟩]
    causation := [⟨.number 25, .response⟩] }

/-- The story is accepted in its second epoch on the plan of its first. -/
theorem accepted_on_earlier_release :
    evaluator.Reachable completedAgain ∧ completedAgain.current ∈ completedAgain.copies ∧
      evaluator.applies completedAgain.current completedAgain.current requestAcceptance
        (context 31) = true ∧
      (completedAgain.current.releasePlans.lookup (plan 1)).map (·.storyLifecycleEpoch) = some 1 ∧
      (completedAgain.current.states.lookup story).map (·.lifecycleEpoch) = some 2 :=
  ⟨completedAgain_reachable, completedAgain_taken, by decide⟩

theorem earlier_release_epoch_iff :
    ∃ value plan state, requestAcceptance.payload = .requestAcceptance value ∧
      completedAgain.current.releasePlans.lookup ⟨.releasePlan, value.releasePlanID⟩ = some plan ∧
      plan.story = requestAcceptance.target ∧
      completedAgain.current.states.lookup requestAcceptance.target = some state ∧
      (plan.storyLifecycleEpoch = state.lifecycleEpoch ↔
        completedAgain.current.reopenedSince plan.openingEventID requestAcceptance.target =
          false) := by
  have applies : evaluator.applies completedAgain.current completedAgain.current
    requestAcceptance (context 31) = true := by decide
  exact accepted_release_epoch_iff completedAgain_reachable completedAgain_taken applies rfl

end Sample

/-- Whenever a release plan is created, the approval it cites is one of the plan's story and
epoch exactly when the cited event is one of that story, which was not reopened since. -/
theorem release_plan_approved_iff {evaluator : Evaluator} {shared : Shared Store}
    {copy : Store} {command : KernelCommand} {context : DecisionContext}
    (reached : evaluator.Reachable shared) (taken : copy ∈ shared.copies)
    (applies : evaluator.applies copy shared.current command context = true)
    (type : command.commandType = .releasePlanCreate) :
    ∃ plan, command.payload = .releaseCreate plan ∧
      ((∃ event, shared.current.event? plan.authorApprovalEventID = some event ∧
          event.eventType = .storyReleaseApproved ∧ event.aggregate = plan.story ∧
          event.lifecycleEpoch = plan.storyLifecycleEpoch) ↔
        ((shared.current.event? plan.authorApprovalEventID).any fun event =>
            event.aggregate == plan.story) = true ∧
          shared.current.reopenedSince plan.authorApprovalEventID plan.story = false) := by
  obtain ⟨applied, rfl, rfl, _⟩ := Evaluator.applies_update applies
  obtain ⟨plan, state, approval, payload, stored, epoch, logged, approved⟩ :=
    applied.creates_plan (reached.growth taken) type
  refine ⟨plan, payload, ?_⟩
  simp only [logged, tests_iff, exists_eq_left', approved, true_and, Option.any_some]
  refine and_congr_right fun story => ?_
  have id : approval.eventID = plan.authorApprovalEventID := by
    simpa using List.find?_some logged
  obtain ⟨scope, stamped⟩ :=
    reached.approvalsStamped approval (List.mem_of_find?_eq_some logged) approved
  rw [id, story] at stamped
  rw [← stamped.epoch_iff]
  simp [stored, epoch, eq_comm]

namespace Sample

set_option maxRecDepth 4096

/-- The plan of the second epoch is created on the approval that the first epoch was given. -/
theorem planned_on_earlier_approval :
    evaluator.Reachable completedAgain ∧ completedAgain.current ∈ completedAgain.copies ∧
      evaluator.applies completedAgain.current completedAgain.current (createPlan 32 2 8)
        (context 32) = true ∧
      (completedAgain.current.event? (.number 23)).map
        (fun event => (event.aggregate, event.lifecycleEpoch)) = some (story, 1) ∧
      (completedAgain.current.states.lookup story).map (·.lifecycleEpoch) = some 2 :=
  ⟨completedAgain_reachable, completedAgain_taken, by decide⟩

theorem earlier_approval_iff :
    ∃ plan, (createPlan 32 2 8).payload = .releaseCreate plan ∧
      ((∃ event, completedAgain.current.event? plan.authorApprovalEventID = some event ∧
          event.eventType = .storyReleaseApproved ∧ event.aggregate = plan.story ∧
          event.lifecycleEpoch = plan.storyLifecycleEpoch) ↔
        ((completedAgain.current.event? plan.authorApprovalEventID).any fun event =>
            event.aggregate == plan.story) = true ∧
          completedAgain.current.reopenedSince plan.authorApprovalEventID plan.story = false) := by
  have applies : evaluator.applies completedAgain.current completedAgain.current
    (createPlan 32 2 8) (context 32) = true := by decide
  exact release_plan_approved_iff completedAgain_reachable completedAgain_taken applies rfl

end Sample

end Tekroo.Kernel
