import Tekroo.Store.Acceptance
import Tekroo.Store.Script

namespace Tekroo.Kernel

open Checked Evaluator

/-! # What a refusal tells -/

/-- The target, or what the command presupposes beside it, is not as an update expects. -/
def Snapshot.Unexpected (snapshot : Snapshot) (command : KernelCommand) : Prop :=
  snapshot.present = false ∨ snapshot.revision ≠ command.expectedRevision.revision ∨
    expectedLifecycleEpochMatches command snapshot = false ∨
    preconditionsMatch command.preconditions snapshot.related = false

instance (snapshot : Snapshot) (command : KernelCommand) :
    Decidable (snapshot.Unexpected command) :=
  inferInstanceAs (Decidable (_ ∨ _ ∨ _ ∨ _))

def Decision.answer (decision : Decision) : OutcomeCode × String :=
  (decision.receipt.outcomeCode, decision.receipt.reasonCode)

section Blind

variable {evaluator : Evaluator} {command : KernelCommand} {snapshot : Snapshot}
  {context : DecisionContext} {definition : CommandDefinition} {authorization : AuthorizationResult}
  (update : command.expectedRevision.mustNotExist = false)
  (blind : authorization.canReadTarget = false) (unexpected : snapshot.Unexpected command)

include update blind unexpected

theorem checkTarget_blind :
    checkTarget command snapshot authorization = .error (
      if commandCreatesAggregate command then .revisionConflict else .unauthorized) := by
  have refused : (!snapshot.present || (snapshot.revision != command.expectedRevision.revision ||
      (!expectedLifecycleEpochMatches command snapshot ||
        !preconditionsMatch command.preconditions snapshot.related))) = true := by
    simpa [Snapshot.Unexpected] using unexpected
  simp only [checkTarget, update, AuthorizationResult.visible, blind, Bool.false_eq_true, if_false,
    refuse_or, refused]
  cases commandCreatesAggregate command <;> rfl

theorem Evaluator.examine_blind :
    evaluator.examine command snapshot context definition authorization = (do
      refuse (command.expectedPolicyRevision != snapshot.authorization.revision ||
        snapshot.authorization.policyDigest != context.provenance.policyDigest ||
        snapshot.authorization.revision != context.provenance.policyRevision)
        ⟨.rejectedConflict, "POLICY_REVISION_CONFLICT"⟩
      refuse (!authorization.allowed) .unauthorized
      refuse (!actorAttributionValid command snapshot definition.executionRequired) .staleExecution
      .error (if commandCreatesAggregate command then .revisionConflict else .unauthorized)) := by
  rw [examine, checkTarget_blind update blind unexpected]
  rfl

end Blind

/-- A principal that may not read the target of an update gets one answer for every state of the
target that the update does not expect, as long as the policy, its verdict and the current
executions are the same. -/
theorem unreadable_target_hidden (evaluator : Evaluator) (command : KernelCommand)
    (context : DecisionContext) (first second : Snapshot)
    (update : command.expectedRevision.mustNotExist = false)
    (policies : first.authorization = second.authorization)
    (verdicts : (first.authorize command context).allowed =
      (second.authorize command context).allowed)
    (executions : first.currentExecutions = second.currentExecutions)
    (blind : (first.authorize command context).canReadTarget = false ∧
      (second.authorize command context).canReadTarget = false)
    (unexpected : first.Unexpected command ∧ second.Unexpected command) :
    (evaluator.evaluate command first context).map Decision.answer =
        (evaluator.evaluate command second context).map Decision.answer ∧
      (validateDecisionContext evaluator.hashes context = true →
        ∃ decision, evaluator.evaluate command first context = .ok decision) := by
  cases valid : validateDecisionContext evaluator.hashes context with
  | false =>
    simp only [evaluate, valid]
    exact ⟨rfl, by simp⟩
  | true =>
    refine ⟨?_, fun _ => ⟨_, evaluate_eq valid⟩⟩
    rw [evaluate_eq valid, evaluate_eq valid]
    cases evaluator.resolve command with
    | error refusal => rfl
    | ok definition =>
      have attributed :
          actorAttributionValid command first = actorAttributionValid command second := by
        funext required
        simp only [actorAttributionValid, executions]
      simp only [examine_blind update blind.1 unexpected.1,
        examine_blind update blind.2 unexpected.2, policies, verdicts, attributed,
        DecisionContext.authorizedBy, DecisionContext.attributed]
      -- what is left of the two runs differs in the digests of the provenance only
      generalize (refuse _ _ >>= _ : Except Refusal Acceptance) = examined
      cases examined with
      | error refusal => rfl
      | ok acceptance => rfl

namespace Sample

def blindPolicy : AuthorizationPolicy :=
  { policy with grants := policy.grants.map fun grant =>
      { grant with scope := { scope with canReadTarget := false } } }

def authorizeStory : KernelCommand :=
  command 9 .human .storyAuthorize ⟨.story, .number 10⟩ (revision 1) (.unread "")

def missing : Snapshot := (Store.new blindPolicy .none).loadDecision authorizeStory

def moved : Snapshot := { missing with present := true, revision := 3 }

/-- The same refusal for a missing story and for one at another revision. -/
theorem missing_moved_alike :
    (evaluator.evaluate authorizeStory missing (context 9)).map Decision.answer =
      (evaluator.evaluate authorizeStory moved (context 9)).map Decision.answer :=
  (unreadable_target_hidden evaluator authorizeStory (context 9) missing moved rfl rfl
    (by decide) rfl (by decide) (by decide)).1

end Sample

end Tekroo.Kernel
