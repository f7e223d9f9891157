import Tekroo.Kernel.Evaluator
import Tekroo.Lib.Table

namespace Tekroo.Kernel

open Lib Checked

/-! # What `Evaluate` can return

The only place where the checks of `Evaluate` are taken apart.
-/

variable {evaluator : Evaluator} {command : KernelCommand} {snapshot : Snapshot}
  {context : DecisionContext} {definition : CommandDefinition}
  {authorization : AuthorizationResult} {acceptance : Acceptance} {decision : Decision}

structure Evaluator.Admitted (evaluator : Evaluator) (command : KernelCommand)
    (snapshot : Snapshot) (context : DecisionContext) (definition : CommandDefinition)
    (authorization : AuthorizationResult) (acceptance : Acceptance) : Prop where
  policyRevision : command.expectedPolicyRevision = snapshot.authorization.revision
  policyDigest : snapshot.authorization.policyDigest = context.provenance.policyDigest
  policyBasis : snapshot.authorization.revision = context.provenance.policyRevision
  allowed : authorization.allowed = true
  attribution : actorAttributionValid command snapshot definition.executionRequired = true
  creation : commandCreatesAggregate command = command.expectedRevision.mustNotExist
  present : snapshot.present = !commandCreatesAggregate command
  revision : commandCreatesAggregate command = false →
    snapshot.revision = command.expectedRevision.revision
  epoch : expectedLifecycleEpochMatches command snapshot = true
  preconditions : preconditionsMatch command.preconditions snapshot.related = true
  registry : validateExecutionRegistryCommand command snapshot = .ok ()
  parents : validDAGParents command definition snapshot = true
  evidence : validEvidenceRefs command snapshot = true
  phase4 : ∃ phase4, phase4Contribution command snapshot context = .ok phase4 ∧
    acceptance.payload = phase4.eventPayload ∧ acceptance.workBudget = phase4.workBudget ∧
    acceptance.lifecycleEpoch =
      (acceptance.nextState.map (·.lifecycleEpoch)).getD phase4.lifecycleEpoch
  policy : validateCommandPolicy command snapshot context = .ok ()
  attempt : evaluateAttemptPolicy evaluator.hashes command snapshot =
    .ok acceptance.attemptBudget
  evolved : evolveState command snapshot context.eventID =
    .ok (acceptance.nextState, acceptance.nextRevision)
  eventType : definition.eventTypes = [acceptance.eventType]

theorem checkTarget_ok :
    checkTarget command snapshot authorization = .ok () ↔
    commandCreatesAggregate command = command.expectedRevision.mustNotExist ∧
      snapshot.present = !commandCreatesAggregate command ∧
      (commandCreatesAggregate command = false →
        snapshot.revision = command.expectedRevision.revision) ∧
      expectedLifecycleEpochMatches command snapshot = true ∧
      preconditionsMatch command.preconditions snapshot.related = true := by
  cases fresh : command.expectedRevision.mustNotExist <;>
    simp [checkTarget, fresh] <;> grind

theorem Evaluator.examine_ok
    (admitted : evaluator.examine command snapshot context definition authorization =
      .ok acceptance) :
    evaluator.Admitted command snapshot context definition authorization acceptance := by
  simp only [Evaluator.examine, chain_ok] at admitted
  obtain ⟨policyRevision, allowed, attribution, target, registry, parents, evidence, phase4,
    contributed, policy, attempt, attempted, ⟨nextState, nextRevision⟩, evolved, completed⟩ :=
    admitted
  obtain ⟨creation, present, revision, epoch, preconditions⟩ := checkTarget_ok.mp target
  split at completed
  · next eventType types =>
    simp only [pure_ok] at completed
    subst completed
    simp only [tests_iff, Bool.not_eq_eq_eq_not, Bool.not_false] at *
    exact {
      policyRevision := policyRevision.1.1
      policyDigest := policyRevision.1.2
      policyBasis := policyRevision.2
      allowed, attribution, creation, present, revision, epoch, preconditions, registry,
      parents, evidence, policy, attempt := attempted, evolved, eventType := types
      phase4 := ⟨phase4, contributed, rfl, rfl, by cases nextState <;> rfl⟩ }
  · simp at completed

theorem Evaluator.Admitted.examined
    (admitted : evaluator.Admitted command snapshot context definition authorization acceptance) :
    evaluator.examine command snapshot context definition authorization = .ok acceptance := by
  obtain ⟨phase4, contributed, payload, workBudget, epoch⟩ := admitted.phase4
  have target : checkTarget command snapshot authorization = .ok () :=
    checkTarget_ok.mpr ⟨admitted.creation, admitted.present, admitted.revision, admitted.epoch,
      admitted.preconditions⟩
  simp only [Evaluator.examine, chain_ok]
  refine ⟨by simp [admitted.policyRevision, admitted.policyDigest, admitted.policyBasis],
    by simp [admitted.allowed], by simp [admitted.attribution], target, admitted.registry,
    by simp [admitted.parents], by simp [admitted.evidence], phase4, contributed,
    admitted.policy, _, admitted.attempt, _, admitted.evolved, ?_⟩
  rw [admitted.eventType, pure_ok]
  obtain ⟨nextState, _⟩ := acceptance
  cases nextState <;> simp_all

theorem phase4Contribution_ok {result : Phase4PolicyDecision}
    (contributed : phase4Contribution command snapshot context = .ok result) :
    0 < result.lifecycleEpoch ∧ (command.commandType ≠ .workInvocationAuthorize →
      result.eventPayload = command.payload ∧ result.workBudget = none) := by
  unfold phase4Contribution at contributed
  cases handled : evaluatePhase4Command command snapshot context with
  | none =>
    simp only [handled, Except.ok.injEq] at contributed
    subst contributed
    exact ⟨Nat.one_pos, fun _ => ⟨rfl, rfl⟩⟩
  | some outcome =>
    simp only [handled] at contributed
    subst contributed
    unfold evaluatePhase4Command at handled
    split at handled
    · obtain ⟨_, account, _, opened, _, rfl⟩ := createBudgetPolicy_ok (Option.some.inj handled)
      exact ⟨WorkBudgetAccount.epoch_of_valid (WorkBudgetPayload.account_valid opened),
        fun _ => ⟨rfl, rfl⟩⟩
    · obtain ⟨_, account, _, _, valid, _, rfl⟩ := amendBudgetPolicy_ok (Option.some.inj handled)
      exact ⟨WorkBudgetAccount.epoch_of_valid valid, fun _ => ⟨rfl, rfl⟩⟩
    · obtain ⟨_, binding, _, parsed, _, _, _, rfl⟩ :=
        bindBudgetPolicy_ok (Option.some.inj handled)
      exact ⟨TaskWorkBudgetBinding.epoch_of_valid (TaskWorkBudgetPayload.binding_valid parsed),
        fun _ => ⟨rfl, rfl⟩⟩
    · obtain ⟨_, scope, _, parsed, _, _, _, rfl⟩ :=
        bindOperationalScopePolicy_ok (Option.some.inj handled)
      exact ⟨TaskOperationalScope.epoch_of_valid
        (TaskOperationalScopePayload.scope_valid parsed), fun _ => ⟨rfl, rfl⟩⟩
    · next type =>
      obtain ⟨_, _, invocation, _, _, _, _, planned, rfl⟩ :=
        authorizeInvocationPolicy_ok (Option.some.inj handled)
      exact ⟨WorkInvocation.epoch_of_valid planned.valid, fun other => absurd type other⟩
    · obtain ⟨_, _, moved⟩ := Option.map_eq_some_iff.mp handled
      obtain ⟨_, _, valid, _, rfl⟩ := invocationTransitionPolicy_ok moved
      exact ⟨WorkInvocation.epoch_of_valid valid, fun _ => ⟨rfl, rfl⟩⟩

inductive Evaluator.Decides (evaluator : Evaluator) (command : KernelCommand)
    (snapshot : Snapshot) (context : DecisionContext) : Decision → Prop
  | unresolved {refusal : Refusal} (resolved : evaluator.resolve command = .error refusal)
      (basis : basisAndContextValid evaluator.hashes context.unattributed = true) :
      Decides evaluator command snapshot context
        (rejectedDecision evaluator.hashes command context.unattributed refusal)
  | refused {definition : CommandDefinition} {refusal : Refusal}
      (resolved : evaluator.resolve command = .ok definition)
      (refusing : evaluator.examine command snapshot
        (context.authorizedBy (snapshot.authorize command context)) definition
        (snapshot.authorize command context) = .error refusal)
      (basis : basisAndContextValid evaluator.hashes
        (context.authorizedBy (snapshot.authorize command context)) = true) :
      Decides evaluator command snapshot context
        (rejectedAuthorizedDecision evaluator.hashes command
          (context.authorizedBy (snapshot.authorize command context)) refusal
          (authorityDecision command snapshot (snapshot.authorize command context)))
  | accepted {definition : CommandDefinition} {acceptance : Acceptance}
      (resolved : evaluator.resolve command = .ok definition)
      (admitted : evaluator.Admitted command snapshot
        (context.authorizedBy (snapshot.authorize command context)) definition
        (snapshot.authorize command context) acceptance)
      (basis : basisAndContextValid evaluator.hashes
        (context.authorizedBy (snapshot.authorize command context)) = true) :
      Decides evaluator command snapshot context
        (acceptedDecision evaluator.hashes command definition
          (context.authorizedBy (snapshot.authorize command context)) acceptance
          (authorityDecision command snapshot (snapshot.authorize command context)))

theorem buildDecisionProvenance_ok {hashes : Hashes} {fingerprint : Digest}
    {record : DecisionProvenance}
    (built : buildDecisionProvenance hashes command fingerprint context = some record) :
    basisAndContextValid hashes context = true := by
  simp only [buildDecisionProvenance, tests_iff] at built
  exact built.1.1

theorem Evaluator.evaluate_ok
    (evaluated : evaluator.evaluate command snapshot context = .ok decision) :
    validateDecisionContext evaluator.hashes context = true ∧
      evaluator.Decides command snapshot context decision := by
  simp only [Evaluator.evaluate, chain_ok] at evaluated
  obtain ⟨valid, _, basis, decided⟩ := evaluated
  refine ⟨by simpa using valid, ?_⟩
  split at decided
  · next refusal resolved =>
    simp only [pure_ok] at decided
    subst decided
    exact .unresolved resolved (buildDecisionProvenance_ok basis)
  · next definition resolved =>
    simp only [chain_ok] at decided
    obtain ⟨_, basis, decided⟩ := decided
    have basis := buildDecisionProvenance_ok basis
    split at decided
    · next refusal refusing =>
      simp only [pure_ok] at decided
      subst decided
      exact .refused resolved refusing basis
    · next acceptance admitted =>
      simp only [pure_ok] at decided
      subst decided
      exact .accepted resolved (examine_ok admitted) basis

theorem Evaluator.resolve_ok (resolved : evaluator.resolve command = .ok definition) :
    validateEnvelope command = .ok () ∧
      evaluator.catalogue.resolveCommand command = .ok definition := by
  unfold Evaluator.resolve at resolved
  split at resolved
  · simp at resolved
  · split at resolved <;> simp_all

theorem executionGuards_lookup {actor : ActorFQN} {execution : ExecutionTuple}
    (guarded : (executionGuards command).lookup actor = some execution) :
    (command.actorFQN = some actor ∧ command.execution = some execution) ∨
      executionRegistryExpectation command = some (.current actor execution) := by
  unfold executionGuards at guarded
  extract_lets attributed at guarded
  have own : ∀ {actor execution}, attributed.lookup actor = some execution →
      command.actorFQN = some actor ∧ command.execution = some execution := by
    intro actor execution listed
    unfold attributed at listed
    split at listed
    · next named tuple actorFQN running =>
      rw [lookup_insert_eq_ite] at listed
      split at listed
      · next same =>
        cases listed
        exact ⟨same ▸ actorFQN, running⟩
      · cases listed
    · cases listed
  cases expected : executionRegistryExpectation command with
  | none =>
    simp only [expected] at guarded
    exact .inl (own guarded)
  | some expectation =>
    cases expectation with
    | absent newcomer =>
      simp only [expected] at guarded
      exact .inl (own guarded)
    | current replaced prior =>
      simp only [expected] at guarded
      rw [lookup_insert_eq_ite] at guarded
      split at guarded
      · next same =>
        cases guarded
        exact .inr (by rw [same])
      · exact .inl (own guarded)

structure KernelCommand.Enveloped (command : KernelCommand) : Prop where
  contract : command.contractManifest = contractIdentity
  commandType : command.commandType ≠ .other ""
  commandID : command.commandID.valid = true
  target : command.target.valid = true
  authority : command.authority.valid = true
  actor : command.actorFQN.all ActorFQN.valid = true
  execution : command.execution.all ExecutionTuple.valid = true
  parents : ∀ parent ∈ command.causation,
    (parent.parentEventID.valid && parent.edgeKind.valid) = true
  evidence : ∀ reference ∈ command.evidenceRefs,
    (reference.evidenceID.valid && reference.sha256.valid) = true

theorem validateEnvelope_ok (valid : validateEnvelope command = .ok ()) : command.Enveloped := by
  simp only [validateEnvelope, chain_ok, tests_iff, beq_eq_false_iff_ne] at valid
  obtain ⟨⟨⟨contract, commandType⟩, _⟩, ⟨⟨commandID, target⟩, authority⟩, actor, execution, _, _,
    _, _, _, _, parents, evidence⟩ := valid
  exact {
    contract, commandType, commandID, target, authority, actor, execution
    parents := (distinct_ok.mp parents).1
    evidence := (distinct_ok.mp evidence).1 }

end Tekroo.Kernel
