import Tekroo.Properties.Serial
import Tekroo.Store.Projected
import Tekroo.Store.Script

namespace Tekroo.Kernel

open Lib Checked

/-! # Which decisions leave a receipt

A rejection is held to the preconditions of the command, also when they are what it was rejected
for.
-/

section Rejected

variable {hashes : Hashes} {store : Store} {command : KernelCommand} {context : DecisionContext}
  {refusal : Refusal} {authority : AuthorityDecision} {expected : Snapshot}

theorem rejectedDecision_wellFormed (guards : DecisionGuards) (envelope : command.Enveloped)
    (basis : basisAndContextValid hashes context = true)
    (principal : authority.principal = command.authority)
    (agrees : authority.agreesWith context.provenance = true) :
    { rejectedDecision hashes command context refusal with
      authority, guards : Decision }.WellFormed hashes expected ↔
      (command.execution.isSome → command.actorFQN.isSome) := by
  have valid : (decisionProvenance command (commandFingerprint hashes command) context).valid
      hashes = true ↔ _ := decisionProvenance_valid envelope rfl basis
  rw [← valid]
  constructor
  · intro formed
    exact formed.provenance
  · intro provenance
    exact {
      fingerprint := rfl
      scope := rfl
      tuple := by
        have outcome := refusal.outcome.code_ne_applied
        simp [validDecisionTuple, rejectedDecision, receiptFor, envelope.commandID,
          envelope.target, principal, envelope.authority, outcome]
      provenance
      provenanceDigest := rfl
      provenanceCommand := rfl
      provenanceFingerprint := rfl
      authority := agrees
      eventDigests := List.forall_mem_nil _
      stateRevision := by rintro _ ⟨⟩
      positive := by rintro ⟨⟩ }

variable {preconditions : List AggregatePrecondition} {policyDigest : Digest} {policyRevision : Nat}

theorem rejectedDecision_current
    (policy : policyDigest.valid = true →
      store.authorizationPolicy.policyDigest = policyDigest ∧
        store.authorizationPolicy.revision = policyRevision) :
    store.Current (store.loadDecision command)
      { rejectedDecision hashes command context refusal with
        authority, guards := { preconditions, policyDigest, policyRevision } } ↔
      ∀ precondition ∈ preconditions, store.preconditionHolds precondition = true := by
  constructor
  · intro current
    exact current.preconditions
  · intro held
    exact {
      present := rfl
      revision := by
        intro revision found
        change revision = (store.revisions.lookup command.target).getD 0
        rw [show store.revisions.lookup command.target = some revision from found]
        rfl
      fresh := List.forall_mem_nil _
      executions := List.forall_mem_nil _
      absentExecutions := List.forall_mem_nil _
      parents := List.forall_mem_nil _
      evidence := List.forall_mem_nil _
      preconditions := held
      policy
      reviewKeys := List.forall_mem_nil _
      escalationKeys := List.forall_mem_nil _
      releaseKeys := List.forall_mem_nil _
      variantKeys := List.forall_mem_nil _ }

theorem rejectedDecision_applied (envelope : command.Enveloped)
    (basis : basisAndContextValid hashes context = true)
    (principal : authority.principal = command.authority)
    (agrees : authority.agreesWith context.provenance = true)
    (policy : policyDigest.valid = true →
      store.authorizationPolicy.policyDigest = policyDigest ∧
        store.authorizationPolicy.revision = policyRevision) :
    (store.commit hashes (store.loadDecision command)
      { rejectedDecision hashes command context refusal with
        authority, guards := { preconditions, policyDigest, policyRevision } }).2.applied = true ↔
      store.faultPoint.beforeWrite = false ∧
        store.receipts.lookup command.commandID = none ∧
        store.idempotency.lookup (idempotencyScopeDigest hashes command) = none ∧
        (command.execution.isSome → command.actorFQN.isSome) ∧
        ∀ precondition ∈ preconditions, store.preconditionHolds precondition = true := by
  rw [Store.commit_applied_iff]
  constructor
  · rintro ⟨_, ready⟩
    exact ⟨ready.noFault, ready.newCommand, ready.newScope,
      (rejectedDecision_wellFormed _ envelope basis principal agrees).mp ready.formed,
      (rejectedDecision_current policy).mp ready.current⟩
  · rintro ⟨noFault, newCommand, newScope, attributed, held⟩
    exact ⟨⟨[], [], [], [], []⟩, {
      formed := (rejectedDecision_wellFormed _ envelope basis principal agrees).mpr attributed
      newCommand, newScope, noFault
      current := (rejectedDecision_current policy).mpr held
      budgets := rfl
      prepared := rfl }⟩

end Rejected

def Evaluator.Resolves (evaluator : Evaluator) (command : KernelCommand) : Prop :=
  ∃ definition, evaluator.catalogue.resolveCommand command = .ok definition ∧
    definition.authorityKinds.contains command.authority.kind = true ∧
    command.expectedCatalogueRevision = catalogueRevision

theorem Evaluator.resolves_iff {evaluator : Evaluator} {command : KernelCommand}
    (enveloped : validateEnvelope command = .ok ()) :
    evaluator.Resolves command ↔ ∃ definition, evaluator.resolve command = .ok definition := by
  unfold Resolves resolve
  simp only [enveloped]
  cases resolved : evaluator.catalogue.resolveCommand command with
  | error reason => cases reason <;> simp
  | ok definition => simp

def Evaluator.Admits (evaluator : Evaluator) (command : KernelCommand) (snapshot : Snapshot)
    (context : DecisionContext) : Prop :=
  ∃ definition acceptance, evaluator.resolve command = .ok definition ∧
    evaluator.Admitted command snapshot
      (context.authorizedBy (snapshot.authorize command context)) definition
      (snapshot.authorize command context) acceptance

/-- What a command needs in order to leave a receipt.  A rejection has no event, so only an
admitted command needs a new event id. -/
structure Store.Recordable (store : Store) (evaluator : Evaluator) (command : KernelCommand)
    (context : DecisionContext) : Prop where
  noFault : store.faultPoint.beforeWrite = false
  newCommand : store.receipts.lookup command.commandID = none
  newScope : store.idempotency.lookup (idempotencyScopeDigest evaluator.hashes command) = none
  attributed : command.execution.isSome → command.actorFQN.isSome
  preconditions : evaluator.Resolves command →
    ∀ precondition ∈ command.preconditions, store.preconditionHolds precondition = true
  newEvent : evaluator.Admits command (store.loadDecision command) context →
    store.event? context.eventID = none

theorem decision_applied_iff {evaluator : Evaluator} {store : Store} {command : KernelCommand}
    {context : DecisionContext} {decision : Decision} (intact : store.Intact)
    (enveloped : validateEnvelope command = .ok ())
    (digest : context.provenance.policyDigest = store.authorizationPolicy.policyDigest)
    (revision : context.provenance.policyRevision = store.authorizationPolicy.revision)
    (decides : evaluator.Decides command (store.loadDecision command) context decision)
    (contextValid : validateDecisionContext evaluator.hashes context = true) :
    (store.commit evaluator.hashes (store.loadDecision command) decision).2.applied = true ↔
      store.Recordable evaluator command context := by
  have envelope := validateEnvelope_ok enveloped
  have resolves : evaluator.Resolves command ↔ _ := Evaluator.resolves_iff enveloped
  cases decides with
  | unresolved resolved basis =>
    have unknown : ¬ evaluator.Resolves command := by
      rw [resolves, resolved]
      rintro ⟨_, ⟨⟩⟩
    -- the decision has no guards, so it keeps no precondition either
    refine (rejectedDecision_applied envelope basis rfl rfl (by rintro ⟨⟩)).trans ?_
    constructor
    · rintro ⟨noFault, newCommand, newScope, attributed, _⟩
      refine ⟨noFault, newCommand, newScope, attributed, fun known => absurd known unknown, ?_⟩
      rintro ⟨_, _, known, _⟩
      exact absurd (resolved.symm.trans known) (by simp)
    · intro recordable
      exact ⟨recordable.noFault, recordable.newCommand, recordable.newScope,
        recordable.attributed, List.forall_mem_nil _⟩
  | refused resolved refusing basis =>
    have known : evaluator.Resolves command := resolves.mpr ⟨_, resolved⟩
    refine (rejectedDecision_applied envelope basis rfl
      (authorityDecision_agrees digest.symm revision.symm) fun _ => ⟨rfl, rfl⟩).trans ?_
    constructor
    · rintro ⟨noFault, newCommand, newScope, attributed, held⟩
      refine ⟨noFault, newCommand, newScope, attributed, fun _ => held, ?_⟩
      rintro ⟨definition, acceptance, same, admitted⟩
      cases resolved.symm.trans same
      exact absurd (refusing.symm.trans admitted.examined) (by simp)
    · intro recordable
      exact ⟨recordable.noFault, recordable.newCommand, recordable.newScope,
        recordable.attributed, recordable.preconditions known⟩
  | accepted resolved admitted basis =>
    let accepted : AcceptedCommand evaluator store :=
      ⟨command, context, _, _, contextValid, resolved, admitted, basis⟩
    rw [Store.commit_applied_iff]
    constructor
    · rintro ⟨_, ready⟩
      exact ⟨ready.noFault, ready.newCommand, ready.newScope, accepted.attributed,
        fun _ => ready.current.preconditions, fun _ => ready.current.fresh _ List.mem_cons_self⟩
    · intro recordable
      exact accepted.prepared intact (recordable.newEvent ⟨_, _, resolved, admitted⟩)
        recordable.newCommand recordable.newScope recordable.noFault

/-- The decision on a command is written, with its receipt, exactly when the command is
recordable in the store that it was decided on. -/
theorem decision_recorded_iff {evaluator : Evaluator} {shared : Shared Store}
    {command : KernelCommand} {context : DecisionContext} {decision : Decision}
    (reached : evaluator.Reachable shared) (enveloped : validateEnvelope command = .ok ())
    (digest : context.provenance.policyDigest = shared.current.authorizationPolicy.policyDigest)
    (revision : context.provenance.policyRevision = shared.current.authorizationPolicy.revision)
    (evaluated : evaluator.evaluate command (shared.current.loadDecision command) context =
      .ok decision) :
    ((shared.current.commit evaluator.hashes (shared.current.loadDecision command)
        decision).2.applied = true ∧
      (shared.current.commit evaluator.hashes (shared.current.loadDecision command)
        decision).1.receipts.lookup command.commandID = some decision.receipt) ↔
      shared.current.Recordable evaluator command context := by
  obtain ⟨contextValid, decides⟩ := Evaluator.evaluate_ok evaluated
  have identity : decision.receipt.commandID = command.commandID := by cases decides <;> rfl
  rw [← decision_applied_iff reached.intact enveloped digest revision decides contextValid,
    ← identity]
  exact ⟨fun recorded => recorded.1, fun applied => ⟨applied, Store.commit_receipt applied⟩⟩

namespace Sample

/-- The creation of a task that rests on another task, which does not exist. -/
def createDependent : KernelCommand :=
  { command 3 .policy .taskCreate ⟨.task, .number 20⟩ create (.unread "") with
    preconditions := [⟨⟨.task, .number 25⟩, revision 1⟩] }

theorem start_reachable : evaluator.Reachable start := .start policy .none

/-- The command is rejected, and the rejection is not written either. -/
theorem precondition_rejection_lost :
    evaluator.Reachable start ∧ validateEnvelope createDependent = .ok () ∧
      ∃ decision,
        evaluator.evaluate createDependent (start.current.loadDecision createDependent)
          (context 3) = .ok decision ∧
        decision.receipt.outcomeCode = .rejectedConflict ∧
        (start.current.commit evaluator.hashes (start.current.loadDecision createDependent)
          decision).2.applied = false := by
  have lost : (evaluator.evaluate createDependent (start.current.loadDecision createDependent)
      (context 3)).toOption.any fun decision =>
        decision.receipt.outcomeCode == .rejectedConflict &&
          !(start.current.commit evaluator.hashes
            (start.current.loadDecision createDependent) decision).2.applied := by decide
  rcases evaluated : evaluator.evaluate createDependent
    (start.current.loadDecision createDependent) (context 3) with _ | decision
  · simp [evaluated, Except.toOption] at lost
  · simp only [evaluated, Except.toOption, Option.any_some, tests_iff] at lost
    exact ⟨start_reachable, rfl, decision, rfl, lost⟩

theorem precondition_rejection_recorded_iff :
    ∃ decision,
      evaluator.evaluate createDependent (start.current.loadDecision createDependent)
        (context 3) = .ok decision ∧
      (((start.current.commit evaluator.hashes (start.current.loadDecision createDependent)
          decision).2.applied = true ∧
        (start.current.commit evaluator.hashes (start.current.loadDecision createDependent)
          decision).1.receipts.lookup createDependent.commandID = some decision.receipt) ↔
        start.current.Recordable evaluator createDependent (context 3)) := by
  have evaluated : (evaluator.evaluate createDependent
    (start.current.loadDecision createDependent) (context 3)).isOk = true := by decide
  cases decided : evaluator.evaluate createDependent
      (start.current.loadDecision createDependent) (context 3) with
  | ok decision =>
    exact ⟨decision, rfl, decision_recorded_iff start_reachable rfl rfl rfl decided⟩
  | error reason =>
    rw [decided] at evaluated
    cases evaluated

end Sample

end Tekroo.Kernel
