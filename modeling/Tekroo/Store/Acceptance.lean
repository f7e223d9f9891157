import Tekroo.Store.Projected

namespace Tekroo.Kernel

open Checked Lib

variable {command : KernelCommand} {evaluator : Evaluator}

/-! # Accepting and applying a command -/

namespace AuthorizationPolicy

variable {policy : AuthorizationPolicy} {state : Option AggregateState} {now : Time}
  {result : AuthorizationResult}

theorem authorizeDelegated_digests {grants chain : List Digest} {depth : Nat}
    {parent : DelegationLink} {path : List PrincipalRef}
    (found : policy.authorizeDelegated command state now grants depth parent chain path =
      some result)
    (granted : grants.all Digest.valid = true) (delegated : chain.all Digest.valid = true) :
    result.grantDigests.all Digest.valid = true ∧
      result.delegationDigests.all Digest.valid = true := by
  induction depth generalizing parent chain path with
  | zero => cases found
  | succ depth induction =>
    unfold authorizeDelegated at found
    split at found
    · cases found
    · obtain ⟨delegation, _, found⟩ := List.exists_of_findSome?_eq_some found
      split at found
      · cases found
      · next extending =>
        have valid : delegation.delegationDigest.valid = true := by
          simp only [AuthorityDelegation.extends?, AuthorityDelegation.valid, tests_iff]
            at extending
          simp_all
        have extended : (chain ++ [delegation.delegationDigest]).all Digest.valid = true := by
          simp [delegated, valid]
        split at found
        · cases found
          exact ⟨granted, extended⟩
        · exact induction found extended

theorem authorizeGrant_digests {grant : AuthorityGrant}
    (found : policy.authorizeGrant command state now grant = some result) :
    result.grantDigests.all Digest.valid = true ∧
      result.delegationDigests.all Digest.valid = true := by
  unfold authorizeGrant at found
  split at found
  · cases found
  · next valid =>
    have digest : [grant.grantDigest].all Digest.valid = true := by
      simp only [AuthorityGrant.valid, Bool.not_eq_true, Bool.not_eq_false',
        Bool.and_eq_true] at valid
      simp [valid]
    split at found
    · cases found
      exact ⟨digest, rfl⟩
    · exact authorizeDelegated_digests found digest rfl

theorem authorize_digests :
    (policy.authorize command state now).grantDigests.all Digest.valid = true ∧
      (policy.authorize command state now).delegationDigests.all Digest.valid = true := by
  unfold authorize
  split
  · exact ⟨rfl, rfl⟩
  · split
    · next result found =>
      obtain ⟨grant, _, found⟩ := List.exists_of_findSome?_eq_some found
      exact authorizeGrant_digests found
    · exact ⟨rfl, rfl⟩

end AuthorizationPolicy

section Evaluate

variable {snapshot : Snapshot} {context : DecisionContext} {definition : CommandDefinition}
  {acceptance : Acceptance} {hashes : Hashes}

theorem basisAndContextValid_attributed {grants delegations : List Digest}
    (valid : validateDecisionContext hashes context = true)
    (granted : grants.all Digest.valid = true) (delegated : delegations.all Digest.valid = true) :
    basisAndContextValid hashes (context.attributed grants delegations) = true := by
  simp only [validateDecisionContext, tests_iff] at valid
  obtain ⟨⟨⟨⟨⟨received, decided⟩, ordered⟩, _⟩, _⟩, basis⟩ := valid
  have attributed : { context.provenance with
      grantDigests := grants
      delegationDigests := delegations : ProvenanceBasis }.valid hashes = true := by
    simp only [ProvenanceBasis.valid, tests_iff] at basis ⊢
    simp_all
  simp only [basisAndContextValid, tests_iff]
  exact ⟨⟨⟨attributed, received⟩, decided⟩, ordered⟩

theorem basisAndContextValid_authorizedBy (valid : validateDecisionContext hashes context = true) :
    basisAndContextValid hashes (context.authorizedBy (snapshot.authorize command context)) =
      true :=
  basisAndContextValid_attributed valid AuthorizationPolicy.authorize_digests.1
    AuthorizationPolicy.authorize_digests.2

theorem buildDecisionProvenance_of (basis : basisAndContextValid hashes context = true) :
    buildDecisionProvenance hashes command (commandFingerprint hashes command) context =
      some (decisionProvenance command (commandFingerprint hashes command) context) := by
  rw [buildDecisionProvenance, basis]
  rfl

theorem Evaluator.evaluate_eq (valid : validateDecisionContext evaluator.hashes context = true) :
    evaluator.evaluate command snapshot context = .ok (
      match evaluator.resolve command with
      | .error refusal => rejectedDecision evaluator.hashes command context.unattributed refusal
      | .ok definition =>
        let authorization := snapshot.authorize command context
        let context := context.authorizedBy authorization
        let authority := authorityDecision command snapshot authorization
        match evaluator.examine command snapshot context definition authorization with
        | .error refusal =>
          rejectedAuthorizedDecision evaluator.hashes command context refusal authority
        | .ok acceptance =>
          acceptedDecision evaluator.hashes command definition context acceptance authority) := by
  have unattributed : basisAndContextValid evaluator.hashes context.unattributed = true :=
    basisAndContextValid_attributed valid rfl rfl
  simp only [Evaluator.evaluate, chain_ok, valid]
  refine ⟨rfl, _, buildDecisionProvenance_of unattributed, ?_⟩
  cases evaluator.resolve command with
  | error refusal => rfl
  | ok definition =>
    simp only [chain_ok]
    refine ⟨_, buildDecisionProvenance_of (basisAndContextValid_authorizedBy valid), ?_⟩
    cases evaluator.examine command snapshot
      (context.authorizedBy (snapshot.authorize command context)) definition
      (snapshot.authorize command context) <;> rfl

end Evaluate

namespace AcceptedCommand

variable {store : Store} (accepted : AcceptedCommand evaluator store)

theorem evaluated : evaluator.evaluate accepted.command accepted.snapshot accepted.context =
    .ok accepted.decision := by
  have examined := accepted.admitted.examined
  simp only [Evaluator.evaluate_eq accepted.contextValid, accepted.resolved, snapshot, examined]
  rfl

theorem applies (intact : store.Intact)
    (fresh : store.event? accepted.context.eventID = none)
    (newCommand : store.receipts.lookup accepted.command.commandID = none)
    (newScope : store.idempotency.lookup
      (idempotencyScopeDigest evaluator.hashes accepted.command) = none)
    (noFault : store.faultPoint.beforeWrite = false) :
    evaluator.applies store store accepted.command accepted.context = true := by
  have written := Store.commit_applied_iff.mpr
    (accepted.prepared intact fresh newCommand newScope noFault)
  have evaluated := accepted.evaluated
  unfold snapshot at evaluated written
  simp only [Evaluator.applies, evaluated, written, Bool.and_true]
  rfl

end AcceptedCommand

namespace AppliedCommand

variable {copy current : Store}

theorem updated (applied : AppliedCommand evaluator copy current) :
    evaluator.update copy current (.decide applied.command applied.context) = applied.after := by
  have evaluated := applied.evaluated
  have written : current.prepare evaluator.hashes (copy.loadDecision applied.command)
      applied.decision = .ok applied.projections := Store.prepare_ok.mpr applied.prepared
  unfold AcceptedCommand.snapshot at evaluated
  simp only [Evaluator.update, evaluated, Store.commit, written]
  rfl

theorem reachable {shared : Shared Store} (reached : evaluator.Reachable shared)
    (applied : AppliedCommand evaluator shared.current shared.current) :
    ∃ later, evaluator.Reachable later ∧ later.current = applied.after := by
  obtain ⟨policy, faultPoint, run⟩ := reached
  exact ⟨shared.copy.apply evaluator.update shared.current
      (.decide applied.command applied.context),
    ⟨policy, faultPoint, run.copy.update (by simp [Shared.copy]) trivial⟩, applied.updated⟩

end AppliedCommand

end Tekroo.Kernel
