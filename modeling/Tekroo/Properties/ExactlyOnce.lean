import Tekroo.Application.Handler
import Tekroo.Lib.Log
import Tekroo.Store.Script

namespace Tekroo.Application

open Kernel Lib Call

/-! # Decisions are made once

A call knows that the receipt it returns is in the history, or that its command id or idempotency
key is taken by another request; both stay true.
-/

variable (hashes : Hashes) (decided : List Decided) (command : KernelCommand)
  {context : DecisionContext} {decision : Decision} {snapshot : Snapshot} {store : Store}

def Decided.identity (entry : Decided) : DecisionIdentity :=
  ⟨entry.command.commandID, commandFingerprint hashes entry.command,
    idempotencyScopeDigest hashes entry.command⟩

/-- The receipts, bindings, idempotency scopes and events of the store are those of the
decisions. -/
structure Accounts (hashes : Hashes) (store : Store) (decided : List Decided) : Prop where
  receipts : Indexes (·.command.commandID) (·.decision.receipt) decided store.receipts
  bindings : Indexes (·.command.commandID) (Decided.identity hashes) decided
    store.commandBindings
  scopes : Indexes (fun entry => idempotencyScopeDigest hashes entry.command)
    (Decided.identity hashes) decided store.idempotency
  events : store.events = decided.flatMap (·.decision.events)
  once : (store.events.map (·.commandID)).Sublist (decided.map (·.command.commandID))

/-- The same request: equal fingerprints in one idempotency scope. -/
def SameRequest (left right : KernelCommand) : Prop :=
  commandFingerprint hashes left = commandFingerprint hashes right ∧
    idempotencyScopeDigest hashes left = idempotencyScopeDigest hashes right

def Answers (receipt : CommandReceipt) : Prop :=
  ∃ entry ∈ decided, SameRequest hashes entry.command command ∧
    entry.decision.receipt = receipt

/-- The command id, or else the idempotency scope, belongs to another request. -/
def Clashes : Prop :=
  ∃ entry ∈ decided, ¬ SameRequest hashes entry.command command ∧
    (entry.command.commandID = command.commandID ∨
      idempotencyScopeDigest hashes entry.command = idempotencyScopeDigest hashes command)

section Lookup

variable {hashes : Hashes} {store : Store} {decided : List Decided}

theorem Accounts.new (policy : AuthorizationPolicy) (faultPoint : FaultPoint) :
    Accounts hashes (.new policy faultPoint) [] where
  receipts := .empty
  bindings := .empty
  scopes := .empty
  events := rfl
  once := .slnil

theorem Accounts.recorded {next : Store} {audit : IdentityConflictAudit}
    (accounts : Accounts hashes store decided)
    (recorded : store.recordIdentityConflict audit = .ok next) : Accounts hashes next decided := by
  unfold Store.recordIdentityConflict at recorded
  split at recorded
  · cases recorded
  · cases recorded
    exact ⟨accounts.receipts, accounts.bindings, accounts.scopes, accounts.events, accounts.once⟩

theorem Accounts.lookupReceipt (accounts : Accounts hashes store decided)
    (command : KernelCommand) (moment : Time) :
    match store.lookupReceipt hashes command moment with
    | .ok (some receipt) => Answers hashes decided command receipt
    | .error .commandIdentityConflict | .error .idempotencyKeyConflict =>
      Clashes hashes decided command
    | _ => True := by
  cases found : store.receipts.lookup command.commandID with
  | some receipt =>
    obtain ⟨entry, member, sameID, rfl⟩ := (accounts.receipts.lookup _ _).mp found
    have binding := accounts.bindings.of_mem member
    rw [sameID] at binding
    simp only [Store.lookupReceipt, found, binding, Option.any_some, Decided.identity]
    cases store.canReadReceipt command moment with
    | false => trivial
    | true =>
      by_cases same : SameRequest hashes entry.command command
      · simp only [same.1, same.2, BEq.rfl, Bool.and_self]
        exact ⟨entry, member, same, rfl⟩
      · have differs : (commandFingerprint hashes entry.command ==
            commandFingerprint hashes command && idempotencyScopeDigest hashes entry.command ==
            idempotencyScopeDigest hashes command) = false := by
          simpa [SameRequest] using same
        rw [differs]
        exact ⟨entry, member, same, .inl sameID⟩
  | none =>
    cases prior : store.idempotency.lookup (idempotencyScopeDigest hashes command) with
    | some identity =>
      obtain ⟨entry, member, sameScope, rfl⟩ := (accounts.scopes.lookup _ _).mp prior
      simp only [Store.lookupReceipt, found, prior, Decided.identity,
        accounts.receipts.of_mem member, Option.getD_some]
      cases store.canReadReceipt command moment with
      | false => trivial
      | true =>
        by_cases same : commandFingerprint hashes entry.command = commandFingerprint hashes command
        · simp only [same, bne_self_eq_false]
          exact ⟨entry, member, ⟨same, sameScope⟩, rfl⟩
        · rw [bne_iff_ne.mpr same]
          exact ⟨entry, member, fun both => same both.1, .inr sameScope⟩
    | none => simp only [Store.lookupReceipt, found, prior]

end Lookup

theorem decides_identity {evaluator : Evaluator} {command : KernelCommand}
    (decided : evaluator.Decides command snapshot context decision) :
    decision.receipt.commandID = command.commandID ∧
      decision.commandFingerprint = commandFingerprint evaluator.hashes command ∧
      decision.idempotencyScope = idempotencyScopeDigest evaluator.hashes command ∧
      (decision.events.map (·.commandID)).Sublist [command.commandID] := by
  cases decided with
  | unresolved | refused => exact ⟨rfl, rfl, rfl, List.nil_sublist _⟩
  | accepted => exact ⟨rfl, rfl, rfl, .refl _⟩

theorem Accounts.write {evaluator : Evaluator} {decided : List Decided} {command : KernelCommand}
    {projections : Store.Projections} (accounts : Accounts evaluator.hashes store decided)
    (made : evaluator.Decides command snapshot context decision)
    (prepared : store.Prepared evaluator.hashes snapshot decision projections) :
    Accounts evaluator.hashes (store.write evaluator.hashes decision projections)
      (decided ++ [⟨command, decision⟩]) := by
  obtain ⟨id, fingerprint, scope, single⟩ := decides_identity made
  have newCommand := prepared.newCommand
  have newScope := prepared.newScope
  rw [id] at newCommand
  rw [scope] at newScope
  have unbound : store.commandBindings.lookup command.commandID = none := by
    cases found : store.commandBindings.lookup command.commandID with
    | none => rfl
    | some binding =>
      obtain ⟨entry, member, same, _⟩ := (accounts.bindings.lookup _ _).mp found
      rw [← same, accounts.receipts.of_mem member] at newCommand
      cases newCommand
  constructor
  · simp only [Store.write, id]
    exact accounts.receipts.append newCommand
  · simp only [Store.write, id, fingerprint, scope]
    exact accounts.bindings.append unbound
  · simp only [Store.write, id, fingerprint, scope]
    exact accounts.scopes.append newScope
  · simp [Store.write, accounts.events]
  · simp only [Store.write, List.map_append]
    exact accounts.once.append single

namespace Service

structure Sound (evaluator : Evaluator) (service : Service) : Prop where
  reachable : ∃ shared, evaluator.Reachable shared ∧ shared.current = service.store ∧
    service.loaded ⊆ shared.copies
  accounts : Accounts evaluator.hashes service.store service.decided

structure Grows (before after : Service) : Prop where
  loaded : before.loaded ⊆ after.loaded
  decided : before.decided ⊆ after.decided

def Knows (evaluator : Evaluator) (service : Service) (call : Call) : Prop :=
  match call.progress with
  | .evaluate snapshot => ∃ copy ∈ service.loaded, snapshot = copy.loadDecision call.command
  | .commit snapshot decision => ∃ copy ∈ service.loaded, ∃ context,
      snapshot = copy.loadDecision call.command ∧
        evaluator.evaluate call.command snapshot context = .ok decision
  | .recordConflict _ => Clashes evaluator.hashes service.decided call.command
  | .returned receipt => Answers evaluator.hashes service.decided call.command receipt ∨
      receipt.outcomeCode = .rejectedConflict ∧
        Clashes evaluator.hashes service.decided call.command
  | _ => True

variable {evaluator : Evaluator} {before after service : Service} {call : Call}
  {around : Surroundings}

theorem Grows.refl (service : Service) : service.Grows service := ⟨fun _ => id, fun _ => id⟩

theorem Knows.mono (grows : before.Grows after) (knows : before.Knows evaluator call) :
    after.Knows evaluator call := by
  have clashes : Clashes evaluator.hashes before.decided call.command →
      Clashes evaluator.hashes after.decided call.command :=
    fun ⟨entry, member, rest⟩ => ⟨entry, grows.decided member, rest⟩
  obtain ⟨command, provenance, progress⟩ := call
  cases progress with
  | evaluate snapshot =>
    obtain ⟨copy, taken, same⟩ := knows
    exact ⟨copy, grows.loaded taken, same⟩
  | commit snapshot decision =>
    obtain ⟨copy, taken, rest⟩ := knows
    exact ⟨copy, grows.loaded taken, rest⟩
  | recordConflict conflict => exact clashes knows
  | returned receipt =>
    rcases knows with ⟨entry, member, rest⟩ | ⟨rejected, clash⟩
    · exact .inl ⟨entry, grows.decided member, rest⟩
    · exact .inr ⟨rejected, clashes clash⟩
  | lookup | load | reconcile | failed => trivial

variable (sound : service.Sound evaluator)

include sound

theorem Sound.knows_lookup (around : Surroundings) :
    service.Knows evaluator
      { call with progress := call.lookupStep evaluator service.store around } := by
  have found := sound.accounts.lookupReceipt call.command around.now
  unfold Knows lookupStep
  generalize service.store.lookupReceipt evaluator.hashes call.command around.now = result
    at found
  match result, found with
  | .ok (some _), answers => exact .inl answers
  | .ok none, _ => trivial
  | .error reason, clashes => cases reason <;> exact clashes

theorem Sound.knows_reconcile (around : Surroundings) (result : CommitResult) :
    service.Knows evaluator
      { call with progress := call.reconcileStep evaluator service.store around result } := by
  have found := sound.accounts.lookupReceipt call.command around.now
  unfold Knows reconcileStep
  generalize service.store.lookupReceipt evaluator.hashes call.command around.now = result
    at found
  match result, found with
  | .ok (some _), answers => exact .inl answers
  | .ok none, _ | .error _, _ => trivial

theorem Sound.loaded :
    Sound evaluator { service with loaded := service.loaded ++ [service.store] } := by
  obtain ⟨shared, ⟨policy, faultPoint, run⟩, current, copies⟩ := sound.reachable
  refine ⟨⟨shared.copy, ⟨policy, faultPoint, run.copy⟩, current, ?_⟩, sound.accounts⟩
  rw [Shared.copy, current]
  exact List.append_subset.mpr ⟨fun _ member => List.mem_append_left _ (copies member), by simp⟩

theorem Sound.updated {input : StoreInput}
    (accounts : Accounts evaluator.hashes
      (evaluator.update service.store service.store input) service.decided) :
    Sound evaluator
      { service with store := evaluator.update service.store service.store input } := by
  obtain ⟨shared, ⟨policy, faultPoint, run⟩, current, copies⟩ := sound.reachable
  refine ⟨⟨shared.copy.apply evaluator.update service.store input,
    ⟨policy, faultPoint, run.copy.update ?_ trivial⟩, ?_, ?_⟩, accounts⟩
  · simp [Shared.copy, current]
  · simp [Shared.apply, Shared.copy, current]
  · exact fun _ member => List.mem_append_left _ (copies member)

variable {command : KernelCommand} {provenance : ProvenanceBasis} {context : DecisionContext}
  {copy : Store} {decision : Decision}

theorem Sound.written (taken : copy ∈ service.loaded)
    (evaluated : evaluator.evaluate command (copy.loadDecision command) context = .ok decision)
    (applied : (service.store.commit evaluator.hashes (copy.loadDecision command)
      decision).2.applied = true) :
    Sound evaluator
      { service with
        store := (service.store.commit evaluator.hashes (copy.loadDecision command) decision).1
        decided := service.decided ++ [⟨command, decision⟩] } := by
  obtain ⟨shared, ⟨policy, faultPoint, run⟩, current, copies⟩ := sound.reachable
  constructor
  · refine ⟨shared.apply evaluator.update copy (.decide command context),
      ⟨policy, faultPoint, run.update (copies taken) trivial⟩, ?_, copies⟩
    simp [Shared.apply, current, Evaluator.update, evaluated]
  · unfold Store.commit at applied ⊢
    cases result : service.store.prepare evaluator.hashes (copy.loadDecision command) decision with
    | error reason => simp [result, CommitResult.applied] at applied
    | ok projections =>
      exact sound.accounts.write (Evaluator.evaluate_ok evaluated).2
        (Store.prepare_ok.mp result)

abbrev Steps (evaluator : Evaluator) (before : Service) (result : Service × Call) : Prop :=
  result.1.Sound evaluator ∧ before.Grows result.1 ∧ result.1.Knows evaluator result.2

theorem Sound.unchanged (progress : Progress)
    (stepped : call.step evaluator service.store around = (service.store, progress))
    (loads : call.loads service.store around = [])
    (decides : call.decides evaluator service.store around = [])
    (knows : service.Knows evaluator { call with progress }) :
    Steps evaluator service (service.handle evaluator call around) := by
  have same : service.handle evaluator call around = (service, { call with progress }) := by
    simp [handle, stepped, loads, decides]
  rw [same]
  exact ⟨sound, .refl service, knows⟩

theorem Sound.commit_step (active : around.canceled = false) (taken : copy ∈ service.loaded)
    (evaluated : evaluator.evaluate command (copy.loadDecision command) context = .ok decision) :
    Steps evaluator service (service.handle evaluator
      ⟨command, provenance, .commit (copy.loadDecision command) decision⟩ around) := by
  cases result : (service.store.commit evaluator.hashes (copy.loadDecision command)
      decision).2.applied with
  | true =>
    simp only [handle, step, active, loads, decides, result, Bool.not_false,
      Bool.and_self, if_true, List.append_nil, Bool.false_eq_true, if_false]
    refine ⟨sound.written taken evaluated result, ⟨fun _ => id, by simp⟩, ?_⟩
    generalize (service.store.commit evaluator.hashes (copy.loadDecision command)
      decision).2 = outcome at result
    cases outcome with
    | failed reason => cases result
    | uncertain => trivial
    | acknowledged => exact .inl ⟨⟨command, decision⟩, by simp, ⟨rfl, rfl⟩, rfl⟩
  | false =>
    refine sound.unchanged (committed decision (service.store.commit evaluator.hashes
      (copy.loadDecision command) decision).2) ?_ rfl (by simp [decides, result]) ?_
    · simp only [step, active, Bool.false_eq_true, if_false, Store.commit_unapplied result]
    generalize (service.store.commit evaluator.hashes (copy.loadDecision command)
      decision).2 = outcome at result
    cases outcome with
    | failed reason => cases reason <;> trivial
    | uncertain | acknowledged => cases result

omit sound in
theorem recordConflictStep_cases (store : Store) (call : Call) (conflict : IdentityConflict) :
    (∃ error, call.recordConflictStep evaluator store around conflict =
        (store, .failed error)) ∨
      ∃ audit next receipt, store.recordIdentityConflict audit = .ok next ∧
        receipt.outcomeCode = .rejectedConflict ∧
        call.recordConflictStep evaluator store around conflict = (next, .returned receipt) := by
  unfold recordConflictStep
  cases buildDecisionProvenance evaluator.hashes call.command
      (commandFingerprint evaluator.hashes call.command) (call.conflictContext around) with
  | none => exact .inl ⟨_, rfl⟩
  | some record =>
    simp only
    cases recorded : store.recordIdentityConflict (call.conflictAudit evaluator around conflict
        (record.digest evaluator.hashes)) with
    | error reason => exact .inl ⟨_, rfl⟩
    | ok next => exact .inr ⟨_, next, _, recorded, rfl, rfl⟩

theorem Sound.record_step {conflict : IdentityConflict}
    (active : around.canceled = false)
    (knows : service.Knows evaluator ⟨command, provenance, .recordConflict conflict⟩) :
    Steps evaluator service
      (service.handle evaluator ⟨command, provenance, .recordConflict conflict⟩ around) := by
  obtain ⟨error, failed⟩ | ⟨audit, next, receipt, recorded, rejected, stepped⟩ :=
    recordConflictStep_cases
    service.store ⟨command, provenance, .recordConflict conflict⟩ conflict
  · refine sound.unchanged (.failed error) ?_ rfl rfl trivial
    simpa only [step, active, Bool.false_eq_true, if_false] using failed
  · have updated : evaluator.update service.store service.store (.recordConflict audit) = next := by
      simp only [Evaluator.update, recorded]
    have handled : service.handle evaluator ⟨command, provenance, .recordConflict conflict⟩ around =
        ({ service with store := next }, ⟨command, provenance, .returned receipt⟩) := by
      simp [handle, step, active, stepped, loads, decides]
    rw [handled]
    refine ⟨updated ▸ sound.updated ?_, ⟨fun _ => id, fun _ => id⟩, .inr ⟨rejected, knows⟩⟩
    rw [updated]
    exact sound.accounts.recorded recorded

theorem Sound.evaluate_step {snapshot : Snapshot}
    (knows : service.Knows evaluator ⟨command, provenance, .evaluate snapshot⟩) :
    Steps evaluator service
      (service.handle evaluator ⟨command, provenance, .evaluate snapshot⟩ around) := by
  refine sound.unchanged _ rfl rfl rfl ?_
  unfold evaluateStep
  split
  · trivial
  · trivial
  · split
    · next decision evaluated =>
      obtain ⟨copy, taken, same⟩ := knows
      exact ⟨copy, taken, _, same, evaluated⟩
    · trivial

theorem Sound.load_step (active : around.canceled = false) :
    Steps evaluator service (service.handle evaluator ⟨command, provenance, .load⟩ around) := by
  have handled : service.handle evaluator ⟨command, provenance, .load⟩ around =
      ({ service with loaded := service.loaded ++ [service.store] },
        ⟨command, provenance, .evaluate (service.store.loadDecision command)⟩) := by
    simp [handle, step, active, loads, decides]
  rw [handled]
  exact ⟨sound.loaded, ⟨by simp, fun _ => id⟩, service.store, by simp, rfl⟩

theorem Sound.step (knows : service.Knows evaluator call)
    (around : Surroundings) :
    Steps evaluator service (service.handle evaluator call around) := by
  obtain ⟨command, provenance, progress⟩ := call
  cases canceled : around.canceled with
  | true =>
    cases progress with
    | evaluate snapshot => exact sound.evaluate_step knows
    | returned receipt => exact sound.unchanged _ rfl rfl rfl knows
    | failed error => exact sound.unchanged _ rfl rfl rfl trivial
    | lookup | load | commit | reconcile | recordConflict =>
      exact sound.unchanged (.failed .canceled) (by simp [step, canceled])
        (by simp [loads, canceled]) (by simp [decides, canceled]) trivial
  | false =>
    cases progress with
    | lookup =>
      exact sound.unchanged _
        (by simp only [step, canceled, Bool.false_eq_true, if_false])
        rfl rfl (sound.knows_lookup around)
    | load => exact sound.load_step canceled
    | evaluate snapshot => exact sound.evaluate_step knows
    | commit snapshot decision =>
      obtain ⟨copy, taken, context, same, evaluated⟩ := knows
      simp only at same evaluated
      subst same
      exact sound.commit_step canceled taken evaluated
    | reconcile result =>
      exact sound.unchanged _
        (by simp only [step, canceled, Bool.false_eq_true, if_false])
        rfl rfl (sound.knows_reconcile around result)
    | recordConflict conflict => exact sound.record_step canceled knows
    | returned receipt => exact sound.unchanged _ rfl rfl rfl knows
    | failed error => exact sound.unchanged _ rfl rfl rfl trivial

end Service

theorem Serves.sound {evaluator : Evaluator} {pool : Pool Service Call}
    (served : Serves evaluator pool) :
    pool.shared.Sound evaluator ∧ ∀ call ∈ pool.processes, pool.shared.Knows evaluator call := by
  obtain ⟨policy, faultPoint, reached⟩ := served
  have start : Service.Sound evaluator ⟨.new policy faultPoint, [], []⟩ :=
    ⟨⟨⟨.new policy faultPoint, []⟩, ⟨policy, faultPoint, .refl⟩, rfl, by simp⟩,
      .new policy faultPoint⟩
  refine reached.holds start (fun {service call} starts => ?_) Service.Knows.mono
    (fun around sound knows => sound.step knows around)
    (fun {service} policy sound => ⟨?_, ⟨fun _ => id, fun _ => id⟩⟩)
  · obtain ⟨command, provenance, progress⟩ := call
    cases progress with
    | lookup => trivial
    | load | evaluate | commit | reconcile | recordConflict | returned | failed => cases starts
  · obtain ⟨receipts, bindings, scopes, events, once⟩ := sound.accounts
    have kept : Accounts evaluator.hashes
        (evaluator.update service.store service.store (.setPolicy policy)) service.decided :=
      ⟨receipts, bindings, scopes, events, once⟩
    exact sound.updated kept

/-- The same request with the same command id or with one that no other decision has. -/
def Repeats (decided : List Decided) (entry : Decided) (command : KernelCommand) : Prop :=
  entry.command.semantic = command.semantic ∧ entry.command.scope = command.scope ∧
    ∀ other ∈ decided, other.command.commandID = command.commandID → other = entry

section Repeats

variable {hashes : Hashes} {store : Store} {decided : List Decided} {entry : Decided}
  {command : KernelCommand}

theorem Repeats.sameRequest (repeats : Repeats decided entry command) :
    SameRequest hashes entry.command command := by
  obtain ⟨semantic, scope, _⟩ := repeats
  simp [SameRequest, commandFingerprint, idempotencyScopeDigest, semantic, scope]

variable (accounts : Accounts hashes store decided) (member : entry ∈ decided)
  (repeats : Repeats decided entry command)

include accounts member repeats

theorem Accounts.answers_repeated {receipt : CommandReceipt}
    (answers : Answers hashes decided command receipt) : receipt = entry.decision.receipt := by
  obtain ⟨other, listed, same, rfl⟩ := answers
  rw [accounts.scopes.unique listed member (same.2.trans repeats.sameRequest.2.symm)]

theorem Accounts.repeated_unclashed :
    ¬ Clashes hashes decided command := by
  rintro ⟨other, listed, differs, sameID | sameScope⟩
  · exact differs (repeats.2.2 other listed sameID ▸ repeats.sameRequest)
  · have same := accounts.scopes.unique listed member
      (sameScope.trans repeats.sameRequest.2.symm)
    exact differs (same ▸ repeats.sameRequest)

end Repeats

/-- Whatever calls of `Handle` interleave over a store, there is one decision per command id
and per idempotency scope, whose events are in the log once; and a call that returns a receipt
for a command that was decided returns the stored receipt.  If the digests of a command collide
with those of no other decided one, a receipt is only ever returned to it for the request it was
stored for, or reports a conflict. -/
theorem decisions_exactly_once {evaluator : Evaluator} {pool : Pool Service Call}
    (served : Serves evaluator pool) :
    (pool.shared.decided.map (·.command.commandID)).Nodup ∧
    (pool.shared.decided.map (·.command.scope)).Nodup ∧
    (∀ id receipt, pool.shared.store.receipts.lookup id = some receipt ↔
      ∃ entry ∈ pool.shared.decided, entry.command.commandID = id ∧
        entry.decision.receipt = receipt) ∧
    pool.shared.store.events = pool.shared.decided.flatMap (·.decision.events) ∧
    (pool.shared.store.events.map (·.commandID)).Nodup ∧
    ∀ call ∈ pool.processes, ∀ receipt, call.progress = .returned receipt →
      (∀ entry ∈ pool.shared.decided, Repeats pool.shared.decided entry call.command →
        receipt = entry.decision.receipt ∧
          pool.shared.store.receipts.lookup entry.command.commandID = some receipt) ∧
      ((∀ entry ∈ pool.shared.decided, SameRequest evaluator.hashes entry.command call.command →
          entry.command.semantic = call.command.semantic ∧
            entry.command.scope = call.command.scope) →
        (∃ entry ∈ pool.shared.decided, entry.command.semantic = call.command.semantic ∧
          entry.command.scope = call.command.scope ∧ entry.decision.receipt = receipt) ∨
        receipt.outcomeCode = .rejectedConflict ∧
          ∀ entry ∈ pool.shared.decided, ¬ Repeats pool.shared.decided entry call.command) := by
  obtain ⟨sound, known⟩ := served.sound
  have accounts := sound.accounts
  refine ⟨accounts.receipts.distinct, ?_, accounts.receipts.lookup, accounts.events,
    accounts.once.nodup accounts.receipts.distinct, fun call member receipt returned => ?_⟩
  · refine List.Nodup.of_map (fun scope => Digest.number (evaluator.hashes.scope scope)) ?_
    rw [List.map_map]
    exact accounts.scopes.distinct
  have knows := known call member
  simp only [Service.Knows, returned] at knows
  constructor
  · intro entry listed repeats
    have same : receipt = entry.decision.receipt := by
      rcases knows with answers | ⟨_, clashes⟩
      · exact accounts.answers_repeated listed repeats answers
      · exact absurd clashes (accounts.repeated_unclashed listed repeats)
    exact ⟨same, same ▸ accounts.receipts.of_mem listed⟩
  · intro apart
    rcases knows with ⟨entry, listed, same, stored⟩ | ⟨rejected, clashes⟩
    · obtain ⟨semantic, scope⟩ := apart entry listed same
      exact .inl ⟨entry, listed, semantic, scope, stored⟩
    · exact .inr ⟨rejected, fun entry listed repeats =>
        accounts.repeated_unclashed listed repeats clashes⟩

namespace Sample

open Kernel.Sample

def call : Call := ⟨registerEvidence, basis, .lookup⟩

def rivalCall : Call :=
  ⟨{ registerEvidence with target := ⟨.evidence, .number 2⟩ }, basis, .lookup⟩

def around : Surroundings := ⟨false, 1, 1, some (.number 1), some (.number 1)⟩

/-- Two calls step by step beside each other, on a store that never acknowledges a commit, and
then the third one. -/
def turns : List (Turn Call Surroundings AuthorizationPolicy) :=
  [.start call, .start call, .start rivalCall, .step 0 around, .step 1 around, .step 0 around,
    .step 1 around, .step 0 around, .step 1 around, .step 0 around, .step 1 around,
    .step 0 around, .step 1 around, .step 2 around, .step 2 around]

def repeated : Pool Service Call :=
  turns.foldl (handlers evaluator).turn ⟨⟨.new policy .afterCommitBeforeAck, [], []⟩, []⟩

theorem repeated_served : Serves evaluator repeated :=
  ⟨policy, .afterCommitBeforeAck, Protocol.Reaches.start.turns turns⟩

theorem repeated_apart : ∀ call ∈ repeated.processes, ∀ entry ∈ repeated.shared.decided,
    SameRequest evaluator.hashes entry.command call.command →
      entry.command.semantic = call.command.semantic ∧
        entry.command.scope = call.command.scope := by
  have called : repeated.processes.map (·.command) =
    [registerEvidence, registerEvidence, rivalCall.command] := rfl
  have decided : repeated.shared.decided.map (·.command) = [registerEvidence] := rfl
  have differs : ¬SameRequest evaluator.hashes registerEvidence rivalCall.command := by
    unfold SameRequest
    decide
  intro call member entry listed same
  have call_mem := List.mem_map_of_mem (f := (·.command)) member
  have entry_mem := List.mem_map_of_mem (f := (·.command)) listed
  rw [called] at call_mem
  rw [decided, List.mem_singleton] at entry_mem
  rw [entry_mem] at same ⊢
  simp only [List.mem_cons, List.not_mem_nil, or_false] at call_mem
  rcases call_mem with given | given | given <;> rw [given] at same ⊢
  · exact ⟨rfl, rfl⟩
  · exact ⟨rfl, rfl⟩
  · exact absurd same differs

/-- Two calls return the receipt of the one decision, the third one a conflict. -/
theorem repeated_calls_decided_once :
    repeated.shared.decided.length = 1 ∧
      (repeated.processes.map fun call =>
        match call.progress with
        | .returned receipt => some receipt.outcomeCode
        | _ => none) = [some .applied, some .applied, some .rejectedConflict] ∧
      (repeated.shared.store.events.map (·.commandID)).Nodup ∧
      ∀ call ∈ repeated.processes, ∀ receipt, call.progress = .returned receipt →
        (∀ entry ∈ repeated.shared.decided,
          Repeats repeated.shared.decided entry call.command →
          receipt = entry.decision.receipt) ∧
        ((∃ entry ∈ repeated.shared.decided, entry.command.semantic = call.command.semantic ∧
          entry.command.scope = call.command.scope ∧ entry.decision.receipt = receipt) ∨
        receipt.outcomeCode = .rejectedConflict ∧
          ∀ entry ∈ repeated.shared.decided,
            ¬Repeats repeated.shared.decided entry call.command) := by
  obtain ⟨_, _, _, _, once, answered⟩ := decisions_exactly_once repeated_served
  refine ⟨by decide, by decide, once, fun call member receipt returned => ?_⟩
  obtain ⟨stored, told⟩ := answered call member receipt returned
  exact ⟨fun entry listed repeats => (stored entry listed repeats).1,
    told (repeated_apart call member)⟩

end Sample

end Tekroo.Application
