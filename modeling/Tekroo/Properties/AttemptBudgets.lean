import Tekroo.Properties.Fencing

namespace Tekroo.Kernel

open Lib

/-! # Attempt budgets

The subject of a budget is the command's target, which has not moved since the copy was taken, so
an attempt was planned on the budget that is charged.
-/

namespace AttemptBudgetSnapshot

structure Kept (budget : AttemptBudgetSnapshot) : Prop where
  counted : budget.used = budget.attempts.entries.length
  within : budget.used ≤ budget.limit

def Changing (budget : AttemptBudgetSnapshot) : Prop :=
  (budget.attempts.entries.map fun attempt => attempt.2).Nodup

def charge (budget : AttemptBudgetSnapshot) (attemptKey : UUIDv7) (conditionDigest : Digest) :
    AttemptBudgetSnapshot :=
  { budget with
    used := budget.used + 1
    attempts := budget.attempts.insert attemptKey conditionDigest }

variable {budget : AttemptBudgetSnapshot} {attemptKey : UUIDv7} {conditionDigest : Digest}

theorem Kept.charge (kept : budget.Kept) (fresh : budget.attempts.lookup attemptKey = none)
    (left : budget.used < budget.limit) : (budget.charge attemptKey conditionDigest).Kept where
  counted := by
    simp only [AttemptBudgetSnapshot.charge, kept.counted,
      AList.entries_insert_of_notMem (AList.lookup_eq_none.mp fresh), List.length_cons]
  within := left

theorem Changing.charge (changing : budget.Changing)
    (fresh : budget.attempts.lookup attemptKey = none)
    (changed : ∀ prior ∈ budget.attempts.entries, prior.2 ≠ conditionDigest) :
    (budget.charge attemptKey conditionDigest).Changing := by
  unfold Changing AttemptBudgetSnapshot.charge
  rw [AList.entries_insert_of_notMem (AList.lookup_eq_none.mp fresh), List.map_cons,
    List.nodup_cons]
  refine ⟨fun repeated => ?_, changing⟩
  obtain ⟨prior, member, same⟩ := List.mem_map.mp repeated
  exact changed prior member same

end AttemptBudgetSnapshot

def Store.EachBudget (Holds : AttemptBudgetSnapshot → Prop) (store : Store) : Prop :=
  ∀ key budget, store.attemptBudgets.lookup key = some budget → Holds budget

theorem Store.EachBudget.budget {Holds : AttemptBudgetSnapshot → Prop} {store : Store}
    {attempt : AttemptBudgetDecision} (held : store.EachBudget Holds)
    (new : ∀ limit, Holds ⟨limit, 0, ∅⟩) : Holds (attempt.budget store.attemptBudgets) := by
  unfold AttemptBudgetDecision.budget
  cases found : store.attemptBudgets.lookup attempt.key with
  | none => exact new attempt.limit
  | some budget => exact held attempt.key budget found

def Store.BudgetsFollow (before after : Store) : Prop :=
  before.Extends after ∧ ∀ key : AttemptBudgetKey,
    before.revisions.lookup key.subject = after.revisions.lookup key.subject →
    before.attemptBudgets.lookup key = after.attemptBudgets.lookup key

namespace AppliedCommand

variable {evaluator : Evaluator} {copy current : Store}
  (applied : AppliedCommand evaluator copy current) {attempt : AttemptBudgetDecision}

theorem after_attemptBudgets : applied.after.attemptBudgets =
    match applied.acceptance.attemptBudget with
    | some attempt =>
      current.attemptBudgets.insert attempt.key
        ((attempt.budget current.attemptBudgets).charge attempt.attemptKey attempt.conditionDigest)
    | none => current.attemptBudgets := rfl

theorem planned (attempted : applied.acceptance.attemptBudget = some attempt) :
    attempt.Planned evaluator.hashes applied.command (copy.loadDecision applied.command) :=
  evaluateAttemptPolicy_ok (attempted ▸ applied.admitted.attempt)

theorem budgetsFollow : current.BudgetsFollow applied.after := by
  refine ⟨applied.growth, fun key same => ?_⟩
  rw [applied.after_attemptBudgets]
  cases attempted : applied.acceptance.attemptBudget with
  | none => rfl
  | some attempt =>
    refine (AList.lookup_insert_ne fun charged => applied.not_target same ?_).symm
    rw [charged, (applied.planned attempted).key]
    rfl

theorem planned_current (follows : copy.BudgetsFollow current)
    (attempted : applied.acceptance.attemptBudget = some attempt) :
    attempt.budget copy.attemptBudgets = attempt.budget current.attemptBudgets := by
  have unmoved := follows.2 attempt.key (by
    rw [(applied.planned attempted).key]
    exact applied.target_revision)
  rw [AttemptBudgetDecision.budget, unmoved]
  rfl

end AppliedCommand

section Runs

variable {evaluator : Evaluator} {allowed : Store → Store → StoreInput → Prop}
  {shared : Shared Store} {copy : Store}

theorem Evaluator.Reaches.budgetsFollow (reached : evaluator.Reaches allowed shared)
    (taken : copy ∈ shared.copies) : copy.BudgetsFollow shared.current := by
  refine reached.grows (fun store => ⟨.refl store, fun _ _ => rfl⟩) (fun left right => ?_)
    (fun same => ⟨.of_sameWork same, fun _ _ => by rw [same.attemptBudgets]⟩)
    (fun applied _ _ _ => applied.budgetsFollow) taken
  refine ⟨left.1.trans right.1, fun key same => ?_⟩
  have middle := left.1.between_revision right.1 same
  exact (left.2 key middle).trans (right.2 key (middle.symm.trans same))

theorem Evaluator.Reaches.eachBudget (Holds : AttemptBudgetSnapshot → Prop)
    (new : ∀ limit, Holds ⟨limit, 0, ∅⟩)
    (charged : ∀ {copy current : Store} {command context} {attempt : AttemptBudgetDecision},
      allowed copy current (.decide command context) →
      attempt.Planned evaluator.hashes command (copy.loadDecision command) →
      Holds (attempt.budget copy.attemptBudgets) →
      Holds ((attempt.budget copy.attemptBudgets).charge attempt.attemptKey
        attempt.conditionDigest))
    (reached : evaluator.Reaches allowed shared) :
    shared.current.EachBudget Holds := by
  refine reached.holds (fun _ _ key budget found => ?_) (fun same held key budget found => ?_)
    (fun applied reached taken permitted _ held key budget found => ?_)
  · cases found
  · exact held key budget (same.attemptBudgets ▸ found)
  · rw [applied.after_attemptBudgets] at found
    cases attempted : applied.acceptance.attemptBudget with
    | none => exact held key budget (by simpa [attempted] using found)
    | some attempt =>
      simp only [attempted, lookup_insert_eq_ite] at found
      split at found
      · cases found
        have same := applied.planned_current (reached.budgetsFollow taken) attempted
        refine same ▸ charged permitted (applied.planned attempted) (same ▸ ?_)
        exact held.budget new
      · exact held key budget found

/-- In every interleaving each budget counts its attempts and keeps its limit, and a command that
the policy limits is recorded under its own id; if no command is decided under a policy that allows
unchanged retries, the attempts of one budget have different conditions. -/
theorem attempts_within_limits (reached : evaluator.Reaches allowed shared) :
    (∀ key budget, shared.current.attemptBudgets.lookup key = some budget →
      budget.used = budget.attempts.entries.length ∧ budget.used ≤ budget.limit) ∧
    (∀ copy ∈ shared.copies, ∀ command context limit,
      evaluator.applies copy shared.current command context = true →
      copy.authorizationPolicy.requirements.attemptLimits.lookup command.commandType = some limit →
      ∃ before : AttemptBudgetSnapshot,
        before = (shared.current.attemptBudgets.lookup
          ⟨command.target, command.commandType⟩).getD ⟨limit, 0, ∅⟩ ∧
        before.attempts.lookup command.commandID = none ∧
        (evaluator.update copy shared.current (.decide command context)).attemptBudgets =
          shared.current.attemptBudgets.insert ⟨command.target, command.commandType⟩
            (before.charge command.commandID
              (commandFingerprint evaluator.hashes { command with causation := [] }))) ∧
    ((∀ copy current command context, allowed copy current (.decide command context) →
        copy.authorizationPolicy.requirements.allowUnchangedRetry = false) →
      ∀ key budget, shared.current.attemptBudgets.lookup key = some budget →
        (budget.attempts.entries.map fun attempt => attempt.2).Nodup) := by
  refine ⟨fun key budget found => ?_, ?_, fun strict => ?_⟩
  · have kept := reached.eachBudget AttemptBudgetSnapshot.Kept (fun _ => ⟨rfl, Nat.zero_le _⟩)
      (fun _ planned kept => kept.charge planned.fresh
        (planned.used ▸ planned.limit ▸ planned.within)) key budget found
    exact ⟨kept.counted, kept.within⟩
  · intro copy taken command context limit applies governed
    obtain ⟨applied, rfl, rfl, written⟩ := Evaluator.applies_update applies
    cases attempted : applied.acceptance.attemptBudget with
    | none =>
      have free := evaluateAttemptPolicy_none (attempted ▸ applied.admitted.attempt)
      cases free.symm.trans governed
    | some attempt =>
      have planned := applied.planned attempted
      have same := applied.planned_current (reached.budgetsFollow taken) attempted
      have charged : attempt.limit = limit := Option.some.inj (planned.governed.symm.trans governed)
      refine ⟨attempt.budget shared.current.attemptBudgets, ?_, ?_, ?_⟩
      · rw [AttemptBudgetDecision.budget, planned.key, charged]
      · rw [← same, ← planned.attemptKey]
        exact planned.fresh
      · rw [written, applied.after_attemptBudgets, attempted, ← planned.condition,
          ← planned.attemptKey, ← planned.key]
  · exact reached.eachBudget AttemptBudgetSnapshot.Changing (fun _ => List.nodup_nil)
      fun permitted planned changing =>
        changing.charge planned.fresh (planned.changed (strict _ _ _ _ permitted))

end Runs

namespace Sample

def limited : AuthorizationPolicy :=
  { policy with requirements := { policy.requirements with
      attemptLimits := (∅ : Table CommandType Nat).insert .executionReplace 2 } }

def replaceNext (value epoch : Nat) : KernelCommand :=
  { replaceTo value epoch 0 0 with
    payload := .executionReplace
      ⟨actor, .number (30 + epoch), .number (31 + epoch), { value := epoch + 1 }⟩ }

def attempted : Shared Store :=
  evaluator.script ⟨.new limited .none, []⟩
    [entry registerEvidence, entry registerExecution, entry (replaceNext 3 1),
      entry (replaceNext 4 2)]

def replacementBudget : AttemptBudgetKey := ⟨⟨.execution, .number 30⟩, .executionReplace⟩

set_option maxRecDepth 4096 in
theorem attempted_within_limits :
    ∃ budget, attempted.current.attemptBudgets.lookup replacementBudget = some budget ∧
      budget.used = 2 ∧ budget.used ≤ budget.limit ∧
      (budget.attempts.entries.map fun attempt => attempt.2).Nodup ∧
      evaluator.applies attempted.current attempted.current (replaceNext 5 3) (context 5) =
        false := by
  have reached : evaluator.Reaches (fun copy _ _ =>
      copy.authorizationPolicy.requirements.allowUnchangedRetry = false) attempted :=
    ((((Evaluator.Reaches.start limited .none).perform rfl).perform (by decide)).perform
      (by decide)).perform (by decide)
  have twice : (attempted.current.attemptBudgets.lookup replacementBudget).map (·.used) =
    some 2 := by decide
  obtain ⟨budget, found, used⟩ := Option.map_eq_some_iff.mp twice
  obtain ⟨kept, _, changing⟩ := attempts_within_limits reached
  exact ⟨budget, found, used, (kept replacementBudget budget found).2,
    changing (fun _ _ _ _ strict => strict) replacementBudget budget found, by decide⟩

end Sample

end Tekroo.Kernel
