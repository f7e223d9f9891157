import Tekroo.Kernel.Outcome
import Tekroo.Lib.Optimistic
import Tekroo.Store.Commit

namespace Tekroo.Kernel

open Lib

/-! # Accepted commands -/

structure AcceptedCommand (evaluator : Evaluator) (copy : Store) where
  command : KernelCommand
  context : DecisionContext
  definition : CommandDefinition
  acceptance : Acceptance
  contextValid : validateDecisionContext evaluator.hashes context = true
  resolved : evaluator.resolve command = .ok definition
  admitted : evaluator.Admitted command (copy.loadDecision command)
    (context.authorizedBy ((copy.loadDecision command).authorize command context)) definition
    ((copy.loadDecision command).authorize command context) acceptance
  basis : basisAndContextValid evaluator.hashes
    (context.authorizedBy ((copy.loadDecision command).authorize command context)) = true

namespace AcceptedCommand

variable {evaluator : Evaluator} {copy : Store} (accepted : AcceptedCommand evaluator copy)

def snapshot : Snapshot := copy.loadDecision accepted.command

def authorization : AuthorizationResult :=
  accepted.snapshot.authorize accepted.command accepted.context

def granted : DecisionContext := accepted.context.authorizedBy accepted.authorization

def decision : Decision :=
  acceptedDecision evaluator.hashes accepted.command accepted.definition accepted.granted
    accepted.acceptance
    (authorityDecision accepted.command accepted.snapshot accepted.authorization)

def target : AggregateRef := accepted.command.target

def event : DomainEvent :=
  accepted.acceptance.event accepted.command accepted.definition accepted.granted
    accepted.decision.receipt.provenanceDigest

theorem entry : commandEntry accepted.command.commandType = some accepted.definition :=
  (Catalogue.resolveCommand_ok (Evaluator.resolve_ok accepted.resolved).2).1

theorem targetKind : accepted.target.kind ∈ accepted.definition.targetKinds :=
  (Catalogue.resolveCommand_ok (Evaluator.resolve_ok accepted.resolved).2).2.1

theorem format : accepted.command.payload.hasFormat = true :=
  (Catalogue.resolveCommand_ok (Evaluator.resolve_ok accepted.resolved).2).2.2.2

theorem source : accepted.event.eventType.source = some accepted.command.commandType :=
  EventType.source_of_entry accepted.entry accepted.admitted.eventType

variable {commandType : CommandType}

theorem commandType_of {eventType : EventType} (type : accepted.event.eventType = eventType)
    (from_ : eventType.source = some commandType) : accepted.command.commandType = commandType := by
  have source := accepted.source
  rw [type, from_] at source
  exact (Option.some.inj source).symm

theorem commandTypePolicy_ok
    (unhandled : validateOperatorHumanContinuityCommand accepted.command accepted.snapshot
      accepted.granted = none) :
    commandTypePolicy accepted.command accepted.snapshot accepted.granted = .ok () :=
  validateCommandPolicy_ok accepted.admitted.policy unhandled

section Typed

variable (type : accepted.command.commandType = commandType)

include type

theorem eventType_of {eventType : EventType}
    (produces : (commandEntry commandType).map (·.eventTypes) = some [eventType]) :
    accepted.event.eventType = eventType := by
  rw [← type, accepted.entry, Option.map_some, accepted.admitted.eventType] at produces
  exact (List.cons.inj (Option.some.inj produces)).1

theorem targetKind_of :
    ((commandEntry commandType).any fun definition =>
      definition.targetKinds.contains accepted.target.kind) = true := by
  rw [← type, accepted.entry]
  simpa using accepted.targetKind

theorem target_kind {kind : AggregateKind}
    (only : (commandEntry commandType).map (·.targetKinds) = some [kind]) :
    accepted.target.kind = kind := by
  rw [← type, accepted.entry, Option.map_some] at only
  simpa [Option.some.inj only] using accepted.targetKind

theorem commandTypePolicy_of (other : operatorCommandType commandType = false) :
    commandTypePolicy accepted.command accepted.snapshot accepted.granted = .ok () :=
  accepted.commandTypePolicy_ok
    (validateOperatorHumanContinuityCommand_none (type ▸ other))

end Typed

@[simp] theorem event_aggregate : accepted.event.aggregate = accepted.target := rfl

@[simp] theorem event_eventID : accepted.event.eventID = accepted.context.eventID := rfl

theorem decision_events : accepted.decision.events = [accepted.event] := rfl

theorem event_payload (other : accepted.command.commandType ≠ .workInvocationAuthorize) :
    accepted.event.payload = accepted.command.payload := by
  obtain ⟨phase4, contributed, payload, _⟩ := accepted.admitted.phase4
  exact payload.trans ((phase4Contribution_ok contributed).2 other).1

theorem workBudget_none (other : accepted.command.commandType ≠ .workInvocationAuthorize) :
    accepted.decision.workBudget = none := by
  obtain ⟨phase4, contributed, _, debit, _⟩ := accepted.admitted.phase4
  exact debit.trans ((phase4Contribution_ok contributed).2 other).2

theorem authorizes (eventType : accepted.event.eventType = .workInvocationAuthorized) :
    ∃ value admission invocation debit,
      value.invocationID = accepted.target.id ∧
      Admits accepted.command accepted.snapshot value admission ∧
      admission.Planned value accepted.event.eventID invocation debit ∧
      accepted.event.payload = .invocationAuthorization invocation.permit ∧
      accepted.decision.workBudget = some debit := by
  have type := accepted.commandType_of eventType rfl
  obtain ⟨phase4, contributed, payload, debited, _⟩ := accepted.admitted.phase4
  simp only [phase4Contribution, evaluatePhase4Command, type] at contributed
  obtain ⟨value, admission, invocation, debit, _, target, admitted, planned, rfl⟩ :=
    authorizeInvocationPolicy_ok contributed
  exact ⟨value, admission, invocation, debit, target, admitted, planned, payload, debited⟩

theorem related_lookup {reference : AggregateRef} {related : RelatedSnapshot}
    (found : accepted.snapshot.related.lookup reference = some related) :
    related = copy.relatedSnapshot reference ∧
      containsAggregatePrecondition accepted.command reference = true := by
  have listed := lookup_insertAll_map ∅ AggregatePrecondition.aggregate copy.relatedSnapshot
    accepted.command.preconditions reference
  rw [show insertAll ∅ _ = accepted.snapshot.related from rfl, found] at listed
  split at listed
  · next named =>
    refine ⟨Option.some.inj listed, ?_⟩
    simpa [containsAggregatePrecondition] using named
  · simp at listed

end AcceptedCommand

/-! ## Handlers interleaved over one store

`LoadDecision` hands out copies of the store's maps, so a handler between its load and its commit
holds the store as it was at the load.
-/

inductive StoreInput where
  | decide (command : KernelCommand) (context : DecisionContext)
  | setPolicy (policy : AuthorizationPolicy)
  | recordConflict (audit : IdentityConflictAudit)

variable (evaluator : Evaluator)

/-- `copy` is the store the handler loaded its snapshot from, `current` the one it commits
to. -/
def Evaluator.update (copy current : Store) : StoreInput → Store
  | .decide command context =>
    match evaluator.evaluate command (copy.loadDecision command) context with
    | .ok decision =>
      (current.commit evaluator.hashes (copy.loadDecision command) decision).1
    | .error _ => current
  | .setPolicy policy => current.setAuthorizationPolicy policy
  | .recordConflict audit =>
    match current.recordIdentityConflict audit with
    | .ok next => next
    | .error _ => current

/-- The command is accepted on the copy and its decision is applied to the current store. -/
def Evaluator.applies (copy current : Store) (command : KernelCommand) (context : DecisionContext) :
    Bool :=
  match evaluator.evaluate command (copy.loadDecision command) context with
  | .ok decision =>
    decision.receipt.outcomeCode == .applied &&
      (current.commit evaluator.hashes (copy.loadDecision command) decision).2.applied
  | .error _ => false

/-- The interleavings, all of whose updates are allowed, of a store that starts empty. -/
def Evaluator.Reaches (allowed : Store → Store → StoreInput → Prop) (shared : Shared Store) :
    Prop :=
  ∃ policy faultPoint, Run evaluator.update allowed ⟨.new policy faultPoint, []⟩ shared

abbrev Evaluator.Reachable (shared : Shared Store) : Prop :=
  evaluator.Reaches (fun _ _ _ => True) shared

/-- The stores agree on everything that accepted commands work on: they differ at most in
the records of decisions, the policy and the audit of identity conflicts. -/
structure Store.SameWork (before after : Store) : Prop where
  states : after.states = before.states
  revisions : after.revisions = before.revisions
  events : after.events = before.events
  executions : after.executions = before.executions
  evidence : after.evidence = before.evidence
  outbox : after.outbox = before.outbox
  openReviews : after.openReviews = before.openReviews
  reviews : after.reviews = before.reviews
  eventQualifications : after.eventQualifications = before.eventQualifications
  escalations : after.escalations = before.escalations
  escalationKeys : after.escalationKeys = before.escalationKeys
  releasePlans : after.releasePlans = before.releasePlans
  releasePlanKeys : after.releasePlanKeys = before.releasePlanKeys
  attemptBudgets : after.attemptBudgets = before.attemptBudgets
  workProfiles : after.workProfiles = before.workProfiles
  qualifiedAssignments : after.qualifiedAssignments = before.qualifiedAssignments
  variantGroups : after.variantGroups = before.variantGroups
  variantGroupKeys : after.variantGroupKeys = before.variantGroupKeys
  workBudgetAccounts : after.workBudgetAccounts = before.workBudgetAccounts
  taskWorkBudgets : after.taskWorkBudgets = before.taskWorkBudgets
  taskOperationalScopes : after.taskOperationalScopes = before.taskOperationalScopes
  workInvocations : after.workInvocations = before.workInvocations
  faultPoint : after.faultPoint = before.faultPoint

/-- A command that was accepted on `copy` and whose decision passes every check of `Commit`
on `current`. -/
structure AppliedCommand (evaluator : Evaluator) (copy current : Store) extends
    AcceptedCommand evaluator copy where
  projections : Store.Projections
  prepared : current.Prepared evaluator.hashes (copy.loadDecision command)
    (acceptedDecision evaluator.hashes command definition
      (context.authorizedBy ((copy.loadDecision command).authorize command context)) acceptance
      (authorityDecision command (copy.loadDecision command)
        ((copy.loadDecision command).authorize command context))) projections

def AppliedCommand.after {evaluator : Evaluator} {copy current : Store}
    (applied : AppliedCommand evaluator copy current) : Store :=
  current.write evaluator.hashes applied.decision applied.projections

section Updates

variable {evaluator : Evaluator} {copy current before after : Store} {command : KernelCommand}
  {context : DecisionContext} {decision : Decision} {projections : Store.Projections}

theorem Store.SameWork.refl (store : Store) : store.SameWork store := by constructor <;> rfl

theorem Store.write_sameWork {hashes : Hashes}
    (prepared : current.prepareProjections decision = .ok projections)
    (events : decision.events = []) (state : decision.nextState = none)
    (revision : decision.receipt.resultingRevision = none) (outbox : decision.outbox = [])
    (attempt : decision.attemptBudget = none) :
    current.SameWork (current.write hashes decision projections) := by
  simp [prepareProjections, events, prepareEach, pure, Except.pure, bind, Except.bind]
    at prepared
  subst prepared
  constructor <;> simp [write, events, state, revision, outbox, attempt, reviewBoard]

/-- A decision of `Evaluate` that passes the checks of `Commit` is an accepted command, or it was
not applied and changes no work. -/
theorem Evaluator.prepared_cases
    (evaluated : evaluator.evaluate command (copy.loadDecision command) context = .ok decision)
    (result : current.prepare evaluator.hashes (copy.loadDecision command) decision = .ok
      projections) :
    (decision.receipt.outcomeCode ≠ .applied ∧ decision.events = [] ∧
        current.SameWork (current.write evaluator.hashes decision projections)) ∨
      ∃ applied : AppliedCommand evaluator copy current,
        applied.command = command ∧ applied.context = context ∧ applied.decision = decision ∧
          applied.projections = projections := by
  obtain ⟨valid, decided⟩ := Evaluator.evaluate_ok evaluated
  have prepared := Store.prepare_ok.mp result
  cases decided with
  | unresolved resolved =>
    exact .inl ⟨prepared.formed.not_applied rfl, rfl,
      Store.write_sameWork prepared.prepared rfl rfl rfl rfl rfl⟩
  | refused resolved refusing =>
    exact .inl ⟨prepared.formed.not_applied rfl, rfl,
      Store.write_sameWork prepared.prepared rfl rfl rfl rfl rfl⟩
  | accepted resolved admitted basis =>
    exact .inr ⟨⟨⟨command, context, _, _, valid, resolved, admitted, basis⟩, projections,
      prepared⟩, rfl, rfl, rfl, rfl⟩

/-- What `Commit` does with a decision that `Evaluate` made from a loaded snapshot. -/
theorem Evaluator.commit_cases (current : Store)
    (evaluated : evaluator.evaluate command (copy.loadDecision command) context = .ok decision) :
    (∃ reason, current.commit evaluator.hashes (copy.loadDecision command) decision =
        (current, .failed reason)) ∨
      (decision.receipt.outcomeCode ≠ .applied ∧ current.SameWork
        (current.commit evaluator.hashes (copy.loadDecision command) decision).1) ∨
      ∃ applied : AppliedCommand evaluator copy current,
        applied.command = command ∧ applied.context = context ∧ applied.decision = decision ∧
          (current.commit evaluator.hashes (copy.loadDecision command) decision).1 =
            applied.after := by
  unfold Store.commit
  cases result : current.prepare evaluator.hashes (copy.loadDecision command) decision with
  | error reason => exact .inl ⟨reason, rfl⟩
  | ok projections =>
    obtain ⟨rejected, _, same⟩ | ⟨applied, command, context, rfl, rfl⟩ :=
      prepared_cases evaluated result
    · exact .inr (.inl ⟨rejected, same⟩)
    · exact .inr (.inr ⟨applied, command, context, rfl, rfl⟩)

theorem Evaluator.update_cases (evaluator : Evaluator) (copy current : Store)
    (input : StoreInput) :
    current.SameWork (evaluator.update copy current input) ∨
      ∃ applied : AppliedCommand evaluator copy current,
        input = .decide applied.command applied.context ∧
          evaluator.update copy current input = applied.after := by
  cases input with
  | decide command context =>
    simp only [Evaluator.update]
    cases evaluated : evaluator.evaluate command (copy.loadDecision command) context with
    | error reason => exact .inl (.refl current)
    | ok decision =>
      obtain ⟨reason, failed⟩ | ⟨_, same⟩ | ⟨applied, rfl, rfl, _, written⟩ :=
        commit_cases current evaluated
      · simp only [failed]
        exact .inl (.refl current)
      · exact .inl same
      · exact .inr ⟨applied, rfl, written⟩
  | setPolicy policy => exact .inl (by constructor <;> rfl)
  | recordConflict audit =>
    refine .inl ?_
    simp only [Evaluator.update, Store.recordIdentityConflict]
    split
    · next next recorded =>
      split at recorded
      · cases recorded
      · cases recorded; constructor <;> rfl
    · exact .refl current

theorem Evaluator.applies_update
    (applies : evaluator.applies copy current command context = true) :
    ∃ applied : AppliedCommand evaluator copy current,
      applied.command = command ∧ applied.context = context ∧
        evaluator.update copy current (.decide command context) = applied.after := by
  simp only [Evaluator.applies] at applies
  cases evaluated : evaluator.evaluate command (copy.loadDecision command) context with
  | error reason => simp [evaluated] at applies
  | ok decision =>
    simp only [evaluated, tests_iff] at applies
    obtain ⟨outcome, written⟩ := applies
    obtain ⟨reason, failed⟩ | ⟨rejected, _⟩ | ⟨applied, same, context, _, after⟩ :=
      commit_cases current evaluated
    · simp [failed, CommitResult.applied] at written
    · exact absurd outcome rejected
    · exact ⟨applied, same, context, by simp only [Evaluator.update, evaluated, after]⟩

end Updates

namespace Evaluator.Reaches

variable {evaluator : Evaluator} {allowed : Store → Store → StoreInput → Prop}
  {shared : Shared Store} {copy : Store}

theorem copy_reached (reached : evaluator.Reaches allowed shared)
    (taken : copy ∈ shared.copies) :
    ∃ earlier, evaluator.Reaches allowed earlier ∧ earlier.current = copy := by
  obtain ⟨policy, faultPoint, run⟩ := reached
  obtain ⟨earlier, run, same⟩ := run.copy_reached rfl taken
  exact ⟨earlier, ⟨policy, faultPoint, run⟩, same⟩

/-- A property of the work in the store that an accepted command keeps when the store it was
loaded from has it too. -/
theorem holds {Holds : Store → Prop}
    (start : ∀ policy faultPoint, Holds (.new policy faultPoint))
    (recorded : ∀ {before after : Store}, before.SameWork after → Holds before → Holds after)
    (accepted : ∀ {shared : Shared Store} {copy : Store}
      (applied : AppliedCommand evaluator copy shared.current),
      evaluator.Reaches allowed shared → copy ∈ shared.copies →
      allowed copy shared.current (.decide applied.command applied.context) → Holds copy →
      Holds shared.current → Holds applied.after)
    (reached : evaluator.Reaches allowed shared) : Holds shared.current := by
  obtain ⟨policy, faultPoint, run⟩ := reached
  refine (run.holds_of_copies (fun {shared copy input} run taken permitted copied held => ?_)
    (start policy faultPoint) (by simp)).1
  obtain same | ⟨applied, rfl, written⟩ := evaluator.update_cases copy shared.current input
  · exact recorded same held
  · rw [written]
    exact accepted applied ⟨policy, faultPoint, run⟩ taken permitted copied held

/-- A preorder that every accepted command climbs leads from a handler's copy to the store
the handler finds. -/
theorem grows {Grows : Store → Store → Prop} (refl : ∀ store, Grows store store)
    (trans : ∀ {before between after}, Grows before between → Grows between after →
      Grows before after)
    (recorded : ∀ {before after : Store}, before.SameWork after → Grows before after)
    (accepted : ∀ {shared : Shared Store} {copy : Store}
      (applied : AppliedCommand evaluator copy shared.current),
      evaluator.Reaches allowed shared → copy ∈ shared.copies →
      allowed copy shared.current (.decide applied.command applied.context) →
      Grows shared.current applied.after)
    (reached : evaluator.Reaches allowed shared) (taken : copy ∈ shared.copies) :
    Grows copy shared.current := by
  obtain ⟨policy, faultPoint, run⟩ := reached
  refine (run.grows refl trans (fun {shared copy input} run taken permitted => ?_)
    (by simp)).2 copy taken
  obtain same | ⟨applied, rfl, written⟩ := evaluator.update_cases copy shared.current input
  · exact recorded same
  · rw [written]
    exact accepted applied ⟨policy, faultPoint, run⟩ taken permitted

end Evaluator.Reaches

end Tekroo.Kernel
