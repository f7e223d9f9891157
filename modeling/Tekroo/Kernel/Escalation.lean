import Tekroo.Kernel.ReleasePlan

namespace Tekroo.Kernel

/-! # Escalations -/

inductive EscalationState where
  | «open» | terminal
  | other (text : String)
deriving DecidableEq

inductive EscalationAction where
  | «open» | resolve | reroute
  | other (text : String)

inductive EscalationSourceRole where
  | adjudicator | policyTimeout
  | other (text : String)
deriving DecidableEq

inductive EscalationTrigger where
  | retryExhausted | validationConflict | validationInconclusive | validationBudgetExhausted
  | validationDeadlineExpired | handoffCycleDetected | handoffBudgetExhausted
  | requirementContradiction | architectureAmbiguity | materialVariantDisagreement
  | capabilityMismatch | riskProfileBreach | blastRadiusExceeded
  | securityClassificationElevated | rootCauseUnresolved | requiredToolUnavailable
  | noveltyReclassified
  | other (text : String)
deriving DecidableEq

def EscalationTrigger.valid : EscalationTrigger → Bool
  | .other _ => false
  | _ => true

inductive EscalationOutcome where
  | resolved | rejected | split | blocked | humanRequired
  | other (text : String)
deriving DecidableEq

def EscalationOutcome.valid : EscalationOutcome → Bool
  | .other _ => false
  | _ => true

structure EscalationKey where
  subject : AggregateRef
  lifecycleEpoch : Nat
  trigger : EscalationTrigger
  conditionDigest : Digest
deriving DecidableEq

def EscalationKey.valid (key : EscalationKey) : Bool :=
  (key.subject.kind == .story || key.subject.kind == .task) && key.subject.valid &&
    decide (0 < key.lifecycleEpoch) && key.trigger.valid && key.conditionDigest.valid

structure EscalationSnapshot where
  escalationID : UUIDv7
  openingEventID : UUIDv7
  revision : Nat
  state : EscalationState
  subject : AggregateRef
  subjectLifecycleEpoch : Nat
  expectedSubjectRevision : Nat
  trigger : EscalationTrigger
  conditionDigest : Digest
  adjudicator : PrincipalRef
  timeoutPolicy : PrincipalRef
  resolutionOwnerFQN : ActorFQN
  deadlineAt : Time
  resolutionRoundLimit : Nat
  routeLimit : Nat
  policyRevision : Nat
  causalPathEventIDs : List UUIDv7
  unresolvedQuestion : String
  evidenceIDs : List UUIDv7
  terminalOutcome : EscalationOutcome
  resolutionEventID : UUIDv7

namespace EscalationSnapshot

def key (snapshot : EscalationSnapshot) : EscalationKey :=
  ⟨snapshot.subject, snapshot.subjectLifecycleEpoch, snapshot.trigger, snapshot.conditionDigest⟩

def valid (snapshot : EscalationSnapshot) : Bool :=
  snapshot.escalationID.valid &&
    (snapshot.openingEventID == .text "" || snapshot.openingEventID.valid) &&
    decide (0 < snapshot.revision) && snapshot.key.valid &&
    decide (0 < snapshot.expectedSubjectRevision) && snapshot.adjudicator.valid &&
    snapshot.timeoutPolicy.kind == .policy && snapshot.timeoutPolicy.valid &&
    snapshot.resolutionOwnerFQN.valid && !snapshot.deadlineAt.isZero &&
    decide (0 < snapshot.resolutionRoundLimit) &&
    decide (snapshot.resolutionRoundLimit ≤ 1000) && snapshot.routeLimit == 1 &&
    decide (0 < snapshot.policyRevision) && !snapshot.causalPathEventIDs.isEmpty &&
    decide (snapshot.causalPathEventIDs.length ≤ 64) && snapshot.unresolvedQuestion != "" &&
    decide (snapshot.unresolvedQuestion.utf8ByteSize ≤ 4096) &&
    !snapshot.evidenceIDs.isEmpty && decide (snapshot.evidenceIDs.length ≤ 64) &&
    validUUIDSet snapshot.causalPathEventIDs false && validUUIDSet snapshot.evidenceIDs false &&
    match snapshot.state with
    | .open =>
      snapshot.terminalOutcome == .other "" && snapshot.resolutionEventID == .text ""
    | .terminal => snapshot.terminalOutcome.valid && snapshot.resolutionEventID.valid
    | .other _ => false

end EscalationSnapshot

structure EscalationOpenPayload where
  escalationID : UUIDv7
  subjectKind : AggregateKind
  subjectID : UUIDv7
  subjectLifecycleEpoch : Nat
  expectedSubjectRevision : Nat
  trigger : EscalationTrigger
  conditionDigest : Digest
  adjudicator : PrincipalRef
  timeoutPolicy : PrincipalRef
  resolutionOwnerFQN : ActorFQN
  deadlineAt : Time
  resolutionRoundLimit : Nat
  routeLimit : Nat
  policyRevision : Nat
  causalPathEventIDs : List UUIDv7
  unresolvedQuestion : String
  evidenceIDs : List UUIDv7

/-- `EscalationFromOpenPayload` -/
def EscalationOpenPayload.snapshot (value : EscalationOpenPayload) : Option EscalationSnapshot :=
  let snapshot : EscalationSnapshot := {
    escalationID := value.escalationID
    openingEventID := .text ""
    revision := 1
    state := .open
    subject := ⟨value.subjectKind, value.subjectID⟩
    subjectLifecycleEpoch := value.subjectLifecycleEpoch
    expectedSubjectRevision := value.expectedSubjectRevision
    trigger := value.trigger
    conditionDigest := value.conditionDigest
    adjudicator := value.adjudicator
    timeoutPolicy := value.timeoutPolicy
    resolutionOwnerFQN := value.resolutionOwnerFQN
    deadlineAt := value.deadlineAt
    resolutionRoundLimit := value.resolutionRoundLimit
    routeLimit := value.routeLimit
    policyRevision := value.policyRevision
    causalPathEventIDs := value.causalPathEventIDs
    unresolvedQuestion := value.unresolvedQuestion
    evidenceIDs := value.evidenceIDs
    terminalOutcome := .other ""
    resolutionEventID := .text "" }
  if snapshot.valid then some snapshot else none

structure EscalationTransition where
  action : EscalationAction
  escalationID : UUIDv7
  subject : AggregateRef
  authority : PrincipalRef
  sourceRole : EscalationSourceRole
  subjectLifecycleEpoch : Nat
  expectedRevision : Nat
  decidedAt : Time
  round : Nat
  outcome : EscalationOutcome
  reasons : List String
  evidenceIDs : List UUIDv7

/-- `EvaluateEscalation`: the reason of the refusal, or `none` when the transition is
accepted and makes the escalation terminal. -/
def evaluateEscalation (snapshot : EscalationSnapshot) (transition : EscalationTransition) :
    Option String :=
  if snapshot.state == .terminal then some "ESCALATION_TERMINAL"
  else
    match transition.action with
    | .open => some "ESCALATION_ALREADY_OPEN"
    | .reroute => some "REROUTE_PROHIBITED"
    | .other _ => some "INVALID_ACTION"
    | .resolve =>
      if transition.subjectLifecycleEpoch != snapshot.subjectLifecycleEpoch then
        some "LIFECYCLE_EPOCH_MISMATCH"
      else if !transition.outcome.valid then some "INVALID_TERMINAL_OUTCOME"
      else
        match transition.sourceRole with
        | .adjudicator =>
          if transition.authority != snapshot.adjudicator then some "ADJUDICATOR_MISMATCH"
          else if transition.round == 0 ||
              decide (snapshot.resolutionRoundLimit < transition.round) then
            some "RESOLUTION_BUDGET_EXHAUSTED"
          else if snapshot.deadlineAt < transition.decidedAt then
            some "ADJUDICATOR_DEADLINE_EXCEEDED"
          else none
        | .policyTimeout =>
          if transition.authority != snapshot.timeoutPolicy then
            some "TIMEOUT_POLICY_MISMATCH"
          else if ¬ snapshot.deadlineAt < transition.decidedAt then
            some "DEADLINE_NOT_REACHED"
          else if transition.outcome != .blocked && transition.outcome != .humanRequired then
            some "INVALID_TIMEOUT_OUTCOME"
          else none
        | .other _ => some "INVALID_SOURCE_ROLE"

structure EscalationResolvePayload where
  escalationID : UUIDv7
  subjectKind : AggregateKind
  subjectID : UUIDv7
  subjectLifecycleEpoch : Nat
  expectedRevision : Nat
  sourceRole : EscalationSourceRole
  round : Nat
  outcome : EscalationOutcome
  reasons : List String
  evidenceIDs : List UUIDv7
  decidedAt : Time

/-- `EscalationTransitionFromResolvePayload` -/
def EscalationResolvePayload.transition (value : EscalationResolvePayload) :
    Option EscalationTransition :=
  if value.escalationID.valid && value.subjectID.valid &&
      (value.subjectKind == .story || value.subjectKind == .task) &&
      decide (0 < value.subjectLifecycleEpoch) && decide (0 < value.expectedRevision) &&
      (value.sourceRole == .adjudicator || value.sourceRole == .policyTimeout) &&
      decide (0 < value.round) && decide (value.round ≤ 1000) && value.outcome.valid &&
      validUniqueStrings value.reasons 1 64 && validUniqueUUIDs value.evidenceIDs 1 64 &&
      !value.decidedAt.isZero then
    some {
      action := .resolve
      escalationID := value.escalationID
      subject := ⟨value.subjectKind, value.subjectID⟩
      authority := ⟨.other "", ""⟩
      sourceRole := value.sourceRole
      subjectLifecycleEpoch := value.subjectLifecycleEpoch
      expectedRevision := value.expectedRevision
      decidedAt := value.decidedAt
      round := value.round
      outcome := value.outcome
      reasons := value.reasons
      evidenceIDs := value.evidenceIDs }
  else none

/-- `ApplyEscalationResolution`.  The time that counts is the commit time, not the one the
payload reports. -/
def EscalationSnapshot.applyResolution (snapshot : EscalationSnapshot)
    (authority : PrincipalRef) (eventID : UUIDv7) (committedAt : Time)
    (value : EscalationResolvePayload) : Option EscalationSnapshot :=
  match value.transition with
  | none => none
  | some transition =>
    let next := { snapshot with
      revision := snapshot.revision + 1
      state := .terminal
      terminalOutcome := transition.outcome
      resolutionEventID := eventID }
    if snapshot.valid && snapshot.state == .open &&
        transition.escalationID == snapshot.escalationID &&
        transition.subject == snapshot.subject &&
        transition.subjectLifecycleEpoch == snapshot.subjectLifecycleEpoch &&
        transition.expectedRevision == snapshot.revision && eventID.valid &&
        !committedAt.isZero &&
        (evaluateEscalation snapshot
          { transition with authority, decidedAt := committedAt }).isNone &&
        next.valid then
      some next
    else none

variable {snapshot : EscalationSnapshot} {eventID : UUIDv7} {authority : PrincipalRef}
  {committedAt : Time}

theorem EscalationSnapshot.applyResolution_valid {next : EscalationSnapshot}
    {value : EscalationResolvePayload}
    (resolved : snapshot.applyResolution authority eventID committedAt value = some next) :
    next.valid = true := by
  unfold applyResolution at resolved
  split at resolved
  · cases resolved
  · simp only [tests_iff] at resolved
    obtain ⟨⟨_, valid⟩, rfl⟩ := resolved
    exact valid

theorem EscalationOpenPayload.snapshot_valid {value : EscalationOpenPayload}
    (opened : value.snapshot = some snapshot) : snapshot.valid = true := by
  simp only [EscalationOpenPayload.snapshot, tests_iff] at opened
  obtain ⟨valid, rfl⟩ := opened
  exact valid

theorem EscalationSnapshot.valid_opened {revision : Nat} (valid : snapshot.valid = true)
    (identified : eventID.valid = true) (positive : 0 < revision) :
    { snapshot with openingEventID := eventID, revision }.valid = true := by
  simp only [EscalationSnapshot.valid, EscalationSnapshot.key, Bool.and_eq_true] at valid ⊢
  simp only [valid, identified, positive, Bool.or_true, decide_true, and_self]

theorem EscalationSnapshot.applyResolution_ok {value : EscalationResolvePayload}
    {transition : EscalationTransition} (parsed : value.transition = some transition)
    (valid : snapshot.valid = true) (id : transition.escalationID = snapshot.escalationID)
    (subject : transition.subject = snapshot.subject)
    (epoch : transition.subjectLifecycleEpoch = snapshot.subjectLifecycleEpoch)
    (revision : transition.expectedRevision = snapshot.revision) (identified : eventID.valid = true)
    (committed : committedAt.isZero = false)
    (resolved : evaluateEscalation snapshot { transition with authority, decidedAt := committedAt }
      = none) :
    ∃ next, snapshot.applyResolution authority eventID committedAt value = some next ∧
      next.revision = snapshot.revision + 1 := by
  have running : snapshot.state ≠ .terminal := by
    intro terminal
    simp [evaluateEscalation, terminal] at resolved
  have state : snapshot.state = .open := by
    have stated := valid
    simp only [EscalationSnapshot.valid, Bool.and_eq_true] at stated
    cases kind : snapshot.state <;> simp_all
  have outcome : transition.outcome.valid = true := by
    simp only [EscalationResolvePayload.transition, tests_iff] at parsed
    obtain ⟨checked, rfl⟩ := parsed
    exact checked.1.1.1.2
  have next : { snapshot with
      revision := snapshot.revision + 1
      state := .terminal
      terminalOutcome := transition.outcome
      resolutionEventID := eventID }.valid = true := by
    simp only [EscalationSnapshot.valid, EscalationSnapshot.key, Bool.and_eq_true] at valid ⊢
    simp only [valid, outcome, identified, Nat.succ_pos, decide_true, and_self]
  refine ⟨{ snapshot with
    revision := snapshot.revision + 1
    state := .terminal
    terminalOutcome := transition.outcome
    resolutionEventID := eventID }, ?_, rfl⟩
  unfold EscalationSnapshot.applyResolution
  rw [parsed]
  refine if_pos ?_
  rw [resolved]
  simp [valid, state, id, subject, epoch, revision, identified, committed, next]

end Tekroo.Kernel
