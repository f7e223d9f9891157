import Tekroo.Kernel.Provenance

namespace Tekroo.Kernel

open Checked

/-! # Planning an assignment -/

/-- The instant that is written when the fraction of its second is cut off; an instant counts
nanoseconds. -/
def Time.toSecond (time : Time) : Time := time - time % 1000000000

def QualificationStatus.valid : QualificationStatus → Bool
  | .other _ => false
  | _ => true

structure ModelProfileQualification where
  qualificationID : UUIDv7
  qualificationDigest : Digest
  qualificationCorpusDigest : Digest
  modelProfileDigest : Digest
  decisionRoute : DecisionRoute
  qualifiedRole : String
  qualifiedWorkKinds : List WorkKind
  status : QualificationStatus
  observedAt : Time
  expiresAt : Option Time
  revokedAt : Option Time
  evidenceIDs : List UUIDv7
deriving DecidableEq

namespace ModelProfileQualification

variable (qualification : ModelProfileQualification)

def valid : Bool :=
  qualification.qualificationID.valid && qualification.qualificationDigest.valid &&
    qualification.qualificationCorpusDigest.valid && qualification.modelProfileDigest.valid &&
    qualification.decisionRoute.modelExecutable && qualification.qualifiedRole != "" &&
    decide (qualification.qualifiedRole.utf8ByteSize ≤ 256) && qualification.status.valid &&
    !qualification.observedAt.isZero && validUniqueUUIDs qualification.evidenceIDs 1 64 &&
    decide (1 ≤ qualification.qualifiedWorkKinds.length) &&
    decide (qualification.qualifiedWorkKinds.length ≤ 7) &&
    qualification.qualifiedWorkKinds.all WorkKind.valid &&
    decide qualification.qualifiedWorkKinds.Nodup &&
    qualification.expiresAt.all (fun expiry => decide (qualification.observedAt < expiry)) &&
    qualification.revokedAt.all (fun revoked => !decide (revoked < qualification.observedAt))

def eligibleAt (at_ : Time) : Bool :=
  qualification.valid && qualification.status == .pass && !at_.isZero &&
    !decide (at_ < qualification.observedAt) &&
    qualification.revokedAt.all (fun revoked => decide (at_ < revoked)) &&
    qualification.expiresAt.all (fun expiry => decide (at_ < expiry))

end ModelProfileQualification

structure CostObservation where
  reported : Bool := false
  microunits : Nat := 0
deriving DecidableEq

def CostObservation.valid (cost : CostObservation) : Bool :=
  cost.reported || cost.microunits == 0

structure AssignmentCandidate where
  actorFQN : ActorFQN
  execution : ExecutionTuple
  activeAssignments : Nat
  modelProfileDigest : Digest
  runtimeIdentityDigest : Digest
  qualification : ModelProfileQualification
  hardConstraints : List HardConstraintResult
  selectionEvidence : List EvidenceRef
  selectionReasons : List String
  expectedTotalCost : CostObservation
deriving DecidableEq

def validEvidenceSet (values : List EvidenceRef) : Bool :=
  decide (1 ≤ values.length) && decide (values.length ≤ 64) &&
    values.all (fun value => value.evidenceID.valid && value.sha256.valid) &&
    decide (values.map (·.evidenceID)).Nodup

namespace AssignmentCandidate

/-- `candidateEligible`.  Each constraint is checked by itself: neither their ids nor the
evidence they name are compared with anything. -/
def eligible (candidate : AssignmentCandidate) (profile : WorkRiskProfile) (decidedAt : Time) :
    Bool :=
  candidate.qualification.eligibleAt decidedAt &&
    candidate.qualification.modelProfileDigest == candidate.modelProfileDigest &&
    candidate.qualification.decisionRoute.modelExecutable &&
    candidate.qualification.decisionRoute.satisfies profile.minimumDecisionRoute &&
    candidate.qualification.qualifiedWorkKinds.contains profile.workKind &&
    validEvidenceSet candidate.selectionEvidence &&
    validUniqueStrings candidate.selectionReasons 1 64 &&
    decide (1 ≤ candidate.hardConstraints.length) &&
    decide (candidate.hardConstraints.length ≤ 64) &&
    candidate.hardConstraints.all (fun result => result.valid && result.outcome == .pass) &&
    candidate.expectedTotalCost.valid

def le (left right : AssignmentCandidate) : Bool :=
  let leftCost := left.expectedTotalCost
  let rightCost := right.expectedTotalCost
  if leftCost.reported != rightCost.reported then leftCost.reported
  else if leftCost.reported && leftCost.microunits != rightCost.microunits then
    decide (leftCost.microunits < rightCost.microunits)
  else if left.activeAssignments != right.activeAssignments then
    decide (left.activeAssignments < right.activeAssignments)
  else decide (left.actorFQN.text ≤ right.actorFQN.text)

def wellFormed (candidate : AssignmentCandidate) : Bool :=
  candidate.actorFQN.valid && candidate.execution.valid && candidate.modelProfileDigest.valid &&
    candidate.runtimeIdentityDigest.valid

end AssignmentCandidate

structure DependencyRequirement where
  aggregate : AggregateRef
  requiredPhase : Phase
  observedState : Option AggregateState
  evidenceEventID : UUIDv7

structure AssignmentInput where
  task : AggregateState
  dependencies : List DependencyRequirement
  readinessParents : List DagParent
  readiedEventID : UUIDv7
  readinessPolicyRevision : Nat
  workProfile : WorkProfileSnapshot
  selectionPolicyRevision : Nat
  selectionPolicyDigest : Digest
  decidedAt : Time
  candidates : List AssignmentCandidate

inductive AssignmentStatus where
  | ready | blocked | noEligibleActor | alreadyOwned | notRunnable | invalid
deriving DecidableEq

def AssignmentStatus.reason : AssignmentStatus → String
  | .ready => "READY_TO_ASSIGN"
  | .blocked => "DEPENDENCY_PREDICATE_UNSATISFIED"
  | .noEligibleActor => "NO_ELIGIBLE_ACTOR"
  | .alreadyOwned => "TASK_ALREADY_OWNED"
  | .notRunnable => "TASK_NOT_RUNNABLE"
  | .invalid => "INVALID_ASSIGNMENT_INPUT"

/-- The defaults are Go's zero values. -/
structure AssignmentDecision where
  status : AssignmentStatus
  task : AggregateState
  needsReadiness : Bool := false
  readinessPolicyRevision : Nat := 0
  dependencyEventIDs : List UUIDv7 := []
  readinessParents : List DagParent := []
  actorFQN : Option ActorFQN := none
  execution : Option ExecutionTuple := none
  workProfile : WorkProfileBinding := ⟨.text "", 0, .text "", 0, 0⟩
  requiredDecisionRoute : DecisionRoute := .other ""
  selectedDecisionRoute : DecisionRoute := .other ""
  modelProfileDigest : Digest := .text ""
  runtimeIdentityDigest : Digest := .text ""
  qualification : Option ModelProfileQualification := none
  selectionPolicyRevision : Nat := 0
  selectionPolicyDigest : Digest := .text ""
  hardConstraints : List HardConstraintResult := []
  selectionEvidence : List EvidenceRef := []
  selectionReasons : List String := []
  expectedTotalCost : CostObservation := {}

def AssignmentDecision.reason (decision : AssignmentDecision) : String := decision.status.reason

def validAssignmentTask (task : AggregateState) : Bool :=
  task.kind == .task && task.id.valid && decide (0 < task.revision) &&
    decide (0 < task.lifecycleEpoch) && decide (0 < task.scopeRevision)

def terminalDependencyPhase : Phase → Bool
  | .completed | .accepted | .closed => true
  | _ => false

def canonicalAssignmentParents (values : List DagParent) : Option (List DagParent) :=
  if values.all (fun parent => parent.parentEventID.valid && parent.edgeKind.valid) &&
      decide ((canonicalParents values).IsChain (· ≠ ·)) then
    some (canonicalParents values)
  else none

theorem canonicalAssignmentParents_some {values parents : List DagParent}
    (canonical : canonicalAssignmentParents values = some parents) :
    parents = canonicalParents values ∧
      (∀ parent ∈ values, (parent.parentEventID.valid && parent.edgeKind.valid) = true) ∧
      parents.Nodup := by
  obtain ⟨checked, same⟩ := Option.ite_none_right_eq_some.mp canonical
  simp only [tests_iff] at checked
  obtain ⟨valid, differ⟩ := checked
  have edge : ∀ parent ∈ canonicalParents values, parent.edgeKind.valid = true :=
    fun parent member => (valid parent ((canonicalParents_perm values).mem_iff.mp member)).2
  refine ⟨(Option.some.inj same).symm, fun parent member =>
    Bool.and_eq_true_iff.mpr (valid parent member), ?_⟩
  rw [← Option.some.inj same]
  exact nodup_of_sorted (canonicalParents_sorted values) differ
    fun left within right also => DagParent.le_antisymm (edge left within) (edge right also)

namespace DependencyRequirement

def satisfied (dependency : DependencyRequirement) : Bool :=
  dependency.observedState.any fun state =>
    state.kind == dependency.aggregate.kind && state.id == dependency.aggregate.id &&
      state.revision != 0 && state.lifecycleEpoch != 0 && state.phase == dependency.requiredPhase

def events (linked : List UUIDv7) :
    Option AggregateRef → List DependencyRequirement → List UUIDv7 × Option AssignmentStatus
  | _, [] => ([], none)
  | previous, dependency :: rest =>
    if !dependency.aggregate.valid || !terminalDependencyPhase dependency.requiredPhase ||
        !dependency.evidenceEventID.valid || previous == some dependency.aggregate then
      ([], some .invalid)
    else if !linked.contains dependency.evidenceEventID then
      ([dependency.evidenceEventID], some .invalid)
    else if !dependency.satisfied then ([dependency.evidenceEventID], some .blocked)
    else
      let (ids, stopped) := events linked (some dependency.aggregate) rest
      (dependency.evidenceEventID :: ids, stopped)

theorem events_status (linked : List UUIDv7) (previous : Option AggregateRef)
    (dependencies : List DependencyRequirement) :
    (events linked previous dependencies).2 ≠ some .ready := by
  induction dependencies generalizing previous with
  | nil => nofun
  | cons dependency rest induction =>
    unfold events
    split
    · nofun
    · split
      · nofun
      · split
        · nofun
        · exact induction _

end DependencyRequirement

namespace AssignmentInput

def valid (input : AssignmentInput) : Bool :=
  validAssignmentTask input.task && decide (0 < input.readinessPolicyRevision) &&
    decide (0 < input.selectionPolicyRevision) && input.selectionPolicyDigest.valid &&
    !input.decidedAt.isZero && input.workProfile.valid &&
    input.workProfile.profile.taskID == input.task.id &&
    input.workProfile.profile.lifecycleEpoch == input.task.lifecycleEpoch &&
    input.workProfile.profile.scopeRevision == input.task.scopeRevision &&
    input.workProfile.profile.minimumDecisionRoute.modelExecutable &&
    decide (input.dependencies.length ≤ 64) && decide (1 ≤ input.readinessParents.length) &&
    decide (input.readinessParents.length ≤ 64) && decide (input.candidates.length ≤ 64)

variable (input : AssignmentInput) (decision : AssignmentDecision)

/-- The candidates that are eligible; `none` if some candidate is not well formed or an actor
stands twice. -/
def eligibleCandidates : Option (List AssignmentCandidate) :=
  if input.candidates.all AssignmentCandidate.wellFormed &&
      decide (input.candidates.map (·.actorFQN)).Nodup then
    some (input.candidates.filter fun candidate =>
      candidate.eligible input.workProfile.profile input.decidedAt)
  else none

def selected : Option AssignmentCandidate :=
  input.eligibleCandidates.bind fun eligible =>
    (eligible.insertionSort fun left right => left.le right).head?

def refused : AssignmentDecision where
  status := .invalid
  task := input.task

def profiled : AssignmentDecision :=
  { input.refused with
    workProfile := input.workProfile.profile.binding
    requiredDecisionRoute := input.workProfile.profile.minimumDecisionRoute
    selectionPolicyRevision := input.selectionPolicyRevision
    selectionPolicyDigest := input.selectionPolicyDigest }

def linked (parents : List DagParent) : AssignmentDecision :=
  { input.profiled with
    readinessParents := parents
    readinessPolicyRevision := input.readinessPolicyRevision }

def assigned (selected : AssignmentCandidate) : AssignmentDecision :=
  { decision with
    status := .ready
    actorFQN := some selected.actorFQN
    execution := some selected.execution
    selectedDecisionRoute := selected.qualification.decisionRoute
    modelProfileDigest := selected.modelProfileDigest
    runtimeIdentityDigest := selected.runtimeIdentityDigest
    qualification := some selected.qualification
    hardConstraints := selected.hardConstraints
    selectionEvidence := selected.selectionEvidence
    selectionReasons := selected.selectionReasons
    expectedTotalCost := selected.expectedTotalCost
    needsReadiness := input.task.phase == .planned
    readinessParents :=
      if input.task.phase == .planned then decision.readinessParents
      else [⟨input.readiedEventID, .causal⟩] }

/-- The part of the plan after the dependencies. -/
def select : AssignmentDecision :=
  if input.eligibleCandidates.isNone then decision
  else
    match input.selected with
    | none => { decision with status := .noEligibleActor }
    | some selected => input.assigned decision selected

/-- The part of the plan after the checks of the task. -/
def resolve : AssignmentDecision :=
  match DependencyRequirement.events (decision.readinessParents.map (·.parentEventID)) none
      (input.dependencies.insertionSort fun left right => left.aggregate.le right.aggregate) with
  | (ids, some status) => { decision with status, dependencyEventIDs := ids }
  | (ids, none) =>
    let decision := { decision with dependencyEventIDs := canonicalUUIDs ids }
    if !decide ((canonicalUUIDs ids).IsChain (· ≠ ·)) then decision
    else input.select decision

/-- The part of the plan after the readiness parents. -/
def plan : AssignmentDecision :=
  if input.task.ownership.ownerFQN.isSome then { decision with status := .alreadyOwned }
  else if input.task.condition != .runnable ||
      (input.task.phase != .planned && input.task.phase != .ready) then
    { decision with status := .notRunnable }
  else if input.task.phase == .ready && !input.readiedEventID.valid then decision
  else input.resolve decision

end AssignmentInput

def planAssignment (input : AssignmentInput) : AssignmentDecision :=
  if !input.valid then input.refused
  else
    match canonicalAssignmentParents input.readinessParents with
    | none => input.profiled
    | some parents => input.plan (input.linked parents)

namespace AssignmentInput

variable {input : AssignmentInput} {candidate : AssignmentCandidate}

theorem selected_eligible (selected : input.selected = some candidate) :
    candidate.wellFormed = true ∧
      candidate.eligible input.workProfile.profile input.decidedAt = true := by
  obtain ⟨eligible, checked, first⟩ := Option.bind_eq_some_iff.mp selected
  obtain ⟨formed, same⟩ := Option.ite_none_right_eq_some.mp checked
  cases same
  have member := (List.perm_insertionSort _ _).mem_iff.mp (List.mem_of_mem_head? first)
  obtain ⟨listed, eligible⟩ := List.mem_filter.mp member
  rw [Bool.and_eq_true] at formed
  exact ⟨List.all_eq_true.mp formed.1 candidate listed, eligible⟩

structure Formed (input : AssignmentInput) : Prop where
  task : validAssignmentTask input.task = true
  selectionPolicyRevision : 0 < input.selectionPolicyRevision
  selectionPolicyDigest : input.selectionPolicyDigest.valid = true
  workProfile : input.workProfile.valid = true
  binding : input.workProfile.profile.binding.valid = true
  epoch : input.workProfile.profile.lifecycleEpoch = input.task.lifecycleEpoch
  scope : input.workProfile.profile.scopeRevision = input.task.scopeRevision
  route : input.workProfile.profile.minimumDecisionRoute.modelExecutable = true
  someParent : 1 ≤ input.readinessParents.length
  parents : input.readinessParents.length ≤ 64

theorem formed_of_valid (checked : input.valid = true) : input.Formed := by
  simp only [valid, tests_iff] at checked
  have profile := checked.1.1.1.1.1.1.1.1.2
  have formed := profile
  simp only [WorkProfileSnapshot.valid, tests_iff] at formed
  constructor <;> simp [checked, WorkRiskProfile.binding_of_valid formed.1.1]

structure Plans (input : AssignmentInput) (candidate : AssignmentCandidate)
    (decision : AssignmentDecision) : Prop where
  formed : input.Formed
  parents : canonicalAssignmentParents input.readinessParents =
    some (canonicalParents input.readinessParents)
  runnable : input.task.condition = .runnable
  phase : input.task.phase = .planned ∨
    input.task.phase = .ready ∧ input.readiedEventID.valid = true
  selected : input.selected = some candidate
  assigned : ∃ ids, decision = input.assigned
    { input.linked (canonicalParents input.readinessParents) with dependencyEventIDs := ids }
    candidate

variable {decision : AssignmentDecision}

section

variable (plans : input.Plans candidate decision)

include plans

theorem Plans.selects :
    decision.actorFQN = some candidate.actorFQN ∧
      decision.execution = some candidate.execution ∧
      decision.qualification = some candidate.qualification := by
  obtain ⟨ids, rfl⟩ := plans.assigned
  exact ⟨rfl, rfl, rfl⟩

theorem Plans.task : decision.task = input.task := by
  obtain ⟨ids, rfl⟩ := plans.assigned
  rfl

theorem Plans.needsReadiness :
    decision.needsReadiness = (input.task.phase == .planned) ∧
      decision.readinessParents = if input.task.phase == .planned then
        canonicalParents input.readinessParents else [⟨input.readiedEventID, .causal⟩] := by
  obtain ⟨ids, rfl⟩ := plans.assigned
  exact ⟨rfl, rfl⟩

end

theorem select_ready (decision : AssignmentDecision) (waiting : decision.status ≠ .ready)
    (ready : (input.select decision).status = .ready) :
    ∃ candidate, input.selected = some candidate ∧
      input.select decision = input.assigned decision candidate := by
  unfold select at ready ⊢
  split at ready
  · exact absurd ready waiting
  · next qualified =>
    rw [if_neg qualified]
    cases chosen : input.selected with
    | none => simp [chosen] at ready
    | some candidate => exact ⟨candidate, rfl, rfl⟩

theorem resolve_ready (waiting : decision.status ≠ .ready)
    (ready : (input.resolve decision).status = .ready) :
    ∃ ids candidate, input.selected = some candidate ∧
      input.resolve decision =
        input.assigned { decision with dependencyEventIDs := ids } candidate := by
  unfold resolve at ready ⊢
  split at ready
  · next ids status stopped =>
    have failed := DependencyRequirement.events_status
      (decision.readinessParents.map (·.parentEventID)) none
      (input.dependencies.insertionSort fun left right => left.aggregate.le right.aggregate)
    rw [stopped] at failed
    exact absurd (congrArg some ready) failed
  · next ids found =>
    split at ready
    · exact absurd ready waiting
    · next distinct =>
      obtain ⟨candidate, selected, same⟩ := select_ready
        { decision with dependencyEventIDs := canonicalUUIDs ids } waiting ready
      refine ⟨canonicalUUIDs ids, candidate, selected, ?_⟩
      simp only [if_neg distinct]
      exact same

theorem plan_ready (waiting : decision.status ≠ .ready)
    (ready : (input.plan decision).status = .ready) :
    input.task.condition = .runnable ∧
      (input.task.phase = .planned ∨
        input.task.phase = .ready ∧ input.readiedEventID.valid = true) ∧
      input.plan decision = input.resolve decision := by
  unfold plan at ready ⊢
  split at ready
  · cases ready
  · next unowned =>
    split at ready
    · cases ready
    · next runnable =>
      split at ready
      · exact absurd ready waiting
      · next readied =>
        rw [if_neg unowned, if_neg runnable, if_neg readied]
        simp only [tests_iff, ne_eq, not_or, not_and, not_not] at runnable
        refine ⟨runnable.1, ?_, rfl⟩
        by_cases planned : input.task.phase = .planned
        · exact .inl planned
        · have phase := runnable.2 planned
          exact .inr ⟨phase, by simpa [phase] using readied⟩

end AssignmentInput

theorem planAssignment_ready {input : AssignmentInput}
    (ready : (planAssignment input).status = .ready) :
    ∃ candidate, input.Plans candidate (planAssignment input) := by
  unfold planAssignment at ready ⊢
  split at ready
  · cases ready
  · next accepted =>
    rw [if_neg accepted]
    split at ready
    · cases ready
    · next parents canonical =>
      have sorted : parents = canonicalParents input.readinessParents :=
        (Option.some.inj (Option.ite_none_right_eq_some.mp canonical).2).symm
      subst sorted
      have waiting : (input.linked (canonicalParents input.readinessParents)).status ≠
          .ready := nofun
      obtain ⟨runnable, phase, resolved⟩ := AssignmentInput.plan_ready waiting ready
      rw [resolved] at ready ⊢
      obtain ⟨ids, candidate, selected, assigned⟩ := AssignmentInput.resolve_ready waiting ready
      exact ⟨candidate, AssignmentInput.formed_of_valid (by simpa using accepted), canonical,
        runnable, phase, selected, ids, assigned⟩

end Tekroo.Kernel
