import Tekroo.Kernel.Graph
import Tekroo.Kernel.Types
import Tekroo.Lib.Table

/-! # Workflow definitions

`Validate` knows a single error, so it is a Boolean here, `true` where the source returns `nil`.
The digest of a definition is a parameter.
-/

namespace Tekroo.Kernel

inductive WorkflowPurpose where
  | handoff | implementation | validation | review | repair | replan | promotion
  | other (text : String)
deriving DecidableEq

def WorkflowPurpose.valid : WorkflowPurpose → Bool
  | .other _ => false
  | _ => true

inductive WorkflowRisk where
  | low | moderate | high | critical
  | other (text : String)
deriving DecidableEq

def WorkflowRisk.valid : WorkflowRisk → Bool
  | .other _ => false
  | _ => true

inductive WorkflowTargetSelection where
  | exactActor | capability | operator | none
  | other (text : String)
deriving DecidableEq

def WorkflowTargetSelection.valid : WorkflowTargetSelection → Bool
  | .other _ => false
  | _ => true

inductive WorkflowValidationPolicy where
  | deterministic | riskSelected | specialized | operatorApproved
  | other (text : String)
deriving DecidableEq

def WorkflowValidationPolicy.valid : WorkflowValidationPolicy → Bool
  | .other _ => false
  | _ => true

/-- `workflowNamePattern`: `[a-z0-9](?:[a-z0-9.-]{0,126}[a-z0-9])?` -/
def workflowName (text : String) : Bool :=
  let chars := text.toList
  decide (1 ≤ chars.length) && decide (chars.length ≤ 128) &&
    chars.all (fun char => ActorFQN.labelEnd char || char == '.' || char == '-') &&
    chars.head?.any ActorFQN.labelEnd && chars.getLast?.any ActorFQN.labelEnd

/-- `semanticVersionPattern`: `[0-9]+\.[0-9]+\.[0-9]+` -/
def semanticVersion (text : String) : Bool :=
  let parts := text.toList.splitOn '.'
  parts.length == 3 && parts.all fun part => !part.isEmpty && part.all Char.isDigit

def sortedUniqueStrings (values : List String) (allowEmpty : Bool) : Bool :=
  (allowEmpty || !values.isEmpty) && values.all (· != "") && decide (values.IsChain (· < ·))

structure WorkflowBudgetLimits where
  maximumModelInvocations : Nat
  maximumHops : Nat
  maximumAttempts : Nat
  maximumTokens : Nat
  maximumElapsedSeconds : Nat

def WorkflowBudgetLimits.valid (limits : WorkflowBudgetLimits) : Bool :=
  decide (0 < limits.maximumHops) && decide (0 < limits.maximumAttempts)

structure WorkflowStageDefinition where
  stageID : String
  optional : Bool := false
  dependsOn : List String
  inputSchema : String
  outputSchema : String
  requiredCapabilities : List String
  preferredFQRNs : List String := []
  purpose : WorkflowPurpose
  risk : WorkflowRisk
  complexityMinimum : Nat := 0
  complexityMaximum : Nat := 0
  concurrencyGroup : String
  maximumParallelism : Nat
  attemptLimit : Nat
  reviewRoundLimit : Nat := 0
  timeoutSeconds : Nat := 0
  tokenBudget : Nat := 0
  allowedOutgoingPurposes : List String
  targetSelection : WorkflowTargetSelection
  validationPolicy : WorkflowValidationPolicy
  completionCondition : String := ""
  failureCondition : String := ""
deriving DecidableEq

namespace WorkflowStageDefinition

def bounded (text : String) (maximum : Nat) : Bool := decide (text.utf8ByteSize ≤ maximum)

def valid (stage : WorkflowStageDefinition) : Bool :=
  workflowName stage.stageID &&
    stage.inputSchema != "" && bounded stage.inputSchema 1024 &&
    stage.outputSchema != "" && bounded stage.outputSchema 1024 &&
    stage.purpose.valid && stage.risk.valid && workflowName stage.concurrencyGroup &&
    decide (0 < stage.maximumParallelism) && decide (stage.maximumParallelism ≤ 1024) &&
    decide (0 < stage.attemptLimit) && decide (stage.attemptLimit ≤ 32) &&
    decide (stage.reviewRoundLimit ≤ 16) && decide (stage.timeoutSeconds ≤ 604800) &&
    stage.targetSelection.valid && stage.validationPolicy.valid &&
    bounded stage.completionCondition 4096 && bounded stage.failureCondition 4096 &&
    decide (stage.complexityMinimum ≤ 5) && decide (stage.complexityMaximum ≤ 5) &&
    !(decide (0 < stage.complexityMinimum) && decide (0 < stage.complexityMaximum) &&
      decide (stage.complexityMaximum < stage.complexityMinimum)) &&
    decide (stage.dependsOn.length ≤ 255) && decide (stage.requiredCapabilities.length ≤ 64) &&
    decide (stage.preferredFQRNs.length ≤ 32) &&
    decide (stage.allowedOutgoingPurposes.length ≤ 5) &&
    sortedUniqueStrings stage.dependsOn true &&
    sortedUniqueStrings stage.requiredCapabilities false &&
    sortedUniqueStrings stage.allowedOutgoingPurposes true &&
    stage.requiredCapabilities.all workflowName &&
    stage.preferredFQRNs.all (fun role => ActorFQN.label role.toList) &&
    decide (stage.preferredFQRNs.IsChain (· < ·)) &&
    stage.allowedOutgoingPurposes.all
      ["REQUEST", "HANDOFF", "EVIDENCE", "RESPONSE", "NOTIFICATION"].contains

def repairs (stage : WorkflowStageDefinition) : Bool :=
  !stage.optional && (stage.purpose == .repair || stage.purpose == .replan)

end WorkflowStageDefinition

structure WorkflowDefinition where
  schemaVersion : String
  name : String
  version : String
  contentDigest : Digest
  triggerTypes : List String
  stages : List WorkflowStageDefinition
  rootBudgets : WorkflowBudgetLimits
  projectionRules : List String

def workflowDefinitionSchemaVersion : String := "1.0.0"

variable (definition : WorkflowDefinition) (stageID : String)

def workflowStageByID : Option WorkflowStageDefinition :=
  definition.stages.find? fun stage => stage.stageID == stageID

def workflowStageExists : Bool :=
  definition.stages.any fun stage => stage.stageID == stageID

def workflowSkippableStage : Bool :=
  (workflowStageByID definition stageID).any WorkflowStageDefinition.optional

namespace WorkflowDefinition

variable (hash : WorkflowDefinition → Digest) (definition : WorkflowDefinition)

def calculatedDigest : Digest :=
  hash { definition with contentDigest := default }

def stageIDs : List String :=
  definition.stages.map WorkflowStageDefinition.stageID

def edges : List (GraphEdge String) :=
  definition.stages.flatMap fun stage =>
    stage.dependsOn.map fun predecessor => ⟨predecessor, stage.stageID⟩

def validate : Bool :=
  definition.schemaVersion == workflowDefinitionSchemaVersion &&
    workflowName definition.name && semanticVersion definition.version &&
    definition.contentDigest.valid && definition.rootBudgets.valid &&
    sortedUniqueStrings definition.triggerTypes false &&
    decide (definition.triggerTypes.length ≤ 64) &&
    sortedUniqueStrings definition.projectionRules true &&
    decide (definition.projectionRules.length ≤ 64) &&
    decide (0 < definition.stages.length) && decide (definition.stages.length ≤ 256) &&
    definition.triggerTypes.all (fun trigger => decide (trigger.utf8ByteSize ≤ 256)) &&
    definition.projectionRules.all ["FEATURE", "STORY", "TASK", "MESSAGE", "STATUS"].contains &&
    definition.calculatedDigest hash == definition.contentDigest &&
    definition.stages.all WorkflowStageDefinition.valid &&
    decide definition.stageIDs.Nodup &&
    definition.stages.all (fun stage => stage.dependsOn.all fun predecessor =>
      definition.stageIDs.contains predecessor && predecessor != stage.stageID) &&
    (validateDAG definition.stageIDs definition.edges).isOk

end WorkflowDefinition

theorem ok_of_isOk {ε : Type} {checked : Except ε Unit} (passed : checked.isOk = true) :
    checked = .ok () := by
  cases checked with
  | ok => rfl
  | error => cases passed

theorem nodup_of_sortedUniqueStrings {values : List String} {allowEmpty : Bool}
    (sorted : sortedUniqueStrings values allowEmpty = true) : values.Nodup := by
  simp only [sortedUniqueStrings, tests_iff] at sorted
  have ascending : values.Pairwise (· < ·) := List.isChain_iff_pairwise.mp sorted.2
  exact ascending.imp fun {first second} before (same : first = second) =>
    String.lt_irrefl _ (same ▸ before)

structure WorkflowDefinition.Sound (definition : WorkflowDefinition) : Prop where
  nonempty : definition.stages ≠ []
  few : definition.stages.length ≤ 256
  distinct : definition.stageIDs.Nodup
  named : ∀ stage ∈ definition.stages, workflowName stage.stageID = true
  narrow : ∀ stage ∈ definition.stages, stage.dependsOn.length ≤ 255
  once : ∀ stage ∈ definition.stages, stage.dependsOn.Nodup
  known : ∀ stage ∈ definition.stages, ∀ predecessor ∈ stage.dependsOn,
    predecessor ≠ stage.stageID ∧ ∃ other ∈ definition.stages, other.stageID = predecessor
  ranked : ∃ rank : String → Nat, ∀ stage ∈ definition.stages,
    ∀ predecessor ∈ stage.dependsOn, rank predecessor < rank stage.stageID

theorem WorkflowDefinition.validate_sound {hash : WorkflowDefinition → Digest}
    {definition : WorkflowDefinition} (valid : definition.validate hash = true) :
    definition.Sound := by
  simp only [validate, tests_iff] at valid
  obtain ⟨⟨⟨⟨⟨⟨⟨⟨⟨_, nonempty⟩, few⟩, _⟩, _⟩, _⟩, stages⟩, distinct⟩, known⟩, acyclic⟩ := valid
  have fields : ∀ stage ∈ definition.stages, workflowName stage.stageID = true ∧
      stage.dependsOn.length ≤ 255 ∧ sortedUniqueStrings stage.dependsOn true = true := by
    intro stage member
    have checked := stages stage member
    simp only [WorkflowStageDefinition.valid, tests_iff] at checked
    tauto
  obtain ⟨_, _, rank, ranks⟩ := validateDAG_ok.mp (ok_of_isOk acyclic)
  refine ⟨List.ne_nil_of_length_pos nonempty, few, distinct, fun stage member =>
    (fields stage member).1, fun stage member => (fields stage member).2.1, fun stage member =>
    nodup_of_sortedUniqueStrings (fields stage member).2.2, ?_, rank, ?_⟩
  · intro stage member predecessor listed
    obtain ⟨present, other⟩ := known stage member predecessor listed
    simp only [stageIDs, List.contains_iff_mem, List.mem_map] at present
    exact ⟨by simpa using other, present⟩
  · intro stage member predecessor listed
    refine ranks ⟨predecessor, stage.stageID⟩ ?_
    simp only [edges, List.mem_flatMap, List.mem_map]
    exact ⟨stage, member, predecessor, listed, rfl⟩

theorem WorkflowDefinition.Sound.stageByID {definition : WorkflowDefinition}
    (sound : definition.Sound) {stageID : String} {stage : WorkflowStageDefinition} :
    workflowStageByID definition stageID = some stage ↔
      stage ∈ definition.stages ∧ stage.stageID = stageID :=
  Lib.find?_key_iff sound.distinct

end Tekroo.Kernel
