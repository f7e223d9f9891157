import Tekroo.AgentRuntime.Runner
import Tekroo.Application.Brief

namespace Tekroo.NativeAgent

open Kernel Application Checked
open AgentRuntime hiding Surroundings

/-! # The prompts of a native session -/

structure ResultContract where
  taskID : UUIDv7
  taskSourceDigest : Digest
  schemaRef : String
  schemaSHA256 : Digest
  schema : RawMessage
deriving DecidableEq

/-- The schema of a contract has no place in its JSON text. -/
def ResultContract.encoded (contract : ResultContract) : ResultContract :=
  { contract with schema := none }

inductive ResultGuidance where
  | result | planFinalization | validation
deriving DecidableEq

inductive Prompt where
  | brief (brief : ExecutionBrief)
  | handler (sourceRequestDigest : Digest) (brief : ExecutionBrief)
      (guidance : List ResultGuidance)
  | adapted (sourceRequestDigest : Digest) (brief : ExecutionBrief)
      (contract : Option ResultContract)
  | text (value : String)
deriving DecidableEq

instance : Text Prompt where
  isBlank
    | .text value => isBlank value
    | _ => false

def validationPurpose : WorkPurpose → Bool
  | .validation | .review | .promotion => true
  | _ => false

variable (brief : ExecutionBrief) (digest : Digest)

def nativeHandlerPrompt (planFinalization : Bool) : Prompt :=
  .handler digest brief <|
    if planFinalization then [.result, .planFinalization]
    else if validationPurpose brief.purpose then [.result, .validation]
    else [.result]

def nativePromptMatchesBrief (prompt : Prompt) : Bool :=
  prompt == .brief brief ||
    brief.messageHandler.isSome &&
      (prompt == nativeHandlerPrompt brief digest false ||
        brief.purpose == .handoff && prompt == nativeHandlerPrompt brief digest true)

/-- The prompt of a session whose result protocol is not a handler's: the brief with another
instruction for the transport of the result. -/
def adaptedPrompt (protocol : ExecutionResultProtocol) (contract : Option ResultContract) :
    Prompt :=
  .adapted digest
    { brief with resultProtocol := some { protocol with instruction := .structured } }
    (contract.map ResultContract.encoded)

section Matches

variable {brief : ExecutionBrief} {digest : Digest}

theorem brief_matches : nativePromptMatchesBrief brief digest (.brief brief) = true := by
  simp [nativePromptMatchesBrief]

theorem handlerPrompt_matches {plan : Bool} (handled : brief.messageHandler.isSome = true)
    (handoff : plan = true → brief.purpose = .handoff) :
    nativePromptMatchesBrief brief digest (nativeHandlerPrompt brief digest plan) = true := by
  cases plan with
  | false => simp [nativePromptMatchesBrief, handled]
  | true => simp [nativePromptMatchesBrief, handled, handoff rfl]

theorem adaptedPrompt_unmatched {protocol : ExecutionResultProtocol}
    {contract : Option ResultContract} :
    nativePromptMatchesBrief brief digest (adaptedPrompt brief digest protocol contract) =
      false := by
  simp [nativePromptMatchesBrief, adaptedPrompt, nativeHandlerPrompt]

end Matches

/-! ## Preparing a session

`prepare` binds the runner to one brief.  The texts that it only hands to the model are left to
`Library`.
-/

inductive NativeError where
  | invalidBinding
  | requiredTestToolUnavailable
  | encoding
  | binding (reason : String)
  | journal
  | conflict
  | leaseLost
  | control
  | configure (reason : String)
  | run (error : RunError)
deriving DecidableEq

inductive ResponseMode where
  | plain | jsonSchemaActions
  | other (text : String)
deriving DecidableEq

structure Profile where
  roleFQRN : RoleFQRN
  roleBundleDigest : Digest
  modelProfileDigest : Digest
  runtimeIdentityDigest : Digest
  toolPolicyDigest : Digest
  effectPolicyDigest : Digest
  baseURL : String
  model : String
  modelInstructions : String := ""
  responseMode : ResponseMode := .plain
  maxOutputTokens : Int
  maxTurns : Int := 0
  allowedReadTools : List String := []
  allowedEffectTools : List String := []

structure CandidateBinding where
  id : UUIDv7
  receiptSHA256 : Digest
  /-- `"candidate-" + id + "-"` -/
  worktreePrefix : String

structure PlanFinalizationBinding where
  sourceOutput : String
  sourceDigest : Digest

/-- The interfaces of a configuration are kept by whether they are set. -/
structure Config where
  /-- `Bindings`, `Gateway.Bindings`, `Journal` and `HTTP` -/
  bound : Bool := true
  effects : Bool := false
  semanticContext : Bool := false
  evidenceReader : Bool := false
  resultContract : Option ResultContract := none
  candidate : Option CandidateBinding := none
  planFinalization : Option PlanFinalizationBinding := none
  validateFinalResult : Bool := false
  profile : Profile

structure Authority where
  workspaceRoot : String
  permissions : List String
  purpose : WorkPurpose
  effectPolicyDigest : Digest
deriving DecidableEq

/-- The names and the permissions of `agenttools.specs`. -/
def specs : List (String × String) :=
  [("read_file", "repository.read"), ("check_go_format", "repository.read"),
    ("list_files", "repository.read"), ("find_files", "repository.read"),
    ("search_file_contents", "repository.read"), ("git_status", "repository.read"),
    ("git_diff", "repository.read"), ("git_log", "repository.read"),
    ("git_show", "repository.read"), ("git_check_ignore", "repository.read"),
    ("write_file", "repository.edit"), ("git_stage_files", "repository.edit"),
    ("git_commit", "repository.edit"), ("run_go_tests", "test.execute"),
    ("run_go_tests_worktree", "test.execute")]

variable (permissions : List String)

/-- `repository.edit` implies `repository.read`, which `test.execute` needs. -/
def permitted (required : String) : Bool :=
  let holds (name : String) :=
    permissions.contains name ||
      name == "repository.read" && permissions.contains "repository.edit"
  if required == "test.execute" then permissions.contains required && holds "repository.read"
  else holds required

def available : List (String × String) :=
  specs.filter fun spec => permitted permissions spec.2

def mutationTool (name : String) : Bool :=
  name == "write_file" || name == "git_stage_files" || name == "git_commit"

/-- `isGoTestTool` -/
def testTool (name : String) : Bool :=
  name == "run_go_tests" || name == "run_go_tests_worktree"

def readOnlyDefinitions : List String :=
  ((available permissions).filter fun spec => spec.2 == "repository.read").map Prod.fst

def mutationDefinitions : List String :=
  ((available permissions).map Prod.fst).filter mutationTool

def testDefinitions : List String :=
  ((available permissions).map Prod.fst).filter testTool

def mutatingPurpose (purpose : WorkPurpose) : Bool :=
  purpose == .implementation || purpose == .repair

/-- What `prepare` calls with texts that the checks do not look into: the schema transformations
and the third-party schema compiler, by whether they succeed, the finalizers of the result tools
and the layered instructions, whose first line is fixed. -/
structure Library where
  /-- `acceptedPlanWorkProduct` -/
  acceptedPlan : PlanFinalizationBinding → Bool
  /-- `modelFacingHandlerSchema` -/
  handlerSchema : MessageHandlerGrounding → WorkPurpose → Option String
  /-- `modelFacingPlanSchema` -/
  planSchema : String → PlanFinalizationBinding → Option String
  /-- The compilation in `nativeOrganizationalResult` -/
  compiles : String → Bool
  /-- The checks of `NewStructuredTurnContract` on the schemas of the tools -/
  structuredTurn : List String → Bool
  handlerResult : ExecutionBrief → Config → Finalize
  validationResult : Finalize
  organizationalResult : ResultContract → Finalize
  /-- `assembleInstructions`, given the project's instructions -/
  instructions : ExecutionBrief → Profile → String → { text : String // text ≠ "" }

structure Premises where
  authority : Except String Authority
  journal : Except Unit (List (Entry Prompt))
  project : Option String := some ""

def isSorted : List String → Bool
  | first :: second :: rest => decide (first ≤ second) && isSorted (second :: rest)
  | _ => true

/-- The loop over the names of a sorted tool list. -/
def distinctNames : List String → Bool
  | first :: second :: rest => first != "" && second != first && distinctNames (second :: rest)
  | [last] => last != ""
  | [] => true

section Prepare

variable (hashes : BriefHashes) (library : Library) (brief : ExecutionBrief)
  (requestDigest : Digest) (config : Config) (allowEffects : Bool)

def boundRequest : Bool :=
  let profile := config.profile
  brief.contractManifest == contractIdentity && brief.invocationID.valid &&
    requestDigest.valid && requestDigest == hashes.requestDigest brief &&
    brief.roleGrounding.valid brief.actorFQN &&
    profile.roleFQRN == brief.roleGrounding.roleFQRN &&
    profile.roleBundleDigest == brief.roleGrounding.bundleDigest &&
    profile.modelProfileDigest == brief.modelProfileDigest &&
    profile.runtimeIdentityDigest == brief.runtimeIdentityDigest &&
    profile.toolPolicyDigest == brief.toolPolicyDigest &&
    profile.effectPolicyDigest == brief.effectPolicyDigest &&
    profile.modelProfileDigest.valid && profile.runtimeIdentityDigest.valid &&
    profile.toolPolicyDigest.valid && profile.effectPolicyDigest.valid && config.bound &&
    profile.model != "" && profile.baseURL != "" && decide (0 < profile.maxOutputTokens) &&
    decide (0 ≤ profile.maxTurns) &&
    (profile.responseMode == .plain || profile.responseMode == .jsonSchemaActions) &&
    isSorted profile.allowedReadTools && isSorted profile.allowedEffectTools

def effectsConfigured : Bool :=
  if allowEffects then config.effects && !config.profile.allowedEffectTools.isEmpty
  else config.profile.allowedEffectTools.isEmpty && !config.effects

def contractPlaced : Bool :=
  config.resultContract.isNone ||
    brief.messageHandler.isNone &&
      brief.resultProtocol.any fun protocol => protocol.marker == organizationalResultMarker

def candidatePlaced (candidate : CandidateBinding) : Bool :=
  candidate.id.valid && candidate.receiptSHA256.valid &&
    candidate.worktreePrefix.toList.isPrefixOf brief.scope.worktreeID.toList &&
    brief.evidence.any (fun item => item.sha256 == candidate.receiptSHA256) &&
    validationPurpose brief.purpose

def planPlaced (plan : PlanFinalizationBinding) : Bool :=
  brief.purpose == .handoff && brief.messageHandler.isSome && plan.sourceDigest.valid &&
    plan.sourceDigest == contentDigest hashes.content plan.sourceOutput &&
    library.acceptedPlan plan

/-- `newAdmittedEvidenceTool` -/
def evidenceAdmitted (references : List EvidenceRef) : Bool :=
  decide (references.length ≤ 128) && references.all validEvidence &&
    references.all fun first => references.all fun second =>
      first.evidenceID != second.evidenceID || first.sha256 == second.sha256

variable (initial : Authority) (protocol : ExecutionResultProtocol)

/-- The effect tools are selected among those that the authority permits, the mutations only for
an implementation or repair and the tests also for a validation. -/
def effectsAllowed : Bool :=
  let selected := config.profile.allowedEffectTools
  let mutations := (mutationDefinitions initial.permissions).filter selected.contains
  let tests := (testDefinitions initial.permissions).filter selected.contains
  (mutations.isEmpty || mutatingPurpose brief.purpose) &&
    (tests.isEmpty || brief.purpose == .validation || mutatingPurpose brief.purpose) &&
    !(tests.contains "run_go_tests_worktree" && brief.purpose == .validation) &&
    selected.all (mutations ++ tests).contains

variable (chosen : Delivery) (prompt : Prompt) (premises : Premises) (contract : ResultContract)

def admitAuthority : Except NativeError Authority := do
  match premises.authority with
  | .error reason => throw (.binding reason)
  | .ok initial =>
    refuse (isBlank initial.workspaceRoot) .invalidBinding
    refuse (allowEffects && (initial.purpose != brief.purpose ||
      initial.effectPolicyDigest != brief.effectPolicyDigest)) .invalidBinding
    refuse (mutatingPurpose brief.purpose &&
      brief.workProfile.requiredDeterministicGateIDs.contains "go-test" &&
      !initial.permissions.contains "test.execute") .requiredTestToolUnavailable
    refuse (!config.profile.allowedReadTools.all
      (readOnlyDefinitions initial.permissions).contains) .invalidBinding
    refuse (!brief.evidence.isEmpty && config.evidenceReader &&
      !evidenceAdmitted brief.evidence) .invalidBinding
    refuse (allowEffects && !effectsAllowed brief config initial) .invalidBinding
    return initial

def purposeText : WorkPurpose → String
  | .investigation => "INVESTIGATION"
  | .implementation => "IMPLEMENTATION"
  | .validation => "VALIDATION"
  | .review => "REVIEW"
  | .repair => "REPAIR"
  | .handoff => "HANDOFF"
  | .replan => "REPLAN"
  | .promotion => "PROMOTION"
  | .escalation => "ESCALATION"
  | .other text => text

def effectAuthority : Option EffectAuthority :=
  if allowEffects then some {
    workspaceRoot := initial.workspaceRoot
    permissions := initial.permissions
    purpose := purposeText initial.purpose
    effectPolicyDigest := initial.effectPolicyDigest }
  else none

/-- `allowedEffects.Handles` -/
def allowedHandles (name : String) : Bool :=
  config.profile.allowedEffectTools.contains name && (mutationTool name || testTool name)

structure Delivery where
  prompt : Prompt
  finalTool : String := ""
  finalize : Option Finalize := none

def submitResult : String := "submit_result"

def handlerDelivery (handler : MessageHandlerGrounding) : Except NativeError Delivery := do
  refuse (!(brief.resultProtocol.any fun protocol =>
    protocol.marker == organizationalResultMarker) || handler.resultSchema.isNone) .invalidBinding
  match library.handlerSchema handler brief.purpose with
  | none => throw .invalidBinding
  | some schema =>
    refuse (config.planFinalization.any fun plan => (library.planSchema schema plan).isNone)
      .invalidBinding
    return {
      prompt := nativeHandlerPrompt brief requestDigest config.planFinalization.isSome
      finalTool := submitResult
      finalize := some (library.handlerResult brief config) }

def nativeValidationResult : Bool :=
  protocol.marker == validationResultMarker && protocol.schemaVersion == "1.0.0" &&
    protocol.outcomes == ["PASS", "FAIL", "BLOCKED", "INCONCLUSIVE"] &&
    validationPurpose brief.purpose

def ResultContract.validFor : Bool :=
  contract.taskID == brief.task.taskID && contract.taskID.valid &&
    contract.taskSourceDigest == brief.task.sourceDigest && contract.taskSourceDigest.valid &&
    contract.schemaRef != "" && decide (contract.schemaRef.utf8ByteSize ≤ 256) &&
    contract.schemaSHA256.valid &&
    contract.schema.any fun schema =>
      decide (schema.utf8ByteSize ≤ 1048576) &&
        contract.schemaSHA256 == contentDigest hashes.content schema

def nativeOrganizationalResult : Bool :=
  protocol.marker == organizationalResultMarker && protocol.schemaVersion == "1.0.0" &&
    (brief.purpose == .handoff || brief.purpose == .replan) &&
    ResultContract.validFor hashes brief contract && contract.schema.any library.compiles

def protocolDelivery : Except NativeError Delivery := do
  let deliver (finalize : Finalize) : Delivery := {
    prompt := adaptedPrompt brief requestDigest protocol config.resultContract
    finalTool := submitResult
    finalize := some finalize }
  if nativeValidationResult brief protocol then return deliver library.validationResult
  else
    match config.resultContract with
    | some contract =>
      refuse (!nativeOrganizationalResult hashes library brief protocol contract) .invalidBinding
      return deliver (library.organizationalResult contract)
    | none => throw .invalidBinding

def delivery : Except NativeError Delivery :=
  match brief.messageHandler, brief.resultProtocol with
  | some handler, _ => handlerDelivery library brief requestDigest config handler
  | none, some protocol => protocolDelivery hashes library brief requestDigest config protocol
  | none, none => return { prompt := .brief brief }

def definitions : List String :=
  let selected := config.profile.allowedEffectTools
  (readOnlyDefinitions initial.permissions).filter config.profile.allowedReadTools.contains ++
    (if !brief.evidence.isEmpty && config.evidenceReader then ["read_evidence"] else []) ++
    (if allowEffects then
      (mutationDefinitions initial.permissions).filter selected.contains ++
        (testDefinitions initial.permissions).filter selected.contains
    else []) ++
    (if chosen.finalTool == "" then [] else [chosen.finalTool])

/-- `NewStructuredTurnContract` -/
def structuredTurnContract (names : List String) (final : String) : Bool :=
  !names.isEmpty && final != "" && final != "calls" && decide names.Nodup &&
    names.contains final && library.structuredTurn names

def recordedSystemPrompt :
    Except Unit (List (Entry Prompt)) → Except NativeError (Option String)
  | .error _ => .error .journal
  | .ok [] => .ok none
  | .ok (first :: _) =>
    match first.content with
    | .started record =>
      if first.invocationID == brief.invocationID && first.sequence == 1 &&
          record.requestDigest == requestDigest && record.prompt == prompt &&
          record.systemPrompt != "" then
        .ok (some record.systemPrompt)
      else .error (.run .invalidTurn)
    | _ => .error (.run .invalidTurn)

def assembleInstructions (project : Option String) : Except NativeError String :=
  match project with
  | some text =>
    if config.profile.modelInstructions.utf8ByteSize ≤ 65536 then
      .ok (library.instructions brief config.profile text).1
    else .error .invalidBinding
  | none => .error .invalidBinding

def systemPrompt : Except NativeError String := do
  match ← recordedSystemPrompt brief requestDigest prompt premises.journal with
  | some recorded => return recorded
  | none => assembleInstructions library brief config premises.project

def checkRequest : Except NativeError Unit := do
  refuse (!brief.encodable) .encoding
  refuse (!boundRequest hashes brief requestDigest config) .invalidBinding
  refuse (!effectsConfigured config allowEffects) .invalidBinding
  refuse (!contractPlaced brief config) .invalidBinding
  refuse (!config.candidate.all (candidatePlaced brief)) .invalidBinding
  refuse (!config.planFinalization.all (planPlaced hashes library brief)) .invalidBinding
  refuse (!distinctNames config.profile.allowedReadTools) .invalidBinding
  refuse (!distinctNames config.profile.allowedEffectTools) .invalidBinding

def sessionRunner (instructions : String) : Runner Prompt where
  binding := {
    id := brief.invocationID
    requestDigest
    prompt := chosen.prompt
    systemPrompt := instructions
    finalTool := chosen.finalTool
    effectAuthority := effectAuthority allowEffects initial }
  finalize := chosen.finalize
  validatesFinalResult :=
    config.validateFinalResult || allowEffects && mutatingPurpose brief.purpose
  effects := if allowEffects then some (allowedHandles config) else none
  recalls := config.semanticContext
  maxFinalSubmissions := 3
  maxTurns := config.profile.maxTurns.toNat

def prepare : Except NativeError (Runner Prompt) := do
  checkRequest hashes library brief requestDigest config allowEffects
  let initial ← admitAuthority brief config allowEffects premises
  let chosen ← delivery hashes library brief requestDigest config
  refuse (config.profile.responseMode == .jsonSchemaActions &&
    !structuredTurnContract library (definitions brief config allowEffects initial chosen)
      chosen.finalTool) .invalidBinding
  let instructions ← systemPrompt library brief requestDigest config chosen.prompt premises
  return sessionRunner brief requestDigest config allowEffects initial chosen instructions

section Prepared

variable {hashes library brief requestDigest config allowEffects}

theorem prepare_ok {premises : Premises} {runner : Runner Prompt} :
    prepare hashes library brief requestDigest config allowEffects premises = .ok runner ↔
      checkRequest hashes library brief requestDigest config allowEffects = .ok () ∧
        ∃ initial, admitAuthority brief config allowEffects premises = .ok initial ∧
          ∃ chosen, delivery hashes library brief requestDigest config = .ok chosen ∧
            (config.profile.responseMode == .jsonSchemaActions &&
              !structuredTurnContract library
                (definitions brief config allowEffects initial chosen) chosen.finalTool) = false ∧
            ∃ instructions,
              systemPrompt library brief requestDigest config chosen.prompt premises =
                .ok instructions ∧
              sessionRunner brief requestDigest config allowEffects initial chosen instructions =
                runner := by
  simp only [prepare, chain_ok]

end Prepared

def prepareSession (premises : Premises) : Except NativeError (Runner Prompt) :=
  prepare hashes library brief requestDigest config config.effects premises

end Prepare

end Tekroo.NativeAgent
