import Tekroo.NativeAgent.Boundary
import Tekroo.Properties.Transcripts
import Tekroo.Store.Script

namespace Tekroo.NativeAgent

open Kernel Application Lib Checked
open AgentRuntime hiding Delivery

/-! # Which sessions a boundary recognizes -/

section Sessions

variable {hashes : BriefHashes} {library : Library} {brief : ExecutionBrief} {digest : Digest}
  {config : Config} {allowEffects : Bool} {premises : Premises} {runner : Runner Prompt}

theorem delivery_prompt {chosen : Delivery}
    (delivered : delivery hashes library brief digest config = .ok chosen) :
    chosen.prompt =
      match brief.messageHandler, brief.resultProtocol with
      | some _, _ => nativeHandlerPrompt brief digest config.planFinalization.isSome
      | none, some protocol => adaptedPrompt brief digest protocol config.resultContract
      | none, none => .brief brief := by
  unfold delivery at delivered
  cases handled : brief.messageHandler with
  | some handler =>
    simp only [handled, handlerDelivery, chain_ok] at delivered
    obtain ⟨_, delivered⟩ := delivered
    split at delivered
    · cases delivered
    · simp only [chain_ok] at delivered
      obtain ⟨_, rfl⟩ := delivered
      rfl
  | none =>
    cases agreed : brief.resultProtocol with
    | none =>
      simp only [handled, agreed, pure_ok] at delivered
      rw [← delivered]
    | some protocol =>
      simp only [handled, agreed, protocolDelivery] at delivered
      split at delivered
      · cases delivered
        rfl
      · split at delivered
        · simp only [chain_ok] at delivered
          obtain ⟨_, rfl⟩ := delivered
          simp_all
        · cases delivered

theorem checkRequest_plan
    (checked : checkRequest hashes library brief digest config allowEffects = .ok ())
    (planned : config.planFinalization.isSome = true) : brief.purpose = .handoff := by
  simp only [checkRequest, chain_ok, tests_iff] at checked
  obtain ⟨_, _, _, _, _, placed, _⟩ := checked
  obtain ⟨plan, found⟩ := Option.isSome_iff_exists.mp planned
  rw [found, Option.all_some] at placed
  simp only [planPlaced, tests_iff] at placed
  exact placed.1.1.1.1

section Prepared

variable
  (prepared : prepare hashes library brief digest config allowEffects premises = .ok runner)

include prepared

theorem prepared_encodable : brief.encodable = true := by
  obtain ⟨checked, _⟩ := prepare_ok.mp prepared
  simp only [checkRequest, chain_ok, tests_iff] at checked
  exact checked.1

theorem prepared_binding :
    runner.binding.id = brief.invocationID ∧ runner.binding.requestDigest = digest := by
  obtain ⟨_, initial, _, chosen, _, _, instructions, _, rfl⟩ := prepare_ok.mp prepared
  exact ⟨rfl, rfl⟩

theorem prepared_prompt_matches_iff :
    nativePromptMatchesBrief brief digest runner.binding.prompt = true ↔
      brief.messageHandler.isSome = true ∨ brief.resultProtocol = none := by
  obtain ⟨checked, initial, _, chosen, delivered, _, instructions, _, rfl⟩ := prepare_ok.mp prepared
  have prompt := delivery_prompt delivered
  simp only [sessionRunner, prompt]
  cases handled : brief.messageHandler with
  | some handler =>
    have matched : nativePromptMatchesBrief brief digest
        (nativeHandlerPrompt brief digest config.planFinalization.isSome) = true :=
      handlerPrompt_matches (by simp [handled]) (checkRequest_plan checked)
    simp [matched]
  | none =>
    cases agreed : brief.resultProtocol with
    | none => simp [brief_matches]
    | some protocol => simp [adaptedPrompt_unmatched]

end Prepared

def JournalTask.belongs (session : Binding Prompt) (brief : ExecutionBrief) (digest : Digest) :
    JournalTask → Bool
  | .run task => task.runner.binding == session
  | .record task => task.brief == brief && task.digest == digest

/-- What the workers of a session and the boundary write. -/
def sessionJournals (session : Binding Prompt) (brief : ExecutionBrief) (digest : Digest) :
    Protocol (RuntimeState Prompt) JournalThread (Surroundings Prompt) Empty :=
  threads JournalTask.program (JournalTask.belongs session brief digest)
    (RuntimeState.serve brief.invocationID) fun state _ => state

def SessionOwns (session : Binding Prompt) (brief : ExecutionBrief) (digest : Digest)
    (binding : Binding Prompt) : Prop :=
  binding = session ∨ binding = startBinding brief.invocationID brief digest

variable {entries : List (Entry Prompt)} {session : Binding Prompt}
  {pool : Pool (RuntimeState Prompt) JournalThread} {binding : Binding Prompt}

theorem SessionOwns.identified (named : session.id = brief.invocationID)
    (mine : SessionOwns session brief digest binding) :
    binding.id = brief.invocationID := by
  rcases mine with rfl | rfl
  · exact named
  · rfl

theorem sessionJournals_journaled (named : session.id = brief.invocationID)
    (reached : (sessionJournals session brief digest).Reaches {} pool) :
    Journaled (SessionOwns session brief digest) pool.shared.entries := by
  have kept := threads_keep (conduct brief.invocationID (SessionOwns session brief digest))
    (fun _ _ _ => True) .empty (fun _ _ => trivial) ?_ nofun reached
  · exact kept.1.journaled
  · intro task belongs state
    refine Program.Keeps.weaken (fun _ => trivial)
      (JournalTask.program_keeps (SessionOwns.identified named) ?_ state)
    cases task with
    | run task => exact .inl (eq_of_beq belongs)
    | record task =>
      simp only [JournalTask.belongs, tests_iff] at belongs
      exact .inr (by rw [belongs.1, belongs.2])

def Recognized (brief : ExecutionBrief) (digest : Digest) (binding : Binding Prompt) : Prop :=
  binding.id = brief.invocationID ∧ binding.requestDigest = digest ∧
    nativePromptMatchesBrief brief digest binding.prompt = true

theorem startBinding_recognized :
    Recognized brief digest (startBinding brief.invocationID brief digest) :=
  ⟨rfl, rfl, brief_matches⟩

theorem SessionOwns.recognized (session_recognized : Recognized brief digest session)
    (mine : SessionOwns session brief digest binding) :
    Recognized brief digest binding := by
  rcases mine with rfl | rfl
  · exact session_recognized
  · exact startBinding_recognized

theorem journaled_recognized {own : Binding Prompt → Prop} (encodable : brief.encodable = true)
    (recognized : ∀ {binding}, own binding → Recognized brief digest binding)
    (journaled : Journaled own entries) (nonempty : entries ≠ []) :
    ∃ record rest, entries = ⟨brief.invocationID, 1, .started record⟩ :: rest ∧
      startedFor brief digest true (.started record) = true ∧
      placedFrom brief.invocationID 0 entries = true ∧
      Boundary.startAuthority brief digest entries = .ok record.effectAuthority := by
  have placed : placedFrom brief.invocationID 0 entries = true := by
    refine placedFrom_iff.mpr fun offset entry found => ?_
    rw [Nat.zero_add]
    exact journaled.placed (fun mine => (recognized mine).1) found
  obtain ⟨binding, record, rest, mine, rfl, binds⟩ := journaled.starts nonempty
  obtain ⟨named, bound, matched⟩ := recognized mine
  simp only [StartRecord.binds, tests_iff] at binds
  obtain ⟨⟨⟨⟨same, prompt⟩, _⟩, _⟩, _⟩ := binds
  rw [bound] at same
  rw [← prompt] at matched
  refine ⟨record, rest, by rw [named], ?_, placed, ?_⟩
  · simp [startedFor, same, matched]
  · simp [Boundary.startAuthority, encodable, same, matched]

/-- The boundary recognizes the prompt and every journal of the sessions whose brief has a
message handler or no result protocol, and of no others. -/
theorem boundary_recognizes_session_iff
    (prepared : prepare hashes library brief digest config allowEffects premises = .ok runner) :
    (nativePromptMatchesBrief brief digest runner.binding.prompt = true ∧
        ∀ pool, (sessionJournals runner.binding brief digest).Reaches {} pool →
          (∃ observed, observeJournal brief digest pool.shared.entries = .ok observed) ∧
            (pool.shared.entries ≠ [] → ∃ authority,
              Boundary.startAuthority brief digest pool.shared.entries = .ok authority)) ↔
      brief.messageHandler.isSome = true ∨ brief.resultProtocol = none := by
  have recognized := prepared_prompt_matches_iff prepared
  have encodable := prepared_encodable prepared
  obtain ⟨named, bound⟩ := prepared_binding prepared
  constructor
  · intro ⟨matched, _⟩
    exact recognized.mp matched
  · intro known
    have matched := recognized.mpr known
    refine ⟨matched, fun pool reached => ?_⟩
    have journaled := sessionJournals_journaled named reached
    cases written : pool.shared.entries with
    | nil => exact ⟨⟨_, rfl⟩, fun nonempty => absurd rfl nonempty⟩
    | cons first rest =>
      rw [written] at journaled
      obtain ⟨record, others, same, started, placed, authority⟩ :=
        journaled_recognized encodable (SessionOwns.recognized ⟨named, bound, matched⟩)
          journaled (by simp)
      cases same
      exact ⟨⟨_, observed_started encodable started placed⟩, fun _ => ⟨_, authority⟩⟩

end Sessions

namespace Sample

def role : RoleExecutionGrounding where
  actorFQN := ⟨"t::r-1"⟩
  roleFQRN := ⟨"r"⟩
  bundleVersion := "1"
  bundleDigest := .number 1
  capabilities := ["c"]
  permissions := ["repository.read"]
  instructions := "instructions"

def scope : TaskOperationalScope :=
  ⟨.number 2, 1, 1, 1, ⟨"t::r-1"⟩, ⟨.number 3, 1⟩, "workspace", "worktree", "branch",
    "0000000000000000000000000000000000000000", ["src"], [], .number 4⟩

def specification : TaskExecutionSpecification :=
  ⟨.number 2, .number 5, .number 1, .number 6, "title", "", ["criterion"], []⟩

def semanticContext : SemanticContextRequest where
  invocationID := .number 1
  authorizationEventID := .number 7
  parentEventID := .number 7
  taskID := .number 2
  storyID := .number 6
  taskCreatedEventID := .number 5
  taskCreatedSourceDigest := .number 1
  taskRevision := 1
  lifecycleEpoch := 1
  scopeRevision := 1
  operationalScopeEventID := .number 4
  assignmentID := .number 8
  actorFQN := ⟨"t::r-1"⟩
  execution := ⟨.number 3, 1⟩
  workspaceID := "workspace"
  worktreeID := "worktree"
  baselineSHA := "0000000000000000000000000000000000000000"
  workProfile := Kernel.Sample.profile.binding
  modelProfileDigest := .number 1
  runtimeIdentityDigest := .number 1
  toolPolicyDigest := .number 1
  effectPolicyDigest := .number 1
  evidence := []

def brief : ExecutionBrief where
  contractManifest := contractIdentity
  invocationID := .number 1
  authorizationEventID := .number 7
  parentEventID := .number 7
  task := specification
  taskRevision := 1
  lifecycleEpoch := 1
  scopeRevision := 1
  purpose := .investigation
  attemptFamily := "family"
  attemptOrdinal := 1
  retryOfInvocationID := none
  retryOfConversationID := none
  retryOrdinal := 0
  conditionDigest := .number 1
  outputPredicateDigest := .number 1
  toolPolicyDigest := .number 1
  effectPolicyDigest := .number 1
  workProfile := Kernel.Sample.profile
  assignmentID := .number 8
  decisionRoute := .boundedExecution
  actorFQN := ⟨"t::r-1"⟩
  roleGrounding := role
  messageHandler := none
  admittedMessage := none
  execution := ⟨.number 3, 1⟩
  modelProfileDigest := .number 1
  runtimeIdentityDigest := .number 1
  scope
  evidence := []
  remainingGlobalBudget := 1
  remainingPurposeBudget := 1
  deadlineAt := 100
  executionGuidance := []
  semanticContext

def validationProtocol : ExecutionResultProtocol :=
  ⟨"1.0.0", validationResultMarker, ["PASS", "FAIL", "BLOCKED", "INCONCLUSIVE"], .validation⟩

def validationBrief : ExecutionBrief :=
  { brief with purpose := .validation, resultProtocol := some validationProtocol }

def config : Config where
  profile := {
    roleFQRN := ⟨"r"⟩
    roleBundleDigest := .number 1
    modelProfileDigest := .number 1
    runtimeIdentityDigest := .number 1
    toolPolicyDigest := .number 1
    effectPolicyDigest := .number 1
    baseURL := "url"
    model := "model"
    maxOutputTokens := 1
    allowedReadTools := ["read_file"] }

def hashes : BriefHashes := ⟨fun _ => 1, fun _ => 1, fun _ => 1⟩

def library : Library where
  acceptedPlan _ := true
  handlerSchema _ _ := some ""
  planSchema _ _ := none
  compiles _ := true
  structuredTurn _ := true
  handlerResult _ _ _ := .error ""
  validationResult _ := .ok "PASS"
  organizationalResult _ _ := .error ""
  instructions _ _ _ := ⟨"instructions", by decide⟩

def boundary (owner : String) : Boundary where
  hashes
  library
  owner
  fuel := 9
  message _ := "error"

def authority : Authority :=
  ⟨"/workspace", ["repository.read"], .investigation, .number 1⟩

def premises : Premises where
  authority := .ok authority
  journal := .ok []

def plainRunner : Runner Prompt :=
  sessionRunner brief (.number 1) config false authority { prompt := .brief brief } "instructions"

theorem plain_prepared :
    prepare hashes library brief (.number 1) config false premises = .ok plainRunner :=
  prepare_ok.mpr ⟨by decide, authority, by decide, _, rfl, by decide,
    "instructions", by decide, rfl⟩

def validationRunner : Runner Prompt :=
  sessionRunner validationBrief (.number 1) config false authority
    { prompt := adaptedPrompt validationBrief (.number 1) validationProtocol none
      finalTool := submitResult
      finalize := some library.validationResult }
    "instructions"

theorem validation_prepared :
    prepare hashes library validationBrief (.number 1) config false premises =
      .ok validationRunner :=
  prepare_ok.mpr ⟨by decide, authority, by decide, _, rfl, by decide,
    "instructions", by decide, rfl⟩

def validationStarted : Pool (RuntimeState Prompt) JournalThread :=
  [.start ⟨.run ⟨validationRunner, 9, false⟩, none⟩, .step 0 {}, .step 0 {}].foldl
    (sessionJournals validationRunner.binding validationBrief (.number 1)).turn ⟨{}, []⟩

/-- The boundary prepares a validation and does not recognize the journal that it starts. -/
theorem validation_session_unrecognized :
    prepare hashes library validationBrief (.number 1) config false premises =
        .ok validationRunner ∧
      nativePromptMatchesBrief validationBrief (.number 1) validationRunner.binding.prompt = false ∧
      (sessionJournals validationRunner.binding validationBrief (.number 1)).Reaches {}
        validationStarted ∧
      observeJournal validationBrief (.number 1) validationStarted.shared.entries =
        .error .invalidBinding :=
  ⟨validation_prepared, adaptedPrompt_unmatched, .turns _ .start, by decide⟩

theorem plain_session_recognized :
    nativePromptMatchesBrief brief (.number 1) plainRunner.binding.prompt = true ∧
      ∀ pool, (sessionJournals plainRunner.binding brief (.number 1)).Reaches {} pool →
        (∃ observed, observeJournal brief (.number 1) pool.shared.entries = .ok observed) ∧
          (pool.shared.entries ≠ [] → ∃ authority,
            Boundary.startAuthority brief (.number 1) pool.shared.entries = .ok authority) :=
  (boundary_recognizes_session_iff plain_prepared).mpr (.inr rfl)

end Sample

end Tekroo.NativeAgent
