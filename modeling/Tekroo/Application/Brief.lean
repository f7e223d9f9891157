import Tekroo.AgentRuntime.Journal
import Tekroo.Kernel.WorkInvocation

namespace Tekroo.Application

open Kernel
open AgentRuntime (RawMessage isBlank)

/-! # The brief of an execution

A brief is kept as the value whose JSON text is sent and hashed; the paragraphs in it are named,
not spelled out.
-/

/-- `role`, the name of a role definition. -/
structure RoleFQRN where
  text : String
deriving DecidableEq

/-- `RoleFQRNFromActor`: what stands between the colons and the last dash of `team::role-N`. -/
def RoleFQRN.ofActor (actor : ActorFQN) : Option RoleFQRN :=
  if actor.valid then
    match actor.text.toList.dropWhile (· != ':') with
    | ':' :: ':' :: rest =>
      match rest.reverse.dropWhile (· != '-') with
      | '-' :: role =>
        if ActorFQN.label role.reverse then some ⟨String.ofList role.reverse⟩ else none
      | _ => none
    | _ => none
  else none

def ascending (previous : String) : List String → Bool
  | [] => true
  | value :: rest => value != "" && decide (previous < value) && ascending value rest

structure RoleExecutionGrounding where
  actorFQN : ActorFQN
  roleFQRN : RoleFQRN
  bundleVersion : String
  bundleDigest : Digest
  capabilities : List String
  permissions : List String
  instructions : String
  teamInstructions : String := ""
deriving DecidableEq

def RoleExecutionGrounding.valid (grounding : RoleExecutionGrounding) (actor : ActorFQN) : Bool :=
  RoleFQRN.ofActor actor == some grounding.roleFQRN && grounding.actorFQN == actor &&
    grounding.bundleVersion != "" && grounding.bundleDigest.valid &&
    !isBlank grounding.instructions &&
    decide (grounding.instructions.utf8ByteSize ≤ 1048576) &&
    decide (grounding.teamInstructions.utf8ByteSize ≤ 65536) &&
    !grounding.capabilities.isEmpty && !grounding.permissions.isEmpty &&
    ascending "" grounding.capabilities && ascending "" grounding.permissions

structure MessageHandlerGrounding where
  messageID : UUIDv7
  messageType : String
  messagePurpose : MessagePurpose
  subscriptionPurpose : String
  charterDigest : Digest
  handlerDigest : Digest
  instructions : String
  inputSchemaDigest : Digest
  inputSchema : RawMessage
  resultSchemaDigest : Digest
  resultSchema : RawMessage
  allowedResults : List String
  allowedMessageProposals : List String
deriving DecidableEq

structure AdmittedMessage where
  id : UUIDv7
  type : String
  purpose : MessagePurpose
  body : RawMessage
deriving DecidableEq

/-- `contentDigest`, with the hash left open. -/
def contentDigest (hash : String → Nat) (content : String) : Digest := .number (hash content)

/-- The instruction of a result protocol, by the branch that writes it; `structured` is the one
that the native session puts in its place. -/
inductive ResultInstruction where
  | handler | validation | review | promotion | handoff | structured
  | other (text : String)
deriving DecidableEq

structure ExecutionResultProtocol where
  schemaVersion : String
  marker : String
  outcomes : List String
  instruction : ResultInstruction
deriving DecidableEq

def validationResultMarker : String := "TEKROO_VALIDATION_RESULT:"

def organizationalResultMarker : String := "TEKROO_ORGANIZATIONAL_RESULT:"

inductive Guidance where
  | shared | repository | editable | noRepository | readOnly | validation | review
  | sharedRetainedRetry | editableRetainedRetry | readOnlyRetainedRetry
  | sharedExplicitRecovery | editableExplicitRecovery | readOnlyExplicitRecovery
deriving DecidableEq

structure TaskExecutionSpecification where
  taskID : UUIDv7
  createdEventID : UUIDv7
  sourceDigest : Digest
  storyID : UUIDv7
  title : String
  description : String
  acceptanceCriteria : List String
  dependsOn : List UUIDv7
deriving DecidableEq

structure ExecutionRecoveryDirective where
  sourceEventID : UUIDv7
  reason : String
  evidence : List EvidenceRef
deriving DecidableEq

def validEvidence (reference : EvidenceRef) : Bool :=
  reference.evidenceID.valid && reference.sha256.valid

/-- `SemanticContextRequest` without its constant fields, which `Valid` compares with the constants
that every request is built with. -/
structure SemanticContextRequest where
  invocationID : UUIDv7
  authorizationEventID : UUIDv7
  parentEventID : UUIDv7
  taskID : UUIDv7
  storyID : UUIDv7
  taskCreatedEventID : UUIDv7
  taskCreatedSourceDigest : Digest
  taskRevision : Nat
  lifecycleEpoch : Nat
  scopeRevision : Nat
  operationalScopeEventID : UUIDv7
  assignmentID : UUIDv7
  actorFQN : ActorFQN
  execution : ExecutionTuple
  workspaceID : String
  worktreeID : String
  baselineSHA : String
  workProfile : WorkProfileBinding
  modelProfileDigest : Digest
  runtimeIdentityDigest : Digest
  toolPolicyDigest : Digest
  effectPolicyDigest : Digest
  evidence : List EvidenceRef
deriving DecidableEq

structure ExecutionBrief where
  contractManifest : String
  invocationID : UUIDv7
  authorizationEventID : UUIDv7
  parentEventID : UUIDv7
  task : TaskExecutionSpecification
  taskRevision : Nat
  lifecycleEpoch : Nat
  scopeRevision : Nat
  purpose : WorkPurpose
  attemptFamily : String
  attemptOrdinal : Nat
  retryOfInvocationID : Option UUIDv7
  retryOfConversationID : Option String
  retryOrdinal : Nat
  conditionDigest : Digest
  outputPredicateDigest : Digest
  toolPolicyDigest : Digest
  effectPolicyDigest : Digest
  workProfile : WorkRiskProfile
  assignmentID : UUIDv7
  decisionRoute : DecisionRoute
  actorFQN : ActorFQN
  roleGrounding : RoleExecutionGrounding
  messageHandler : Option MessageHandlerGrounding
  admittedMessage : Option AdmittedMessage
  execution : ExecutionTuple
  modelProfileDigest : Digest
  runtimeIdentityDigest : Digest
  scope : TaskOperationalScope
  evidence : List EvidenceRef
  remainingGlobalBudget : Nat
  remainingPurposeBudget : Nat
  deadlineAt : Time
  executionGuidance : List Guidance
  recoveryDirective : Option ExecutionRecoveryDirective := none
  resultProtocol : Option ExecutionResultProtocol := none
  semanticContext : SemanticContextRequest
deriving DecidableEq

namespace ExecutionBrief

/-- `json.Marshal` fails on a raw message that is not JSON. -/
def encodable (brief : ExecutionBrief) : Bool :=
  brief.messageHandler.all (fun handler =>
    handler.inputSchema.isSome && handler.resultSchema.isSome) &&
    brief.admittedMessage.all (fun message => message.body.isSome)

end ExecutionBrief

/-- SHA-256 of a text and of the JSON text of a brief, and the length of the latter. -/
structure BriefHashes where
  content : String → Nat
  brief : ExecutionBrief → Nat
  length : ExecutionBrief → Nat

def BriefHashes.requestDigest (hashes : BriefHashes) (brief : ExecutionBrief) : Digest :=
  .number (hashes.brief brief)

def conversationName : UUIDv7 → String
  | .number value => toString value
  | .text value => value

inductive ExternalExecutionState where
  | absent | running | succeeded | failed | timedOut | cancelled | rejected | unknown
  | other (text : String)
deriving DecidableEq

structure ExecutionEvidence where
  evidenceID : UUIDv7
  kind : String
  mediaType : String
  sourceTimestamp : Time
  content : String
deriving DecidableEq

structure ExternalExecutionObservation where
  invocationID : UUIDv7
  requestDigest : Digest
  conversationID : String
  state : ExternalExecutionState
  actorFQN : ActorFQN
  execution : ExecutionTuple
  modelProfileDigest : Digest
  runtimeIdentityDigest : Digest
  workspaceID : String
  toolPolicyDigest : Digest
  effectPolicyDigest : Digest
  retryable : Bool := false
  evidence : List ExecutionEvidence := []
  output : String := ""
deriving DecidableEq

end Tekroo.Application
