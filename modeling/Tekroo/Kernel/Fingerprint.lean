import Mathlib
import Tekroo.Lib.Sorting

namespace Tekroo.Wire

/-! # The value that a command fingerprint digests

Elsewhere a fingerprint is a hash of the parsed command.  Here a command is what was received:
kinds and identities are any texts in valid UTF-8, and the payload is any bytes.
-/

open Lib

/-- The values that `encoding/json` decodes into, numbers by their spelling.  The entries of an
object stand in the order of their keys, as the encoder writes them. -/
inductive Json where
  | null
  | bool (value : Bool)
  | number (spelling : String)
  | string (value : String)
  | array (items : List Json)
  | object (entries : List (String × Json))

namespace Json

def count (value : Nat) : Json := .number value.repr

def optional (value : Option Nat) : Json := value.elim .null count

/-- A slice that was made by `append` to `nil`: without elements it is still `nil`. -/
def slice {α : Type} (json : α → Json) : List α → Json
  | [] => .null
  | items => .array (items.map json)

@[simp] theorem count_inj {left right : Nat} : count left = count right ↔ left = right := by
  simp [count, Nat.repr_inj]

@[simp] theorem optional_inj {left right : Option Nat} :
    optional left = optional right ↔ left = right := by
  cases left <;> cases right <;> simp [optional, count, Nat.repr_inj]

theorem slice_inj {α : Type} {json : α → Json} (injective : Function.Injective json)
    {left right : List α} : slice json left = slice json right ↔ left = right := by
  refine ⟨fun same => ?_, fun same => same ▸ rfl⟩
  cases left <;> cases right <;> simp only [slice, array.injEq, reduceCtorEq] at same
  · rfl
  · exact injective.list_map same

end Json

structure AggregateRef where
  kind : String
  id : String
deriving DecidableEq

structure PrincipalRef where
  kind : String
  id : String

structure ExecutionTuple where
  executionID : String
  fencingEpoch : Nat

structure ExpectedRevision where
  mustNotExist : Bool
  revision : Nat
deriving DecidableEq

structure AggregatePrecondition where
  aggregate : AggregateRef
  expected : ExpectedRevision
deriving DecidableEq

structure DagParent where
  parentEventID : String
  edgeKind : String

structure EvidenceRef where
  evidenceID : String
  sha256 : String

structure CommandHeader where
  contractManifest : String
  commandType : String
  commandVersion : String
  target : AggregateRef
  authority : PrincipalRef
  actorFQN : Option String
  execution : Option ExecutionTuple
  expectedRevision : ExpectedRevision
  expectedLifecycleEpoch : Option Nat
  expectedPolicyRevision : Nat
  expectedCatalogueRevision : Nat

structure KernelCommand extends CommandHeader where
  commandID : String
  preconditions : List AggregatePrecondition
  idempotencyKey : String
  correlationID : String
  causation : List DagParent
  issuedAt : Option Int
  payload : List UInt8
  evidenceRefs : List EvidenceRef

def AggregateRef.json (reference : AggregateRef) : Json :=
  .object [("id", .string reference.id), ("kind", .string reference.kind)]

def PrincipalRef.json (principal : PrincipalRef) : Json :=
  .object [("id", .string principal.id), ("kind", .string principal.kind)]

def ExecutionTuple.json (execution : ExecutionTuple) : Json :=
  .object [("execution_id", .string execution.executionID),
    ("fencing_epoch", .count execution.fencingEpoch)]

def ExpectedRevision.json (expected : ExpectedRevision) : Json :=
  .object [("must_not_exist", .bool expected.mustNotExist), ("revision", .count expected.revision)]

def AggregatePrecondition.json (value : AggregatePrecondition) : Json :=
  .object [("aggregate", value.aggregate.json), ("expected", value.expected.json)]

def DagParent.json (parent : DagParent) : Json :=
  .object [("edge_kind", .string parent.edgeKind),
    ("parent_event_id", .string parent.parentEventID)]

def EvidenceRef.json (evidence : EvidenceRef) : Json :=
  .object [("evidence_id", .string evidence.evidenceID), ("sha256", .string evidence.sha256)]

def DagParent.key (parent : DagParent) : String ×ₗ String :=
  toLex (parent.edgeKind, parent.parentEventID)

def EvidenceRef.key (evidence : EvidenceRef) : String ×ₗ String :=
  toLex (evidence.evidenceID, evidence.sha256)

def AggregatePrecondition.key (value : AggregatePrecondition) : String ×ₗ String :=
  toLex (value.aggregate.kind, value.aggregate.id)

def notAfter (left right : String ×ₗ String) : Bool := decide (left ≤ right)

theorem notAfter_total (left right : String ×ₗ String) :
    notAfter left right = true ∨ notAfter right left = true := by
  simpa [notAfter] using le_total left right

theorem notAfter_trans {left middle right : String ×ₗ String} (before : notAfter left middle = true)
    (after : notAfter middle right = true) : notAfter left right = true := by
  simp only [notAfter, decide_eq_true_eq] at *
  exact before.trans after

/-- `sort.Slice` on the parents, the evidence and, in `canonicalPreconditions`, on the
preconditions. -/
structure Sorting where
  parents : SliceSort notAfter DagParent.key := .insertion notAfter_total notAfter_trans _
  evidence : SliceSort notAfter EvidenceRef.key := .insertion notAfter_total notAfter_trans _
  canonicalPreconditions : SliceSort notAfter AggregatePrecondition.key :=
    .insertion notAfter_total notAfter_trans _

/-- `hex.EncodeToString` -/
def hexText (bytes : List UInt8) : String :=
  String.ofList (bytes.flatMap fun byte =>
    [Nat.digitChar (byte.toNat / 16), Nat.digitChar (byte.toNat % 16)])

def rawHex (bytes : List UInt8) : Json := .object [("raw_hex", .string (hexText bytes))]

/-- `encoding/json` and SHA-256, which are taken to be correct. -/
structure Encoding (Digest : Type) where
  /-- The value of bytes that are one JSON value and nothing else. -/
  decode : List UInt8 → Option Json
  /-- SHA-256 of what `canonicalJSON` writes for a value. -/
  digest : Json → Digest
  digest_injective : Function.Injective digest
  /-- The letter `x` is not JSON. -/
  decode_letter : decode [120] = none
  /-- These bytes spell the object whose `raw_hex` is `78`. -/
  decode_object :
    decode [123, 34, 114, 97, 119, 95, 104, 101, 120, 34, 58, 34, 55, 56, 34, 125] =
      some (rawHex [120])

variable {Digest : Type} (encoding : Encoding Digest) (sorting : Sorting)

def Encoding.payload (bytes : List UInt8) : Json := (encoding.decode bytes).getD (rawHex bytes)

def KernelCommand.semantic (command : KernelCommand) : Json :=
  .object (command.actorFQN.toList.map (fun actor => ("actor_fqn", .string actor)) ++
    [("authority", command.authority.json),
      ("causation", .slice DagParent.json (sorting.parents.sort command.causation)),
      ("command_type", .string command.commandType),
      ("command_version", .string command.commandVersion),
      ("contract_manifest", .string command.contractManifest),
      ("evidence_refs", .slice EvidenceRef.json (sorting.evidence.sort command.evidenceRefs))] ++
    command.execution.toList.map (fun execution => ("execution", execution.json)) ++
    [("expected_catalogue_revision", .count command.expectedCatalogueRevision),
      ("expected_lifecycle_epoch", .optional command.expectedLifecycleEpoch),
      ("expected_policy_revision", .count command.expectedPolicyRevision),
      ("expected_revision", command.expectedRevision.json),
      ("payload", encoding.payload command.payload),
      ("preconditions",
        .slice AggregatePrecondition.json
          (sorting.canonicalPreconditions.sort command.preconditions)),
      ("target", command.target.json)])

def commandFingerprint (command : KernelCommand) : Digest :=
  encoding.digest (command.semantic encoding sorting)

theorem AggregateRef.json_injective : Function.Injective AggregateRef.json := by
  rintro ⟨⟩ ⟨⟩ same
  simpa [json, and_comm] using same

theorem PrincipalRef.json_injective : Function.Injective PrincipalRef.json := by
  rintro ⟨⟩ ⟨⟩ same
  simpa [json, and_comm] using same

theorem ExecutionTuple.json_injective : Function.Injective ExecutionTuple.json := by
  rintro ⟨⟩ ⟨⟩ same
  simpa [json] using same

theorem ExpectedRevision.json_injective : Function.Injective ExpectedRevision.json := by
  rintro ⟨⟩ ⟨⟩ same
  simpa [json] using same

theorem AggregatePrecondition.json_injective : Function.Injective AggregatePrecondition.json := by
  rintro ⟨⟩ ⟨⟩ same
  simpa [json, AggregateRef.json_injective.eq_iff, ExpectedRevision.json_injective.eq_iff]
    using same

theorem DagParent.json_injective : Function.Injective DagParent.json := by
  rintro ⟨⟩ ⟨⟩ same
  simpa [json, and_comm] using same

theorem EvidenceRef.json_injective : Function.Injective EvidenceRef.json := by
  rintro ⟨⟩ ⟨⟩ same
  simpa [json] using same

variable {encoding sorting} {left right : KernelCommand}

theorem semantic_eq_iff : left.semantic encoding sorting = right.semantic encoding sorting ↔
    left.toCommandHeader = right.toCommandHeader ∧
      sorting.parents.sort left.causation = sorting.parents.sort right.causation ∧
      sorting.evidence.sort left.evidenceRefs = sorting.evidence.sort right.evidenceRefs ∧
      sorting.canonicalPreconditions.sort left.preconditions =
        sorting.canonicalPreconditions.sort right.preconditions ∧
      encoding.payload left.payload = encoding.payload right.payload := by
  obtain ⟨⟨_, _, _, _, _, actor, execution, _, _, _, _⟩, _, _, _, _, _, _, _, _⟩ := left
  obtain ⟨⟨_, _, _, _, _, actor', execution', _, _, _, _⟩, _, _, _, _, _, _, _, _⟩ := right
  cases actor <;> cases actor' <;> cases execution <;> cases execution' <;>
    simp [KernelCommand.semantic, AggregateRef.json_injective.eq_iff,
      PrincipalRef.json_injective.eq_iff, ExecutionTuple.json_injective.eq_iff,
      ExpectedRevision.json_injective.eq_iff, Json.slice_inj AggregatePrecondition.json_injective,
      Json.slice_inj DagParent.json_injective, Json.slice_inj EvidenceRef.json_injective] <;>
    tauto

end Tekroo.Wire
