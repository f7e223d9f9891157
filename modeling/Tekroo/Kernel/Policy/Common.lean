import Tekroo.Kernel.Catalogue
import Tekroo.Kernel.Lifecycle

namespace Tekroo.Kernel

/-! # Refusals and the checks that several policies share -/

inductive Rejection where
  | rejectedInvalid | rejectedUnauthorized | rejectedNotFound | rejectedConflict
  | rejectedStaleExecution | rejectedClosed | rejectedPolicy
deriving DecidableEq

def Rejection.code : Rejection → OutcomeCode
  | .rejectedInvalid => .rejectedInvalid
  | .rejectedUnauthorized => .rejectedUnauthorized
  | .rejectedNotFound => .rejectedNotFound
  | .rejectedConflict => .rejectedConflict
  | .rejectedStaleExecution => .rejectedStaleExecution
  | .rejectedClosed => .rejectedClosed
  | .rejectedPolicy => .rejectedPolicy

theorem Rejection.code_ne_applied (rejection : Rejection) : rejection.code ≠ .applied := by
  cases rejection <;> decide

structure Refusal where
  outcome : Rejection
  reason : String

namespace Refusal

def invalidPayload : Refusal := ⟨.rejectedInvalid, "INVALID_PAYLOAD"⟩
def invalidEvidence : Refusal := ⟨.rejectedInvalid, "INVALID_EVIDENCE_REFERENCE"⟩
def unauthorized : Refusal := ⟨.rejectedUnauthorized, "UNAUTHORIZED"⟩
def revisionConflict : Refusal := ⟨.rejectedConflict, "REVISION_CONFLICT"⟩
def criteriaConflict : Refusal := ⟨.rejectedConflict, "CRITERIA_REVISION_CONFLICT"⟩
def staleEpoch : Refusal := ⟨.rejectedConflict, "STALE_LIFECYCLE_EPOCH"⟩
def staleExecution : Refusal := ⟨.rejectedStaleExecution, "STALE_EXECUTION"⟩
def transitionPolicy : Refusal := ⟨.rejectedPolicy, "TRANSITION_POLICY"⟩
def releaseGateFailed : Refusal := ⟨.rejectedPolicy, "RELEASE_GATE_FAILED"⟩

end Refusal

variable (ids : List UUIDv7) (command : KernelCommand)

/-- `payloadEvidenceFieldMatches`: the payload lists exactly the evidence that the command
refers to. -/
def evidenceFieldMatches (references : List EvidenceRef) : Bool :=
  ids.all UUIDv7.valid && ids.length == references.length &&
    canonicalUUIDs ids == canonicalUUIDs (references.map (·.evidenceID))

def payloadEvidenceMatches : Bool :=
  command.payload.evidenceIDs.any fun ids => evidenceFieldMatches ids command.evidenceRefs

def containsAggregatePrecondition (target : AggregateRef) : Bool :=
  command.preconditions.any fun value => value.aggregate == target

def containsDagParent (eventID : UUIDv7) (edge : EdgeKind) : Bool :=
  command.causation.any fun parent => parent.parentEventID == eventID && parent.edgeKind == edge

def causalPathMatchesCommand (path : List UUIDv7) (parents : List DagParent) : Bool :=
  !path.isEmpty && parents == path.map (fun eventID => ⟨eventID, .causal⟩)

def causalPathMatchesCommandField (parents : List DagParent) : Bool :=
  ids.all UUIDv7.valid &&
    canonicalParents parents == (canonicalUUIDs ids).map (fun eventID => ⟨eventID, .causal⟩)

def evidenceIDsCovered (references : List EvidenceRef) : Bool :=
  ids.all (references.map (·.evidenceID)).contains

def commandRequiresLifecycleEpoch : Bool :=
  match command.commandType with
  | .storyCreate | .taskCreate | .recordCorrect => false
  | _ => command.target.kind == .story || command.target.kind == .task

end Tekroo.Kernel
