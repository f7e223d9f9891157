import Tekroo.Kernel.Envelope
import Tekroo.Lib.Table

/-! # The control records of executions

The store of the execution coordinator: a record for each idempotency key, reserved within the
limits of a policy and moved on by compare and swap.  Each operation holds the lock of the store.
The `uint32` counters of `Prepare` are natural numbers, which is exact below 2^32 records.
-/

namespace Tekroo.Application

open Kernel Lib Checked

inductive ExecutionControlError where
  | invalidExecutionPlan
  | executionControlConflict
  | executionLimit
  | executionThrash
  | reconciliationExhausted
  | executionObservation

inductive ExecutionControlState where
  | pendingAuthorization
  | authorized
  | starting
  | running
  | stopping
  | stopped
  | rejected
  | uncertain
deriving DecidableEq

structure ExecutionPolicy where
  operationTimeout : Int
  maxActiveTotal : Nat
  maxActivePerActor : Nat
  maxStartsPerActorWindow : Nat
  startWindow : Int
  maxReconciliations : Nat

def ExecutionPolicy.valid (policy : ExecutionPolicy) : Bool :=
  decide (0 < policy.operationTimeout) && decide (0 < policy.maxActiveTotal) &&
    decide (0 < policy.maxActivePerActor) && decide (0 < policy.maxStartsPerActorWindow) &&
    decide (0 < policy.startWindow) && decide (0 < policy.maxReconciliations)

structure StartExecutionRequest where
  actorFQN : ActorFQN
  executionID : UUIDv7
  fencingEpoch : Nat
  runtimeIdentity : Digest
  idempotencyKey : String
deriving DecidableEq

def StartExecutionRequest.valid (request : StartExecutionRequest) : Bool :=
  request.actorFQN.valid && request.executionID.valid && request.fencingEpoch != 0 &&
    request.runtimeIdentity.valid && request.idempotencyKey != ""

inductive ExecutionState where
  | starting
  | running
  | stopping
  | stopped
  | uncertain

structure ExecutionObservation where
  actorFQN : ActorFQN
  executionID : UUIDv7
  fencingEpoch : Nat
  state : ExecutionState

structure ExecutionControlRecord where
  request : StartExecutionRequest
  authorizationCommandID : UUIDv7
  state : ExecutionControlState
  version : Nat
  reservedAt : Time
  updatedAt : Time
  authorizationReceipt : Option CommandReceipt := none
  observation : Option ExecutionObservation := none
  reconciliationAttempts : Nat := 0
  failureCode : String := ""

def validControlTransition (current next : ExecutionControlState) : Bool :=
  if current = next then
    current == .starting || current == .stopping || current == .uncertain
  else
    match current with
    | .pendingAuthorization => next == .authorized || next == .rejected
    | .authorized => next == .starting
    | .starting => next == .running || next == .stopped || next == .uncertain
    | .running => next == .stopping || next == .uncertain
    | .stopping => next == .stopped || next == .running || next == .uncertain
    | .uncertain => next == .running || next == .stopped || next == .stopping
    | _ => false

def controlConsumesCapacity : ExecutionControlState → Bool
  | .stopped | .rejected => false
  | _ => true

namespace ExecutionControlRecord

def consumes (record : ExecutionControlRecord) : Bool := controlConsumesCapacity record.state

def ofActor (actor : ActorFQN) (record : ExecutionControlRecord) : Bool :=
  record.request.actorFQN == actor

def since (windowStart : Time) (record : ExecutionControlRecord) : Bool :=
  !decide (record.reservedAt < windowStart)

def prepared (candidate : ExecutionControlRecord) : Bool :=
  candidate.request.valid && candidate.authorizationCommandID.valid &&
    candidate.state == .pendingAuthorization && candidate.version == 1 &&
    !candidate.reservedAt.isZero && candidate.updatedAt == candidate.reservedAt

end ExecutionControlRecord

abbrev ExecutionControls := Table String ExecutionControlRecord

namespace ExecutionControls

variable (controls : ExecutionControls) (policy : ExecutionPolicy)

def prepare (candidate : ExecutionControlRecord) :
    ExecutionControls × Except ExecutionControlError (ExecutionControlRecord × Bool) :=
  if !candidate.prepared || !policy.valid then (controls, .error .invalidExecutionPlan)
  else
    let key := candidate.request.idempotencyKey
    match controls.lookup key with
    | some prior =>
      if prior.request ≠ candidate.request ∨
          prior.authorizationCommandID ≠ candidate.authorizationCommandID then
        (controls, .error .executionControlConflict)
      else (controls, .ok (prior, false))
    | none =>
      let actor := candidate.request.actorFQN
      let windowStart := candidate.reservedAt - policy.startWindow
      let activeTotal := count controls (·.consumes)
      let activeActor := count controls fun record => record.consumes && record.ofActor actor
      let recentActor := count controls fun record =>
        record.ofActor actor && record.since windowStart
      if policy.maxActiveTotal ≤ activeTotal ∨ policy.maxActivePerActor ≤ activeActor then
        (controls, .error .executionLimit)
      else if policy.maxStartsPerActorWindow ≤ recentActor then (controls, .error .executionThrash)
      else (controls.insert key candidate, .ok (candidate, true))

def swappable (current next : ExecutionControlRecord) (expectedVersion : Nat) : Bool :=
  current.version == expectedVersion && next.version == expectedVersion + 1 &&
    next.request == current.request &&
    next.authorizationCommandID == current.authorizationCommandID &&
    next.reservedAt == current.reservedAt && !decide (next.updatedAt < current.updatedAt) &&
    validControlTransition current.state next.state

def compareAndSwap (key : String) (expectedVersion : Nat) (next : ExecutionControlRecord) :
    ExecutionControls × Except ExecutionControlError Unit :=
  match controls.lookup key with
  | some current =>
    if swappable current next expectedVersion then (controls.insert key next, .ok ())
    else (controls, .error .executionControlConflict)
  | none => (controls, .error .executionControlConflict)

end ExecutionControls

structure Admitted (policy : ExecutionPolicy) (controls : ExecutionControls)
    (candidate : ExecutionControlRecord) : Prop where
  prepared : candidate.prepared = true
  fresh : controls.lookup candidate.request.idempotencyKey = none
  total : count controls (·.consumes) < policy.maxActiveTotal
  actor : (count controls fun record =>
    record.consumes && record.ofActor candidate.request.actorFQN) < policy.maxActivePerActor
  recent : (count controls fun record => record.ofActor candidate.request.actorFQN &&
    record.since (candidate.reservedAt - policy.startWindow)) < policy.maxStartsPerActorWindow

structure Succeeds (current next : ExecutionControlRecord) : Prop where
  version : next.version = current.version + 1
  request : next.request = current.request
  authorization : next.authorizationCommandID = current.authorizationCommandID
  reserved : next.reservedAt = current.reservedAt
  transition : validControlTransition current.state next.state = true

namespace ExecutionControls

variable {controls : ExecutionControls} {policy : ExecutionPolicy}
  {candidate record next : ExecutionControlRecord} {key : String} {expected : Nat}

theorem prepare_cases (controls : ExecutionControls) (policy : ExecutionPolicy)
    (candidate : ExecutionControlRecord) :
    (∃ error, controls.prepare policy candidate = (controls, .error error)) ∨
      (∃ prior, controls.lookup candidate.request.idempotencyKey = some prior ∧
        prior.request = candidate.request ∧
        prior.authorizationCommandID = candidate.authorizationCommandID ∧
        controls.prepare policy candidate = (controls, .ok (prior, false))) ∨
      Admitted policy controls candidate ∧ controls.prepare policy candidate =
        (controls.insert candidate.request.idempotencyKey candidate, .ok (candidate, true)) := by
  simp only [prepare]
  split
  · exact .inl ⟨_, rfl⟩
  · next valid =>
    rw [Bool.not_eq_true, Bool.or_eq_false_iff, Bool.not_eq_false'] at valid
    split
    · next prior found =>
      split
      · exact .inl ⟨_, rfl⟩
      · next same =>
        rw [not_or, not_not, not_not] at same
        exact .inr (.inl ⟨prior, found, same.1, same.2, rfl⟩)
    · next fresh =>
      split
      · exact .inl ⟨_, rfl⟩
      · next room =>
        split
        · exact .inl ⟨_, rfl⟩
        · next recent =>
          rw [not_or, not_le, not_le] at room
          exact .inr (.inr ⟨⟨valid.1, fresh, room.1, room.2, not_le.mp recent⟩, rfl⟩)

theorem compareAndSwap_cases (controls : ExecutionControls) (key : String) (expected : Nat)
    (next : ExecutionControlRecord) :
    controls.compareAndSwap key expected next = (controls, .error .executionControlConflict) ∨
      ∃ current, controls.lookup key = some current ∧ current.version = expected ∧
        Succeeds current next ∧
        controls.compareAndSwap key expected next = (controls.insert key next, .ok ()) := by
  unfold compareAndSwap
  split
  · next current found =>
    split
    · next swaps =>
      simp only [swappable, tests_iff] at swaps
      obtain ⟨⟨⟨⟨⟨⟨same, version⟩, request⟩, authorization⟩, reserved⟩, -⟩, moves⟩ := swaps
      exact .inr ⟨current, found, same, ⟨same ▸ version, request, authorization, reserved, moves⟩,
        rfl⟩
    · exact .inl rfl
  · exact .inl rfl

end ExecutionControls

end Tekroo.Application
