import Tekroo.NativeAgent.Boundary

namespace Tekroo.NativeAgent

open Kernel Application Lib
open AgentRuntime

/-! # Boundaries over one journal and one control record

Any number of boundary calls, each with the worker that it leaves behind, on one invocation.
-/

/-- An entry that was written: under which epoch, what epoch the last lease had, and the end of
the lease that the writer's epoch was last given. -/
structure Write where
  epoch : Nat
  granted : Nat
  time : Time
  leaseEnd : Time
deriving DecidableEq

structure BoundaryState where
  runtime : RuntimeState Prompt := {}
  control : Option RunControl := none
  clock : Time := 1
  /-- As a history, the end of the lease that each epoch was last given. -/
  leaseEnds : Nat → Time := fun _ => 0
  /-- As a history, the entries that were written. -/
  writes : List Write := []

structure BoundarySurroundings where
  runtime : Surroundings Prompt := {}
  config : Except String Config := .error ""
  authority : Except String Authority := .error ""
  project : Option String := none
  control : AgentRuntime.Delivery := .done
  ttl : Time := 1
  cause : Option Cause := none

namespace BoundaryState

variable (state : BoundaryState)

def grantedEpoch : Nat :=
  match state.control with
  | some record => record.epoch
  | none => 0

def controlled (control : Option RunControl) : BoundaryState :=
  { state with
    control
    leaseEnds :=
      match control with
      | some record => Function.update state.leaseEnds record.epoch record.leaseUntil
      | none => state.leaseEnds }

def operate {α : Type} (delivery : AgentRuntime.Delivery)
    (result : Option RunControl × Except Unit α) : BoundaryState × Except Unit α :=
  match delivery with
  | .done => (state.controlled result.1, result.2)
  | .lost => (state.controlled result.1, .error ())
  | .failed => (state, .error ())

def journaled (epoch : Nat) (runtime : RuntimeState Prompt) : BoundaryState :=
  { state with
    runtime
    writes :=
      if state.runtime.entries.length < runtime.entries.length then
        state.writes ++ [⟨epoch, state.grantedEpoch, state.clock, state.leaseEnds epoch⟩]
      else state.writes }

def serve (id : UUIDv7) (state : BoundaryState) (call : BoundaryCall)
    (around : BoundarySurroundings) : BoundaryState × call.Answer :=
  match call with
  | .runtime epoch call =>
    (state.journaled epoch (state.runtime.serve id call around.runtime).1,
      (state.runtime.serve id call around.runtime).2)
  | .configure => (state, around.config)
  | .bindTools => (state, around.authority)
  | .project => (state, around.project)
  | .claim digest owner =>
    state.operate around.control
      (RunControl.claim state.control digest owner state.clock around.ttl)
  | .renew digest owner epoch =>
    state.operate around.control
      (RunControl.renew state.control digest owner epoch state.clock around.ttl)
  | .requestCancel digest =>
    state.operate around.control (RunControl.requestCancel state.control digest)
  | .release digest owner epoch =>
    state.operate around.control
      (RunControl.release state.control digest owner epoch state.clock)
  | .cause => (state, around.cause)

end BoundaryState

inductive BoundaryRequest where
  /-- `Start` or `ReconcileStart` -/
  | ensure
  | inspect (conversationID : String)
  | cancel (conversationID : String)
  | supersede (conversationID : String) (oldDigest : Digest)

structure BoundaryTask where
  boundary : Boundary
  brief : ExecutionBrief
  digest : Digest
  request : BoundaryRequest

namespace BoundaryTask

variable (task : BoundaryTask)

def answer : Bounding (ExternalExecutionObservation × Option Nat) :=
  match task.request with
  | .ensure => task.boundary.ensure task.brief task.digest
  | .inspect conversationID => task.boundary.inspect task.brief task.digest conversationID
  | .cancel conversationID => task.boundary.cancel task.brief task.digest conversationID
  | .supersede conversationID oldDigest =>
    task.boundary.reconcileSuperseded task.brief task.digest conversationID oldDigest

/-- The call and then the worker that it has started. -/
def program : Program BoundaryCall BoundaryCall.Answer
    (Except NativeError ExternalExecutionObservation) := do
  match ← task.answer.run with
  | .error error => return .error error
  | .ok (observed, none) => return .ok observed
  | .ok (observed, some epoch) => do
    let _ ← (task.boundary.runWorker task.brief task.digest epoch).run
    return .ok observed

end BoundaryTask

/-- Time passes, or the heartbeat of a worker renews its lease. -/
inductive BoundaryChange where
  | tick (duration : Nat)
  | heartbeat (digest : Digest) (owner : String) (epoch : Nat) (ttl : Time)

def BoundaryState.change (state : BoundaryState) : BoundaryChange → BoundaryState
  | .tick duration => { state with clock := state.clock + duration }
  | .heartbeat digest owner epoch ttl =>
    state.controlled (RunControl.renew state.control digest owner epoch state.clock ttl).1

abbrev BoundaryThread :=
  Thread BoundaryTask BoundaryCall BoundaryCall.Answer
    (Except NativeError ExternalExecutionObservation)

def boundaries (id : UUIDv7) :
    Protocol BoundaryState BoundaryThread BoundarySurroundings BoundaryChange :=
  threads BoundaryTask.program (fun task => task.brief.invocationID == id)
    (BoundaryState.serve id) BoundaryState.change

end Tekroo.NativeAgent
