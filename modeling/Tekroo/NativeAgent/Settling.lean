import Tekroo.AgentRuntime.Conduct
import Tekroo.NativeAgent.Serving

namespace Tekroo.NativeAgent

open Kernel Application Lib Checked Lib.Program BoundaryState
open AgentRuntime hiding Surroundings Delivery

/-! # Boundary calls where nothing fails -/

/-- The gateways of the effect tools, as reconciliation meets them. -/
structure EffectGateway where
  /-- The checks before the ledger is read: the arguments, the authority and the workspace. -/
  accepts : ToolCall → Bool
  /-- The reserved effects, each with the result that was recorded for it. -/
  ledger : ToolCall → Option (Option String)

/-- `ReconcileEffect` -/
def EffectGateway.reconcile (gateway : EffectGateway) (call : ToolCall) :
    Except String (Option RawMessage) :=
  if gateway.accepts call then
    match gateway.ledger call with
    | none => .ok none
    | some none => .error "uncertain"
    | some (some output) => .ok (some (some output))
  else .error "forbidden"

structure Place where
  gateway : EffectGateway
  config : Config
  authority : Except String Authority
  project : Option String
  ttl : Time
  cause : Option Cause

namespace Place

variable (place : Place)

def around : BoundaryCall → BoundarySurroundings
  | .runtime _ (.reconcileEffect call) =>
    { runtime := { reconciled := place.gateway.reconcile call } }
  | _ => {
      config := .ok place.config
      authority := place.authority
      project := place.project
      ttl := place.ttl
      cause := place.cause }

def serve (id : UUIDv7) (state : BoundaryState) (call : BoundaryCall) :
    BoundaryState × call.Answer :=
  state.serve id call (place.around call)

def under (id : UUIDv7) (epoch : Nat) (state : BoundaryState) (call : RuntimeCall Prompt) :
    BoundaryState × call.Answer :=
  place.serve id state (.runtime epoch call)

end Place

variable (state : BoundaryState) (id : UUIDv7) (epoch : Nat) (content : Content Prompt)

def BoundaryState.appended : BoundaryState :=
  state.journaled epoch
    { state.runtime with entries := written id state.runtime.entries content }

@[simp] theorem BoundaryState.appended_entries :
    (state.appended id epoch content).runtime.entries =
      written id state.runtime.entries content := rfl

theorem BoundaryState.journaled_same : state.journaled epoch state.runtime = state := by
  simp [journaled]

section Calls

variable {place : Place} {id : UUIDv7} {epoch : Nat} {state later : BoundaryState}
  {entries : List (Entry Prompt)} {content : Content Prompt}

@[simp] theorem under_load :
    place.under id epoch state .load = (state, .ok state.runtime.entries) := by
  simp [Place.under, Place.serve, serve, RuntimeState.serve, Place.around, journaled_same]

theorem under_append {expected : Nat} (counted : expected = state.runtime.entries.length) :
    place.under id epoch state (.append expected content) =
      (state.appended id epoch content, .ok ⟨id, state.runtime.entries.length + 1, content⟩) := by
  subst counted
  simp [Place.under, Place.serve, serve, RuntimeState.serve, Place.around, appended, written]

@[simp] theorem under_reconcile {call : ToolCall} :
    place.under id epoch state (.reconcileEffect call) = (state, place.gateway.reconcile call) := by
  simp [Place.under, Place.serve, serve, RuntimeState.serve, Place.around, journaled_same]

@[simp] theorem exec_underLease {ω α : Type} {error : ω → NativeError}
    {program : Calling Prompt ω α} :
    exec (place.serve id) (underLease epoch error program) state =
      ((exec (place.under id epoch) program state).1,
        (exec (place.under id epoch) program state).2.mapError error) := by
  have same : (program.run.interpret fun call =>
      (request (.runtime epoch call) : Program BoundaryCall BoundaryCall.Answer _)).run
        (place.serve id) state = exec (place.under id epoch) program state :=
    run_interpret _ _ _ _
  rw [underLease, exec_bind, exec_lift, same]
  cases (exec (place.under id epoch) program state).2 <;> rfl

@[simp] theorem exec_attempt {α : Type} {part : Bounding α} :
    exec (place.serve id) (attempt part) state =
      ((exec (place.serve id) part state).1, .ok (exec (place.serve id) part state).2) :=
  exec_lift _

@[simp] theorem exec_loadJournal :
    exec (place.serve id) (loadJournal epoch) state = (state, .ok state.runtime.entries) := by
  have loaded : place.serve id state (.runtime epoch .load) =
      (state, .ok state.runtime.entries) := under_load
  simp [loadJournal, boundaryCall, loaded]

theorem exec_appendEntry (loaded : state.runtime.entries = entries)
    (numbered : lastSequence entries = entries.length) :
    exec (place.under id epoch) (appendEntry entries content) state =
      (state.appended id epoch content, .ok (written id entries content)) := by
  subst loaded
  simp [appendEntry, calling, under_append numbered, written]

end Calls

section Closing

variable {place : Place} {brief : ExecutionBrief} {digest : Digest} {epoch : Nat}
  {state : BoundaryState} {ending : Ending} {reason : String} {strictPrompt : Bool}
  {observed : ExternalExecutionObservation}

@[simp] theorem exec_observe :
    exec (place.serve brief.invocationID) (Boundary.observe brief digest epoch strictPrompt)
        state =
      (state, observeJournalWithPrompt brief digest strictPrompt state.runtime.entries) := by
  simp only [Boundary.observe, exec_bind, exec_loadJournal]
  cases observeJournalWithPrompt brief digest strictPrompt state.runtime.entries <;> rfl

theorem exec_appendEnding
    (numbered : lastSequence state.runtime.entries = state.runtime.entries.length) :
    exec (place.under brief.invocationID epoch) (appendEnding ending reason state.runtime.entries)
        state =
      (state.appended brief.invocationID epoch (ending.content (truncateReason reason)),
        .ok ()) := by
  simp [appendEnding, recordingCall, under_append numbered]

theorem exec_recordTerminal_cons (nonempty : state.runtime.entries ≠ []) :
    exec (place.under brief.invocationID epoch)
        (recordTerminalWithPrompt brief digest ending reason strictPrompt) state =
      exec (place.under brief.invocationID epoch)
        (closeJournal brief digest ending reason strictPrompt state.runtime.entries) state := by
  simp [recordTerminalWithPrompt, recordingCall]

theorem exec_recordTerminal_open (nonempty : state.runtime.entries ≠ [])
    (running : observeJournalWithPrompt brief digest strictPrompt state.runtime.entries =
      .ok (observed, false))
    (numbered : lastSequence state.runtime.entries = state.runtime.entries.length) :
    exec (place.under brief.invocationID epoch)
        (recordTerminalWithPrompt brief digest ending reason strictPrompt) state =
      (state.appended brief.invocationID epoch (ending.content (truncateReason reason)),
        .ok ()) := by
  rw [exec_recordTerminal_cons nonempty, closeJournal, running]
  exact exec_appendEnding numbered

theorem observed_boundaryStart (encodable : brief.encodable = true) :
    observeJournalWithPrompt brief digest strictPrompt
        (written brief.invocationID [] (.started (boundaryStart brief digest))) =
      .ok (nativeObservation brief digest .running "" false, false) := by
  refine observed_started encodable ?_ ?_
  · simp [startedFor, boundaryStart, brief_matches]
  · simp [placedFrom, Entry.placed]

theorem exec_recordTerminal_empty (encodable : brief.encodable = true)
    (empty : state.runtime.entries = []) :
    exec (place.under brief.invocationID epoch)
        (recordTerminalWithPrompt brief digest ending reason strictPrompt) state =
      ((state.appended brief.invocationID epoch (.started (boundaryStart brief digest))).appended
          brief.invocationID epoch (ending.content (truncateReason reason)),
        .ok ()) := by
  have started : (state.appended brief.invocationID epoch
      (.started (boundaryStart brief digest))).runtime.entries =
        written brief.invocationID [] (.started (boundaryStart brief digest)) := by
    rw [appended_entries, empty]
  have opened : exec (place.under brief.invocationID epoch) (openJournal brief digest) state =
      (state.appended brief.invocationID epoch (.started (boundaryStart brief digest)),
        .ok (written brief.invocationID [] (.started (boundaryStart brief digest)))) := by
    have counted : 0 = state.runtime.entries.length := by rw [empty]; rfl
    simp [openJournal, recordingCall, encodable, under_append counted, empty]
  simp only [recordTerminalWithPrompt, recordingCall, exec_bind, exec_lift, run_request,
    under_load, empty, opened, closeJournal, observed_boundaryStart encodable]
  rw [← started]
  exact exec_appendEnding (by rw [started]; rfl)

end Closing

end Tekroo.NativeAgent
