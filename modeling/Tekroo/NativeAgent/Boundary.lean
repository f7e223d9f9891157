import Tekroo.NativeAgent.Recorder

namespace Tekroo.NativeAgent

open Kernel Application Lib Checked
open AgentRuntime hiding Surroundings Delivery

/-! # The execution boundary of native sessions

A boundary call looks at the journal, claims the lease of the run and either closes a cancelled run
or leaves a worker behind.
-/

inductive Cause where
  | leaseLost | cancelRequested | deadlineExceeded
  | other (text : String)
deriving DecidableEq

/-- The calls of a boundary.  A call of the journal carries the epoch of the lease that it is
made under, `0` before there is one. -/
inductive BoundaryCall where
  | runtime (epoch : Nat) (call : RuntimeCall Prompt)
  | configure
  | bindTools
  | project
  | claim (digest : Digest) (owner : String)
  | renew (digest : Digest) (owner : String) (epoch : Nat)
  | requestCancel (digest : Digest)
  | release (digest : Digest) (owner : String) (epoch : Nat)
  | cause

abbrev BoundaryCall.Answer : BoundaryCall → Type
  | .runtime _ call => call.Answer
  | .configure => Except String Config
  | .bindTools => Except String Authority
  | .project => Option String
  | .claim _ _ => Except Unit RunLease
  | .renew _ _ _ => Except Unit Renewal
  | .requestCancel _ | .release _ _ _ => Except Unit Unit
  | .cause => Option Cause

abbrev Bounding := ExceptT NativeError (Program BoundaryCall BoundaryCall.Answer)

def boundaryCall (call : BoundaryCall) : Bounding call.Answer :=
  ExceptT.lift (Program.request call)

def underLease {ω α : Type} (epoch : Nat) (error : ω → NativeError)
    (program : ExceptT ω (Program (RuntimeCall Prompt) RuntimeCall.Answer) α) : Bounding α := do
  match ← ExceptT.lift (program.run.interpret fun call => Program.request (.runtime epoch call))
    with
  | .ok value => return value
  | .error reason => throw (error reason)

/-- The outcome of a part whose failure the caller handles. -/
def attempt {α : Type} (part : Bounding α) : Bounding (Except NativeError α) :=
  ExceptT.lift part.run

def validBoundaryRequest (hashes : BriefHashes) (brief : ExecutionBrief) (digest : Digest) : Bool :=
  brief.invocationID.valid && digest.valid && brief.contractManifest == contractIdentity &&
    brief.encodable && digest == hashes.requestDigest brief

structure Boundary where
  hashes : BriefHashes
  library : Library
  owner : String
  /-- `Control` and `Journal` are set. -/
  stores : Bool := true
  /-- `Configure` and `Owner` are set, the lease and the heartbeat positive, and the heartbeat is
  the shorter one. -/
  configured : Bool := true
  /-- How many rounds a loop makes before its process stops. -/
  fuel : Nat
  /-- The text of an error -/
  message : NativeError → String

def loadJournal (epoch : Nat) : Bounding (List (Entry Prompt)) := do
  match ← boundaryCall (.runtime epoch .load) with
  | .ok entries => return entries
  | .error _ => throw .journal

namespace Boundary

variable (boundary : Boundary) (brief : ExecutionBrief) (digest : Digest) (epoch : Nat)

/-- `prepare` with the authority that it is given, on the present journal. -/
def prepareWith (config : Config) (allowEffects : Bool) (authority : Except String Authority) :
    Bounding (Runner Prompt) := do
  let journal ← boundaryCall (.runtime epoch .load)
  let project ← boundaryCall .project
  match prepare boundary.hashes boundary.library brief digest config allowEffects
    { authority, journal, project } with
  | .ok runner => return runner
  | .error error => throw error

def configuration : Bounding Config := do
  match ← boundaryCall .configure with
  | .ok config => return config
  | .error reason => throw (.configure reason)

/-- `Configure` and `prepareSession` -/
def session : Bounding (Runner Prompt) := do
  let config ← configuration
  let authority ← boundaryCall .bindTools
  boundary.prepareWith brief digest epoch config config.effects authority

/-- The effect authority of the journal's start, if the start is one of the brief. -/
def startAuthority : List (Entry Prompt) → Except NativeError (Option EffectAuthority)
  | ⟨_, _, .started record⟩ :: _ =>
    if brief.encodable && record.requestDigest == digest &&
        nativePromptMatchesBrief brief digest record.prompt then
      .ok record.effectAuthority
    else .error .invalidBinding
  | _ => .error .invalidBinding

variable (cause : Option Cause) (failure : Option NativeError) (conversationID : String)
  (snapshot : EffectAuthority) (entries : List (Entry Prompt))

/-- The snapshot that effects are reconciled under. -/
def snapshotAccepted : Bool :=
  snapshot.workspaceRoot != "" && snapshot.purpose == purposeText brief.purpose &&
    snapshot.effectPolicyDigest == brief.effectPolicyDigest &&
    snapshot.permissions == brief.roleGrounding.permissions &&
    snapshot.permissions.contains "repository.edit"

/-- `staticReconciliationBinding` -/
def staticAuthority : Authority where
  workspaceRoot := snapshot.workspaceRoot
  permissions := snapshot.permissions
  purpose := brief.purpose
  effectPolicyDigest := brief.effectPolicyDigest

def namesMutation : Bool :=
  (recordedCalls entries).any fun call => mutationTool call.name

def endsWithStart : Bool :=
  match entries.getLast? with
  | some ⟨_, _, .started _⟩ => true
  | _ => false

/-- The session is prepared again, with the authority of the journal's start, and its pending
effects are reconciled. -/
def reconcileSession : Bounding Unit := do
  if !snapshotAccepted brief snapshot then throw .invalidBinding
  else do
    let config ← configuration
    let runner ← boundary.prepareWith brief digest epoch config true
      (.ok (staticAuthority brief snapshot))
    underLease epoch .run (runner.reconcilePendingEffects boundary.fuel)

def reconcileEntries : Bounding Unit :=
  match startAuthority brief digest entries with
  | .error error => throw error
  | .ok none => if namesMutation entries then throw .invalidBinding else return ()
  | .ok (some snapshot) => boundary.reconcileSession brief digest epoch snapshot

def reconcileBeforeTerminal : Bounding Unit := do
  let entries ← loadJournal epoch
  if entries.isEmpty || endsWithStart entries then return ()
  else boundary.reconcileEntries brief digest epoch entries

def observe (strictPrompt : Bool) : Bounding (ExternalExecutionObservation × Bool) := do
  let entries ← loadJournal epoch
  match observeJournalWithPrompt brief digest strictPrompt entries with
  | .ok observed => return observed
  | .error error => throw error

def settle (reason : String) (strictPrompt : Bool) : Bounding ExternalExecutionObservation := do
  boundary.reconcileBeforeTerminal brief digest epoch
  underLease epoch id (recordTerminalWithPrompt brief digest .cancelled reason strictPrompt)
  let _ ← boundaryCall (.release digest boundary.owner epoch)
  let observed ← observe brief digest epoch strictPrompt
  return observed.1

/-- The lease, once it is acquired: a cancelled run is settled, a session that cannot be
prepared is rejected, and otherwise the epoch of the worker to start is returned. -/
def resume (lease : RunLease) : Bounding (ExternalExecutionObservation × Option Nat) :=
  if lease.cancelRequested then do
    return (← boundary.settle brief digest lease.epoch "cancelled before resume" true, none)
  else do
    match ← attempt (boundary.session brief digest lease.epoch) with
    | .error error =>
      let _ ← boundaryCall (.release digest boundary.owner lease.epoch)
      return (nativeObservation brief digest .rejected (boundary.message error) false, none)
    | .ok _ =>
      match ← boundaryCall (.renew digest boundary.owner lease.epoch) with
      | .error _ => throw .leaseLost
      | .ok renewal =>
        if !renewal.held then throw .leaseLost
        else if renewal.cancelRequested then
          return (← boundary.settle brief digest lease.epoch "cancelled before model use" true,
            none)
        else return (nativeObservation brief digest .running "" false, some lease.epoch)

/-- `ensure`, with the epoch of the worker that it starts. -/
def ensure : Bounding (ExternalExecutionObservation × Option Nat) :=
  if !(validBoundaryRequest boundary.hashes brief digest && boundary.stores &&
      boundary.configured) then
    throw .invalidBinding
  else do
    let (observed, terminal) ← observe brief digest 0 true
    if terminal then return (observed, none)
    else
      match ← boundaryCall (.claim digest boundary.owner) with
      | .error _ => throw .control
      | .ok lease =>
        if lease.acquired then boundary.resume brief digest lease
        else return (nativeObservation brief digest .running "" false, none)

def inspect : Bounding (ExternalExecutionObservation × Option Nat) :=
  if conversationID != conversationName brief.invocationID then throw .invalidBinding
  else boundary.ensure brief digest

/-- `Cancel`; the signal to a worker of this process is part of what the worker's context is. -/
def cancel : Bounding (ExternalExecutionObservation × Option Nat) :=
  if conversationID != conversationName brief.invocationID ||
      !(validBoundaryRequest boundary.hashes brief digest && boundary.stores) then
    throw .invalidBinding
  else do
    match ← boundaryCall (.requestCancel digest) with
    | .error _ => throw .control
    | .ok _ => boundary.ensure brief digest

def reconcileSuperseded (oldDigest : Digest) :
    Bounding (ExternalExecutionObservation × Option Nat) :=
  if conversationID != conversationName brief.invocationID ||
      !(validBoundaryRequest boundary.hashes brief digest && boundary.stores &&
        boundary.configured) ||
      !oldDigest.valid || oldDigest == digest then
    throw .invalidBinding
  else do
    match ← boundaryCall (.requestCancel oldDigest) with
    | .error _ => throw .control
    | .ok _ =>
      let (observed, terminal) ← observe brief oldDigest 0 false
      if terminal then return (observed, none)
      else
        match ← boundaryCall (.claim oldDigest boundary.owner) with
        | .error _ => throw .control
        | .ok lease =>
          if lease.acquired then
            return (← boundary.settle brief oldDigest lease.epoch "execution brief superseded"
              false, none)
          else throw .leaseLost

def endingFor : Option Cause → Ending
  | some .deadlineExceeded => .timedOut
  | some .cancelRequested => .cancelled
  | _ => .failed

/-- The terminal entry of a run that failed, unless an effect of it may still be under way. -/
def conclude : Option NativeError → Bounding Unit
  | none => return ()
  | some error =>
    if error == .run .effectUncertain && cause.isNone then return ()
    else
      underLease epoch id
        (recordTerminal brief digest (endingFor cause) (boundary.message error))

def reconcileEnded : Bounding Unit :=
  if failure.isSome || cause.isSome then boundary.reconcileBeforeTerminal brief digest epoch
  else return ()

/-- The end of a worker; what goes wrong here is not reported. -/
def finish : Bounding Unit := do
  boundary.reconcileEnded brief digest epoch cause failure
  boundary.conclude brief digest epoch cause failure

def finishWorker : Bounding Unit := do
  let cause ← boundaryCall .cause
  if cause == some .leaseLost then return ()
  else
    match ← attempt (boundary.finish brief digest epoch cause failure) with
    | .error _ => return ()
    | .ok _ =>
      let _ ← boundaryCall (.release digest boundary.owner epoch)
      return ()

/-- `runWorker`; its heartbeat runs beside it. -/
def runWorker : Bounding Unit := do
  match ← attempt (boundary.session brief digest epoch) with
  | .error error => boundary.finishWorker brief digest epoch (some error)
  | .ok runner =>
    match ← attempt (underLease epoch .run (runner.run boundary.fuel)) with
    | .error error => boundary.finishWorker brief digest epoch (some error)
    | .ok _ => boundary.finishWorker brief digest epoch none

end Boundary

end Tekroo.NativeAgent
