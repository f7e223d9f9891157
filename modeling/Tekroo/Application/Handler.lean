import Tekroo.Lib.Program
import Tekroo.Store.Interleaving

namespace Tekroo.Application

open Kernel Lib

variable (evaluator : Evaluator) (store : Store) (call : Call) (around : Surroundings)

/-! # The command handler

The store is locked within each of the calls that `Handle` makes and free between them, so each of
them is one step.
-/

inductive HandleError where
  | canceled
  | lookup (reason : StoreError)
  | eventIdentity
  | intentIdentity
  | evaluate (reason : EvaluateError)
  | commit (result : CommitResult)
  | reconcile (reason : StoreError)
  | conflictProvenance
  | recordConflict (reason : StoreError)

/-- `IdentityConflict` is the part of the lookup's errors that `Handle` records. -/
inductive IdentityConflict where
  | commandID | idempotencyKey

def IdentityConflict.reason : IdentityConflict → String
  | .commandID => "COMMAND_ID_REUSE"
  | .idempotencyKey => "IDEMPOTENCY_KEY_REUSE"

inductive Progress where
  | lookup
  | load
  | evaluate (snapshot : Snapshot)
  | commit (snapshot : Snapshot) (decision : Decision)
  | reconcile (result : CommitResult)
  | recordConflict (conflict : IdentityConflict)
  | returned (receipt : CommandReceipt)
  | failed (error : HandleError)

structure Call where
  command : KernelCommand
  provenance : ProvenanceBasis
  progress : Progress := .lookup

/-- What a step of a call finds around it: whether its context is canceled, two readings of
the clock and two identities of the id source. -/
structure Surroundings where
  canceled : Bool := false
  now : Time
  later : Time
  eventID : Option UUIDv7 := none
  intentID : Option UUIDv7 := none

namespace Call

def conflictContext (call : Call) (around : Surroundings) : DecisionContext where
  receivedAt := around.now
  decidedAt := around.later
  eventID := call.command.commandID
  intentID := call.command.correlationID
  provenance := call.provenance

/-- The receipt `recordIdentityConflict` returns; no decision is stored for it. -/
def conflictReceipt (call : Call) (around : Surroundings) (conflict : IdentityConflict)
    (provenanceDigest : Digest) : CommandReceipt where
  contractManifest := call.command.contractManifest
  commandID := call.command.commandID
  commandType := call.command.commandType
  target := call.command.target
  outcomeCode := .rejectedConflict
  reasonCode := conflict.reason
  stateChanged := false
  resultingRevision := none
  eventIDs := []
  receivedAt := around.now
  decidedAt := around.later
  provenanceDigest

def lookupStep : Progress :=
  match store.lookupReceipt evaluator.hashes call.command around.now with
  | .ok (some receipt) => .returned receipt
  | .ok none => .load
  | .error .commandIdentityConflict => .recordConflict .commandID
  | .error .idempotencyKeyConflict => .recordConflict .idempotencyKey
  | .error reason => .failed (.lookup reason)

def evaluateStep (snapshot : Snapshot) : Progress :=
  match around.eventID, around.intentID with
  | none, _ => .failed .eventIdentity
  | some _, none => .failed .intentIdentity
  | some eventID, some intentID =>
    match evaluator.evaluate call.command snapshot
      ⟨around.now, around.later, eventID, intentID, call.provenance⟩ with
    | .ok decision => .commit snapshot decision
    | .error reason => .failed (.evaluate reason)

def committed (decision : Decision) : CommitResult → Progress
  | .acknowledged => .returned decision.receipt
  | .uncertain => .reconcile .uncertain
  | .failed .decisionAlreadyCommitted => .reconcile (.failed .decisionAlreadyCommitted)
  | .failed reason => .failed (.commit (.failed reason))

def reconcileStep (result : CommitResult) : Progress :=
  match store.lookupReceipt evaluator.hashes call.command around.now with
  | .ok (some receipt) => .returned receipt
  | .ok none => .failed (.commit result)
  | .error reason => .failed (.reconcile reason)

def conflictAudit (conflict : IdentityConflict) (provenanceDigest : Digest) :
    IdentityConflictAudit where
  commandID := call.command.commandID
  idempotencyScope := idempotencyScopeDigest evaluator.hashes call.command
  fingerprint := commandFingerprint evaluator.hashes call.command
  reasonCode := conflict.reason
  observedAt := around.later
  provenanceDigest

/-- `recordIdentityConflict` of the handler. -/
def recordConflictStep (conflict : IdentityConflict) : Store × Progress :=
  match buildDecisionProvenance evaluator.hashes call.command
    (commandFingerprint evaluator.hashes call.command) (call.conflictContext around) with
  | none => (store, .failed .conflictProvenance)
  | some record =>
    let digest := record.digest evaluator.hashes
    match store.recordIdentityConflict
      (call.conflictAudit evaluator around conflict digest) with
    | .ok next => (next, .returned (call.conflictReceipt around conflict digest))
    | .error reason => (store, .failed (.recordConflict reason))

/-- One step of `Handle`.  Each call of the store first asks whether the context was
canceled. -/
def step : Store × Progress :=
  match call.progress with
  | .returned receipt => (store, .returned receipt)
  | .failed error => (store, .failed error)
  | .evaluate snapshot => (store, call.evaluateStep evaluator around snapshot)
  | progress =>
    if around.canceled then (store, .failed .canceled)
    else
      match progress with
      | .load => (store, .evaluate (store.loadDecision call.command))
      | .commit snapshot decision =>
        let (next, result) := store.commit evaluator.hashes snapshot decision
        (next, committed decision result)
      | .reconcile result => (store, call.reconcileStep evaluator store around result)
      | .recordConflict conflict => call.recordConflictStep evaluator store around conflict
      | _ => (store, call.lookupStep evaluator store around)

end Call

/-! ## Any number of calls over one store

Calls start at any time and take their steps in any order; the authorization policy may be
replaced between any two steps.
-/

structure Decided where
  command : KernelCommand
  decision : Decision

/-- The store with its history: the stores that snapshots were loaded from and the decisions
that were written.  The calls read only the store. -/
structure Service where
  store : Store
  loaded : List Store := []
  decided : List Decided := []

namespace Call

def loads : List Store :=
  match call.progress with
  | .load => if around.canceled then [] else [store]
  | _ => []

def decides : List Decided :=
  match call.progress with
  | .commit snapshot decision =>
    if !around.canceled && (store.commit evaluator.hashes snapshot decision).2.applied then
      [⟨call.command, decision⟩]
    else []
  | _ => []

end Call

def Service.handle (evaluator : Evaluator) (service : Service) (call : Call)
    (around : Surroundings) : Service × Call :=
  let (store, progress) := call.step evaluator service.store around
  ({ store
     loaded := service.loaded ++ call.loads service.store around
     decided := service.decided ++ call.decides evaluator service.store around },
    { call with progress })

def handlers (evaluator : Evaluator) : Protocol Service Call Surroundings AuthorizationPolicy where
  starts call :=
    match call.progress with
    | .lookup => true
    | _ => false
  step := Service.handle evaluator
  change service policy := { service with store := service.store.setAuthorizationPolicy policy }

def Serves (evaluator : Evaluator) (pool : Pool Service Call) : Prop :=
  ∃ policy faultPoint,
    (handlers evaluator).Reaches ⟨.new policy faultPoint, [], []⟩ pool

/-! ## Commands sent in the midst of other calls

`handle` is the call of the handler as a program whose calls are the handler's steps.
-/

namespace Progress

def result : Progress → Option (Except HandleError CommandReceipt)
  | .returned receipt => some (.ok receipt)
  | .failed error => some (.error error)
  | _ => none

end Progress

section Handle

variable {κ : Type} {Answer : κ → Type} (step : Call → Program κ Answer Call)

/-- The call with at most so many further steps; five are enough. -/
def Call.follow : Nat → Call → Program κ Answer (Except HandleError CommandReceipt)
  | 0, call => pure (call.progress.result.getD (.error .canceled))
  | steps + 1, call =>
    match call.progress.result with
    | some result => pure result
    | none => do Call.follow steps (← step call)

def handle (command : KernelCommand) (provenance : ProvenanceBasis) :
    Program κ Answer (Except HandleError CommandReceipt) :=
  Call.follow step 5 ⟨command, provenance, .lookup⟩

end Handle

end Tekroo.Application
