import Tekroo.Kernel.Types

namespace Tekroo.AgentRuntime

open Kernel

/-! # The turn journal of an invocation

An entry is kept as its kind with what its payload is the JSON text of.  The type of the prompt is
left open.
-/

def isSpace (char : Char) : Bool :=
  let code := char.toNat
  (9 ≤ code && code ≤ 13) || code == 0x20 || code == 0x85 || code == 0xa0 || code == 0x1680 ||
    (0x2000 ≤ code && code ≤ 0x200a) || code == 0x2028 || code == 0x2029 || code == 0x202f ||
    code == 0x205f || code == 0x3000

/-- `strings.TrimSpace` leaves nothing. -/
def isBlank (text : String) : Bool := text.toList.all isSpace

class Text (Prompt : Type) where
  isBlank : Prompt → Bool

instance : Text String := ⟨isBlank⟩

/-- `json.RawMessage`, as the encoder writes it; `none` is a text that is not JSON. -/
abbrev RawMessage := Option String

structure ToolCall where
  id : String
  name : String
  arguments : RawMessage
deriving DecidableEq

structure Completion where
  text : String
  toolCalls : List ToolCall
deriving DecidableEq

structure ToolResult where
  callID : String
  name : String
  output : RawMessage
  error : String := ""
deriving DecidableEq

structure SemanticContext where
  block : String := ""
  traceID : String := ""
  status : String := ""
deriving DecidableEq

structure EffectAuthority where
  workspaceRoot : String
  permissions : List String
  purpose : String
  effectPolicyDigest : Digest
deriving DecidableEq

structure StartRecord (Prompt : Type) where
  requestDigest : Digest
  prompt : Prompt
  systemPrompt : String := ""
  finalTool : String := ""
  effectAuthority : Option EffectAuthority := none
  semanticContext : SemanticContext := {}
deriving DecidableEq

inductive Content (Prompt : Type) where
  | started (record : StartRecord Prompt)
  | modelTurn (response : Completion)
  | toolDone (result : ToolResult)
  | finished (text : String)
  | failed (reason : String)
  | cancelled (reason : String)
  | timedOut (reason : String)
deriving DecidableEq

structure Entry (Prompt : Type) where
  invocationID : UUIDv7
  sequence : Nat
  content : Content Prompt

variable {Prompt : Type}

namespace Content

def terminal : Content Prompt → Bool
  | .finished _ | .failed _ | .cancelled _ | .timedOut _ => true
  | .started _ | .modelTurn _ | .toolDone _ => false

def calls : Content Prompt → List ToolCall
  | .modelTurn response => response.toolCalls
  | _ => []

def result? : Content Prompt → Option ToolResult
  | .toolDone result => some result
  | _ => none

end Content

variable (entry : Entry Prompt) (front back : List (Entry Prompt)) (entries : List (Entry Prompt))

def recordedCalls : List ToolCall :=
  entries.flatMap fun entry => entry.content.calls

def recordedResults : List ToolResult :=
  entries.filterMap fun entry => entry.content.result?

@[simp] theorem recordedCalls_append :
    recordedCalls (front ++ back) = recordedCalls front ++ recordedCalls back :=
  List.flatMap_append

@[simp] theorem recordedResults_append :
    recordedResults (front ++ back) = recordedResults front ++ recordedResults back :=
  List.filterMap_append

@[simp] theorem recordedCalls_single : recordedCalls [entry] = entry.content.calls := by
  simp [recordedCalls]

@[simp] theorem recordedResults_single :
    recordedResults [entry] = entry.content.result?.toList := by
  cases found : entry.content.result? <;> simp [recordedResults, found]

/-- The sequence number that `append` expects the journal to have: that of the last entry. -/
def lastSequence : Nat :=
  match entries.getLast? with
  | some entry => entry.sequence
  | none => 0

/-! # Leases of a run

Each operation is one conditional update of the control record of one invocation.
-/

structure RunControl where
  requestDigest : Digest
  owner : String := ""
  epoch : Nat := 0
  leaseUntil : Time := 0
  cancelRequested : Bool := false

structure RunLease where
  acquired : Bool := false
  cancelRequested : Bool := false
  epoch : Nat := 0

structure Renewal where
  held : Bool := false
  cancelRequested : Bool := false

namespace RunControl

def leased (record : RunControl) (now : Time) : Bool :=
  record.owner != "" && decide (now < record.leaseUntil)

def heldBy (record : RunControl) (digest : Digest) (owner : String) (epoch : Nat) : Bool :=
  record.requestDigest == digest && record.owner == owner && record.epoch == epoch

variable (record : Option RunControl) (digest : Digest) (owner : String) (epoch : Nat)
  (now ttl : Time)

/-- `Claim`: the epoch advances with every lease. -/
def claim : Option RunControl × Except Unit RunLease :=
  if !digest.valid || owner == "" || now.isZero || decide (ttl ≤ 0) then (record, .error ())
  else
    match record with
    | none =>
      (some { requestDigest := digest, owner, epoch := 1, leaseUntil := now + ttl },
        .ok { acquired := true, epoch := 1 })
    | some current =>
      if current.requestDigest != digest then (record, .error ())
      else if current.leased now then
        (record, .ok { cancelRequested := current.cancelRequested, epoch := current.epoch })
      else
        (some { current with owner, epoch := current.epoch + 1, leaseUntil := now + ttl },
          .ok { acquired := true, cancelRequested := current.cancelRequested,
                epoch := current.epoch + 1 })

/-- `Renew`: a lease that has run out is not renewed. -/
def renew : Option RunControl × Except Unit Renewal :=
  if !digest.valid || owner == "" || epoch == 0 || now.isZero || decide (ttl ≤ 0) then
    (record, .error ())
  else
    match record with
    | none => (record, .ok {})
    | some current =>
      if current.heldBy digest owner epoch && decide (now < current.leaseUntil) then
        (some { current with leaseUntil := now + ttl },
          .ok { held := true, cancelRequested := current.cancelRequested })
      else (record, .ok {})

/-- `RequestCancel`: a request may come before the first claim. -/
def requestCancel : Option RunControl × Except Unit Unit :=
  if !digest.valid then (record, .error ())
  else
    match record with
    | none => (some { requestDigest := digest, cancelRequested := true }, .ok ())
    | some current =>
      if current.requestDigest == digest then
        (some { current with cancelRequested := true }, .ok ())
      else (record, .error ())

def release : Option RunControl × Except Unit Unit :=
  if !digest.valid || owner == "" || epoch == 0 || now.isZero then (record, .error ())
  else
    match record with
    | none => (record, .error ())
    | some current =>
      if current.heldBy digest owner epoch then
        (some { current with owner := "", leaseUntil := now }, .ok ())
      else (record, .error ())

end RunControl

end Tekroo.AgentRuntime
