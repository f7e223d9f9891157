import Tekroo.AgentRuntime.Transcript
import Tekroo.Lib.Program

namespace Tekroo.AgentRuntime

open Kernel Lib

/-! # The turn loop

The runner works on its own copy of the journal; other runners and recorders act on the journal
between its calls.
-/

inductive ContextError where
  | invalidConfiguration | unavailable

inductive ToolError where
  | uncertain
  | failed (reason : String)

/-- The calls of a runner.  `complete` carries the copy that its messages were replayed from. -/
inductive RuntimeCall (Prompt : Type) where
  | load
  | append (expected : Nat) (content : Content Prompt)
  | retrieve
  | condense (history : List (Message Prompt))
  | complete (copy : List (Entry Prompt)) (messages : List (Message Prompt))
  | executeReadOnly (call : ToolCall)
  | executeEffect (call : ToolCall)
  | reconcileEffect (call : ToolCall)
  | validateFinalResult (output : String)

abbrev RuntimeCall.Answer {Prompt : Type} : RuntimeCall Prompt → Type
  | .load => Except Unit (List (Entry Prompt))
  | .append _ _ => Except Unit (Entry Prompt)
  | .retrieve => Except ContextError SemanticContext
  | .condense _ => Except String (List (Message Prompt))
  | .complete _ _ => Except String Completion
  | .executeReadOnly _ | .executeEffect _ => Except ToolError RawMessage
  | .reconcileEffect _ => Except String (Option RawMessage)
  | .validateFinalResult _ => Option String

structure Runner (Prompt : Type) where
  binding : Binding Prompt
  /-- The journal, the model and the tools are set and the context has a deadline. -/
  bound : Bool := true
  finalize : Option Finalize := none
  validatesFinalResult : Bool := false
  /-- `Effects`, by the names that they handle. -/
  effects : Option (String → Bool) := none
  recalls : Bool := false
  condenses : Bool := false
  maxFinalSubmissions : Nat := 0
  maxTurns : Nat := 0

abbrev Running (Prompt : Type) :=
  ExceptT RunError (Program (RuntimeCall Prompt) RuntimeCall.Answer)

def calling {Prompt : Type} (call : RuntimeCall Prompt) : Running Prompt call.Answer :=
  ExceptT.lift (Program.request call)

def UUIDv7.isBlank : UUIDv7 → Bool
  | .number _ => false
  | .text value => AgentRuntime.isBlank value

variable {Prompt : Type} [DecidableEq Prompt]

/-- `append`: an acknowledgment may be lost, so the journal is read again after an error. -/
def appendEntry (entries : List (Entry Prompt)) (content : Content Prompt) :
    Running Prompt (List (Entry Prompt)) := do
  match ← calling (.append (lastSequence entries) content) with
  | .ok entry => return entries ++ [entry]
  | .error _ =>
    match ← calling .load with
    | .error _ => throw .journal
    | .ok current =>
      match current[entries.length]? with
      | some last =>
        if last.sequence == lastSequence entries + 1 && last.content == content then
          return current
        else throw .journal
      | none => throw .journal

def finalSubmissionErrors (entries : List (Entry Prompt)) (finalTool : String) : Nat × String :=
  let errors := (recordedResults entries).filter fun result =>
    result.name == finalTool && result.error != ""
  (errors.length, (errors.getLast?.map ToolResult.error).getD "")

def Message.isSystem : Message Prompt → Bool
  | .system _ => true
  | _ => false

namespace Runner

variable (runner : Runner Prompt)

def handles (name : String) : Bool := runner.effects.any fun handles => handles name

def pinned : List (Message Prompt) → Nat
  | .system _ :: .user _ _ :: _ => 2
  | .user _ _ :: _ => 1
  | _ => 0

/-- `condenseHistory`: the instructions and the prompt stay in front of the history. -/
def condenseHistory (messages : List (Message Prompt)) : Running Prompt (List (Message Prompt)) :=
  if runner.condenses then
    if pinned messages == 0 then throw .invalidTurn
    else do
      match ← calling (.condense (messages.drop (pinned messages))) with
      | .error reason => throw (.condenser reason)
      | .ok condensed =>
        if condensed.any Message.isSystem then throw .invalidTurn
        else return messages.take (pinned messages) ++ condensed
  else return messages

variable (entries : List (Entry Prompt)) (call : ToolCall)

def finalVerdict : Running Prompt (Except String String) :=
  match runner.finalize with
  | none => throw .invalidTurn
  | some finalize =>
    match finalize call.arguments with
    | .error reason => return .error reason
    | .ok output =>
      if runner.validatesFinalResult then do
        match ← calling (.validateFinalResult output) with
        | some reason => return .error reason
        | none => return .ok output
      else return .ok output

/-- A call of the final tool; `inl` is the text that the run returns. -/
def submit : Running Prompt (String ⊕ List (Entry Prompt)) := do
  match ← runner.finalVerdict call with
  | .error reason =>
    if runner.maxFinalSubmissions ≤ 1 then throw (.finalResult reason)
    else return .inr (← appendEntry entries (.toolDone ⟨call.id, call.name, some "null", reason⟩))
  | .ok output => do
    let _ ← appendEntry entries (.finished output)
    return .inl output

def execute : Running Prompt (Except ToolError RawMessage) :=
  if runner.handles call.name then calling (.executeEffect call)
  else calling (.executeReadOnly call)

def answer : Running Prompt (String ⊕ List (Entry Prompt)) := do
  match ← runner.execute call with
  | .error .uncertain => throw .effectUncertain
  | .error (.failed reason) =>
    return .inr (← appendEntry entries (.toolDone ⟨call.id, call.name, some "null", reason⟩))
  | .ok none => throw (.invalidTurn "tool output is not JSON")
  | .ok (some output) =>
    return .inr (← appendEntry entries (.toolDone ⟨call.id, call.name, some output, ""⟩))

def ask (replayed : Replayed Prompt) : Running Prompt (String ⊕ List (Entry Prompt)) := do
  if runner.maxTurns > 0 && runner.maxTurns ≤ replayed.turns then throw .turnLimit
  else do
    let messages ← runner.condenseHistory replayed.messages
    match ← calling (.complete entries messages) with
    | .error reason => throw (.model reason)
    | .ok response =>
      match validateCompletion response runner.binding.finalTool with
      | .error error => throw error
      | .ok () => return .inr (← appendEntry entries (.modelTurn response))

def spokenText (turns : Nat) : Option String :=
  if turns > 0 && runner.binding.finalTool == "" then
    match entries.getLast? with
    | some ⟨_, _, .modelTurn response⟩ =>
      if response.toolCalls.isEmpty then some response.text else none
    | _ => none
  else none

def next (replayed : Replayed Prompt) : Running Prompt (String ⊕ List (Entry Prompt)) :=
  let (count, last) := finalSubmissionErrors entries runner.binding.finalTool
  if runner.binding.finalTool != "" && runner.maxFinalSubmissions > 1 &&
      runner.maxFinalSubmissions ≤ count then
    throw (.finalSubmissions count last)
  else
    match runner.spokenText entries replayed.turns with
    | some text => do
      let _ ← appendEntry entries (.finished text)
      return .inl text
    | none => runner.ask entries replayed

/-- One round of the loop of `Run`. -/
def round : Running Prompt (String ⊕ List (Entry Prompt)) :=
  match replay runner.binding runner.finalize entries with
  | .error error => throw error
  | .ok replayed =>
    match replayed.complete, replayed.pending with
    | some text, _ => return .inl text
    | none, call :: _ =>
      if call.name == runner.binding.finalTool && runner.binding.finalTool != "" then
        runner.submit entries call
      else runner.answer entries call
    | none, [] => runner.next entries replayed

/-- The loop, cut off after so many rounds as if the process had stopped there. -/
def rounds : Nat → List (Entry Prompt) → Running Prompt String
  | 0, _ => throw .interrupted
  | fuel + 1, entries => do
    match ← runner.round entries with
    | .inl text => return text
    | .inr later => rounds fuel later

def recalled : Except ContextError SemanticContext → Except RunError SemanticContext
  | .error .invalidConfiguration => .error .invalidContextConfiguration
  | .error .unavailable => .ok { status := "UNAVAILABLE" }
  | .ok memory =>
    .ok (if validSemanticContext memory then memory else { status := "INVALID_RESPONSE" })

def startRecord (memory : SemanticContext) : StartRecord Prompt where
  requestDigest := runner.binding.requestDigest
  prompt := runner.binding.prompt
  systemPrompt := runner.binding.systemPrompt
  finalTool := runner.binding.finalTool
  effectAuthority := runner.binding.effectAuthority
  semanticContext := memory

def retrieve : Running Prompt (Except ContextError SemanticContext) :=
  if runner.recalls then calling .retrieve else return .ok { status := "NOT_CONFIGURED" }

def start : Running Prompt (List (Entry Prompt)) := do
  match recalled (← runner.retrieve) with
  | .error error => throw error
  | .ok memory => appendEntry [] (.started (runner.startRecord memory))

variable [Text Prompt]

def validRequest : Bool :=
  runner.bound && !UUIDv7.isBlank runner.binding.id && !Text.isBlank runner.binding.prompt &&
    runner.binding.requestDigest.valid &&
    (runner.binding.finalTool == "") == runner.finalize.isNone

def run (fuel : Nat) : Running Prompt String :=
  if !runner.validRequest then throw .invalidTurn
  else do
    match ← calling .load with
    | .error _ => throw .journal
    | .ok [] => runner.rounds fuel (← runner.start)
    | .ok entries => runner.rounds fuel entries

/-- The loop of `ReconcilePendingEffects`. -/
def drain : Nat → List (Entry Prompt) → Running Prompt Unit
  | 0, _ => throw .interrupted
  | fuel + 1, entries =>
    match replay runner.binding runner.finalize entries with
    | .error error => throw error
    | .ok replayed =>
      match replayed.complete, replayed.pending with
      | none, call :: _ =>
        if runner.handles call.name then do
          match ← calling (.reconcileEffect call) with
          | .error reason => throw (.effect reason)
          | .ok none => return ()
          | .ok (some none) => throw .invalidTurn
          | .ok (some (some output)) => do
            let later ← appendEntry entries
              (.toolDone ⟨call.id, call.name, some output, ""⟩)
            drain fuel later
        else return ()
      | _, _ => return ()

def reconcilePendingEffects (fuel : Nat) : Running Prompt Unit :=
  if runner.effects.isNone || UUIDv7.isBlank runner.binding.id ||
      Text.isBlank runner.binding.prompt then
    throw .invalidTurn
  else do
    match ← calling .load with
    | .error _ => throw .journal
    | .ok [] => return ()
    | .ok entries => runner.drain fuel entries

end Runner

structure RuntimeState (Prompt : Type) where
  entries : List (Entry Prompt) := []
  /-- The copies that the model was asked on, as a history. -/
  asked : List (List (Entry Prompt)) := []

/-- How a call of the journal goes: with `lost` the write is made but not acknowledged. -/
inductive Delivery where
  | done | lost | failed
deriving DecidableEq

structure Surroundings (Prompt : Type) where
  journal : Delivery := .done
  memory : Except ContextError SemanticContext := .error .unavailable
  condensed : Except String (List (Message Prompt)) := .error ""
  model : Except String Completion := .error ""
  tool : Except ToolError RawMessage := .error .uncertain
  reconciled : Except String (Option RawMessage) := .ok none
  verdict : Option String := none

/-- `Append` compares the expected sequence number with the journal and writes at once. -/
def RuntimeState.serve (id : UUIDv7) (state : RuntimeState Prompt) (call : RuntimeCall Prompt)
    (around : Surroundings Prompt) : RuntimeState Prompt × call.Answer :=
  match call with
  | .load => (state, if around.journal == .failed then .error () else .ok state.entries)
  | .append expected content =>
    if expected == state.entries.length && around.journal != .failed then
      let entry := ⟨id, expected + 1, content⟩
      ({ state with entries := state.entries ++ [entry] },
        if around.journal == .lost then .error () else .ok entry)
    else (state, .error ())
  | .retrieve => (state, around.memory)
  | .condense _ => (state, around.condensed)
  | .complete copy _ => ({ state with asked := state.asked ++ [copy] }, around.model)
  | .executeReadOnly _ | .executeEffect _ => (state, around.tool)
  | .reconcileEffect _ => (state, around.reconciled)
  | .validateFinalResult _ => (state, around.verdict)

end Tekroo.AgentRuntime
