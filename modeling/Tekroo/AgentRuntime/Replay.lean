import Tekroo.AgentRuntime.Journal

namespace Tekroo.AgentRuntime

open Kernel Checked

/-! # Replaying a journal -/

/-- The errors of the runner; `invalidTurn` is `ErrInvalidTurn` with the text wrapped in it, and
`interrupted` stands for a run whose process has stopped. -/
inductive RunError where
  | invalidTurn (detail : String := "")
  | journal
  | invalidContextConfiguration
  | finalResult (reason : String)
  | finalSubmissions (count : Nat) (last : String)
  | effectUncertain
  | effect (reason : String)
  | turnLimit
  | condenser (reason : String)
  | model (reason : String)
  | interrupted
deriving DecidableEq

/-- The model-facing transcript.  A tool message holds the output, or the JSON text of the
error when there is one. -/
inductive Message (Prompt : Type) where
  | system (content : String)
  | user (prompt : Prompt) (memories : String)
  | assistant (content : String) (toolCalls : List ToolCall)
  | tool (callID name : String) (output : RawMessage) (error : String)

def validSemanticContext (memory : SemanticContext) : Bool :=
  !(memory.status == "" || 64 < memory.status.utf8ByteSize || 4096 < memory.block.utf8ByteSize ||
      64 < memory.traceID.utf8ByteSize) &&
    !(memory.block != "" && memory.status != "AVAILABLE")

def checkCalls (finalTool : String) (count : Nat) (seen : List String) :
    List ToolCall → Except RunError Unit
  | [] => .ok ()
  | call :: rest => do
    refuse (call.id == "" || call.name == "" || call.arguments.isNone)
      (.invalidTurn "malformed model tool call")
    refuse (seen.contains call.id) (.invalidTurn "duplicate tool call id")
    refuse (finalTool != "" && call.name == finalTool && count != 1)
      (.invalidTurn "final tool mixed with other calls")
    checkCalls finalTool count (seen ++ [call.id]) rest

def validateCompletion (response : Completion) (finalTool : String) : Except RunError Unit := do
  refuse (response.toolCalls.isEmpty && isBlank response.text)
    (.invalidTurn "empty model response")
  checkCalls finalTool response.toolCalls.length [] response.toolCalls

structure Binding (Prompt : Type) where
  id : UUIDv7
  requestDigest : Digest
  prompt : Prompt
  systemPrompt : String
  finalTool : String
  effectAuthority : Option EffectAuthority
deriving DecidableEq

abbrev Finalize := RawMessage → Except String String

structure Transcript (Prompt : Type) where
  messages : List (Message Prompt)
  outstanding : List ToolCall := []
  seenCalls : List String := []
  turns : Nat := 0
  finalText : Option String := none

structure Replayed (Prompt : Type) where
  messages : List (Message Prompt)
  pending : List ToolCall
  complete : Option String
  turns : Nat

variable {Prompt : Type} {calls : List ToolCall} {finalTool : String} {seen : List String}

def noteCalls (seen : List String) : List ToolCall → Except RunError (List String)
  | [] => .ok seen
  | call :: rest => do
    refuse (seen.contains call.id) .invalidTurn
    noteCalls (seen ++ [call.id]) rest

namespace Transcript

variable (finalTool : String) (transcript : Transcript Prompt)

def turn (response : Completion) : Except RunError (Transcript Prompt) := do
  refuse (!transcript.outstanding.isEmpty || transcript.finalText.isSome) .invalidTurn
  validateCompletion response finalTool
  let seenCalls ← noteCalls transcript.seenCalls response.toolCalls
  return {
    messages := transcript.messages ++ [.assistant response.text response.toolCalls]
    outstanding := response.toolCalls
    seenCalls
    turns := transcript.turns + 1
    finalText :=
      if response.toolCalls.isEmpty && finalTool == "" then some response.text
      else transcript.finalText }

def result (transcript : Transcript Prompt) (result : ToolResult) :
    Except RunError (Transcript Prompt) :=
  match transcript.outstanding with
  | [] => .error .invalidTurn
  | call :: rest => do
    refuse (result.callID != call.id || result.name != call.name || result.output.isNone)
      .invalidTurn
    return { transcript with
      messages := transcript.messages ++
        [.tool result.callID result.name result.output result.error]
      outstanding := rest }

/-- One entry of the loop that is not the finishing one. -/
def read :
    Content Prompt → Except RunError (Transcript Prompt)
  | .modelTurn response => transcript.turn finalTool response
  | .toolDone result => transcript.result result
  | _ => .error .invalidTurn

def finish (finalize : Option Finalize) (transcript : Transcript Prompt) (text : String) :
    Except RunError Unit :=
  if finalTool != "" then
    match transcript.outstanding, finalize with
    | [call], some finalize => do
      refuse (call.name != finalTool) .invalidTurn
      match finalize call.arguments with
      | .ok expected => refuse (text != expected) .invalidTurn
      | .error _ => .error .invalidTurn
    | _, _ => .error .invalidTurn
  else refuse (!transcript.outstanding.isEmpty || transcript.finalText != some text) .invalidTurn

end Transcript

def Entry.placed (id : UUIDv7) (index : Nat) (entry : Entry Prompt) : Bool :=
  entry.invocationID == id && entry.sequence == index + 1

/-- The loop of `replay` after the first entry. -/
def replayEntries (binding : Binding Prompt) (finalize : Option Finalize) (index : Nat)
    (transcript : Transcript Prompt) : List (Entry Prompt) → Except RunError (Replayed Prompt)
  | [] => .ok ⟨transcript.messages, transcript.outstanding, none, transcript.turns⟩
  | entry :: rest => do
    refuse (!entry.placed binding.id index) .invalidTurn
    match entry.content with
    | .finished text => do
      refuse (!rest.isEmpty) .invalidTurn
      transcript.finish binding.finalTool finalize text
      return ⟨transcript.messages, [], some text, transcript.turns⟩
    | content => do
      let next ← transcript.read binding.finalTool content
      replayEntries binding finalize (index + 1) next rest

section Start

variable [DecidableEq Prompt] (record : StartRecord Prompt) (binding : Binding Prompt)

def StartRecord.binds : Bool :=
  record.requestDigest == binding.requestDigest && record.prompt == binding.prompt &&
    record.systemPrompt == binding.systemPrompt && record.finalTool == binding.finalTool &&
    record.effectAuthority == binding.effectAuthority

/-- The zero context, which older journals have, or a valid one. -/
def StartRecord.contextAccepted : Bool :=
  !(record.semanticContext.status == "" && record.semanticContext.block != "") &&
    !(record.semanticContext.status != "" && !validSemanticContext record.semanticContext)

def openTranscript (entry : Entry Prompt) : Except RunError (Transcript Prompt) :=
  match entry.content with
  | .started record => do
    refuse (entry.invocationID != binding.id) .invalidTurn
    refuse (!record.binds binding || !record.contextAccepted) .invalidTurn
    refuse (!entry.placed binding.id 0) .invalidTurn
    let opening := .user binding.prompt record.semanticContext.block
    return {
      messages :=
        if binding.systemPrompt != "" then [.system binding.systemPrompt, opening]
        else [opening] }
  | _ => .error .invalidTurn

def replay (finalize : Option Finalize) :
    List (Entry Prompt) → Except RunError (Replayed Prompt)
  | [] => .error .invalidTurn
  | first :: rest => do
    let transcript ← openTranscript binding first
    replayEntries binding finalize 1 transcript rest

end Start

theorem checkCalls_ok {count : Nat} (checked : checkCalls finalTool count seen calls = .ok ()) :
    (∀ call ∈ calls, call.id ∉ seen) ∧ (calls.map ToolCall.id).Nodup := by
  induction calls generalizing seen with
  | nil => simp
  | cons call rest induction =>
    simp only [checkCalls, chain_ok] at checked
    obtain ⟨_, absent, _, others⟩ := checked
    obtain ⟨later, distinct⟩ := induction others
    simp only [List.contains_eq_mem, decide_eq_false_iff_not] at absent
    refine ⟨?_, ?_⟩
    · intro other member
      rcases List.mem_cons.mp member with rfl | member
      · exact absent
      · exact fun known => later other member (List.mem_append_left _ known)
    · refine List.nodup_cons.mpr ⟨?_, distinct⟩
      intro repeated
      obtain ⟨other, member, same⟩ := List.mem_map.mp repeated
      exact later other member (by simp [same])

theorem validateCompletion_distinct {response : Completion}
    (checked : validateCompletion response finalTool = .ok ()) :
    (response.toolCalls.map ToolCall.id).Nodup := by
  simp only [validateCompletion, chain_ok] at checked
  exact (checkCalls_ok checked.2).2

theorem noteCalls_ok {noted : List String} (distinct : (calls.map ToolCall.id).Nodup) :
    noteCalls seen calls = .ok noted ↔
      noted = seen ++ calls.map ToolCall.id ∧ ∀ call ∈ calls, call.id ∉ seen := by
  induction calls generalizing seen with
  | nil => simp [noteCalls, eq_comm]
  | cons call rest induction =>
    obtain ⟨single, distinct⟩ := List.nodup_cons.mp distinct
    simp only [noteCalls, chain_ok, induction distinct, List.contains_eq_mem,
      decide_eq_false_iff_not, List.map_cons, List.append_assoc, List.cons_append, List.nil_append,
      List.forall_mem_cons, List.mem_append, List.mem_singleton, not_or]
    constructor
    · rintro ⟨absent, same, others⟩
      exact ⟨same, absent, fun other member => (others other member).1⟩
    · rintro ⟨same, absent, others⟩
      refine ⟨absent, same, fun other member => ⟨others other member, ?_⟩⟩
      intro equal
      exact single (List.mem_map.mpr ⟨other, member, equal⟩)

end Tekroo.AgentRuntime
