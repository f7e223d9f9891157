import Tekroo.NativeAgent.Session

namespace Tekroo.NativeAgent

open Kernel Application Lib Checked
open AgentRuntime hiding Surroundings Delivery

variable (brief : ExecutionBrief) (digest : Digest)

/-! # Observing and closing a journal -/

def placedFrom (id : UUIDv7) (index : Nat) : List (Entry Prompt) → Bool
  | [] => true
  | entry :: rest => entry.placed id index && placedFrom id (index + 1) rest

/-- The state, the output and whether to retry, for a journal that ends with such an entry. -/
def observedEnding : Content Prompt → Option (ExternalExecutionState × String × Bool)
  | .finished text => some (.succeeded, text, false)
  | .failed reason => some (.failed, reason, true)
  | .cancelled reason => some (.cancelled, reason, false)
  | .timedOut reason => some (.timedOut, reason, false)
  | _ => none

def ended : ExternalExecutionState → Bool
  | .succeeded | .failed | .timedOut | .cancelled => true
  | _ => false

section Observe

def nativeObservation (state : ExternalExecutionState) (output : String) (retryable : Bool) :
    ExternalExecutionObservation where
  invocationID := brief.invocationID
  requestDigest := digest
  conversationID := conversationName brief.invocationID
  state
  actorFQN := brief.actorFQN
  execution := brief.execution
  modelProfileDigest := brief.modelProfileDigest
  runtimeIdentityDigest := brief.runtimeIdentityDigest
  workspaceID := brief.scope.workspaceID
  toolPolicyDigest := brief.toolPolicyDigest
  effectPolicyDigest := brief.effectPolicyDigest
  retryable
  output

/-- The journal was started for the brief; without `strictPrompt` only its digest is compared. -/
def startedFor (strictPrompt : Bool) : Content Prompt → Bool
  | .started record =>
    record.requestDigest == digest &&
      (!strictPrompt || nativePromptMatchesBrief brief digest record.prompt)
  | _ => false

/-- `observeJournalWithPrompt`; the flag says that the observation is terminal. -/
def observeJournalWithPrompt (strictPrompt : Bool) :
    List (Entry Prompt) → Except NativeError (ExternalExecutionObservation × Bool)
  | [] => .ok (nativeObservation brief digest .running "" false, false)
  | first :: rest => do
    refuse (!brief.encodable) .encoding
    refuse (!startedFor brief digest strictPrompt first.content) .invalidBinding
    refuse (!placedFrom brief.invocationID 0 (first :: rest)) .invalidBinding
    match observedEnding ((first :: rest).getLast (by simp)).content with
    | some (state, output, retryable) =>
      return (nativeObservation brief digest state output retryable, true)
    | none => return (nativeObservation brief digest .running "" false, false)

def observeJournal (entries : List (Entry Prompt)) :
    Except NativeError (ExternalExecutionObservation × Bool) :=
  observeJournalWithPrompt brief digest true entries

end Observe

section Observed

variable {brief : ExecutionBrief} {digest : Digest} {strictPrompt : Bool}
  {entries : List (Entry Prompt)}

theorem placedFrom_iff {id : UUIDv7} {index : Nat} :
    placedFrom id index entries = true ↔
      ∀ (offset : Nat) (entry : Entry Prompt), entries[offset]? = some entry →
        entry.placed id (index + offset) = true := by
  induction entries generalizing index with
  | nil => simp [placedFrom]
  | cons first rest induction =>
    simp only [placedFrom, tests_iff, induction]
    constructor
    · rintro ⟨head, tail⟩ offset entry found
      cases offset with
      | zero => cases found; exact head
      | succ offset =>
        have placed := tail offset entry found
        rwa [Nat.add_assoc, Nat.add_comm 1] at placed
    · intro placed
      refine ⟨placed 0 first rfl, fun offset entry found => ?_⟩
      have later := placed (offset + 1) entry found
      rwa [Nat.add_comm offset, ← Nat.add_assoc] at later

variable {first : Entry Prompt} {rest : List (Entry Prompt)} {content : Content Prompt}

theorem observed_started (encodable : brief.encodable = true)
    (started : startedFor brief digest strictPrompt first.content = true)
    (placed : placedFrom brief.invocationID 0 (first :: rest) = true) :
    observeJournalWithPrompt brief digest strictPrompt (first :: rest) = .ok
      (match observedEnding ((first :: rest).getLast (by simp)).content with
        | some (state, output, retryable) =>
          (nativeObservation brief digest state output retryable, true)
        | none => (nativeObservation brief digest .running "" false, false)) := by
  simp only [observeJournalWithPrompt, encodable, started, placed, refuse, Bool.not_true,
    Bool.false_eq_true, if_false]
  split <;> simp_all [bind, Except.bind, pure, Except.pure]

theorem observedEnding_none : observedEnding content = none ↔ content.terminal = false := by
  cases content <;> simp [observedEnding, Content.terminal]

theorem observed_open {observed : ExternalExecutionObservation}
    (running : observeJournalWithPrompt brief digest strictPrompt entries = .ok (observed, false)) :
    ∀ last, entries.getLast? = some last → last.content.terminal = false := by
  cases entries with
  | nil => simp
  | cons first rest =>
    simp only [observeJournalWithPrompt, chain_ok] at running
    obtain ⟨_, _, _, running⟩ := running
    intro last found
    rw [List.getLast?_eq_some_getLast (by simp), Option.some.injEq] at found
    rw [found] at running
    cases ended : observedEnding last.content with
    | none => exact observedEnding_none.mp ended
    | some outcome =>
      rw [ended] at running
      cases running

theorem observedEnding_some (terminal : content.terminal = true) :
    ∃ state output retryable, observedEnding content = some (state, output, retryable) ∧
      ended state = true := by
  cases content with
  | started | modelTurn | toolDone => cases terminal
  | finished text | failed text | cancelled text | timedOut text =>
    exact ⟨_, _, _, rfl, rfl⟩

def closed (entries : List (Entry Prompt)) : Bool :=
  entries.getLast?.any fun last => last.content.terminal

theorem closed_iff :
    closed entries = true ↔
      ∃ last, entries.getLast? = some last ∧ last.content.terminal = true := by
  cases found : entries.getLast? <;> simp [closed, found]

theorem closed_concat {entry : Entry Prompt} (terminal : entry.content.terminal = true) :
    closed (entries ++ [entry]) = true :=
  closed_iff.mpr ⟨entry, List.getLast?_concat, terminal⟩

theorem closed_ne_nil (ended : closed entries = true) : entries ≠ [] := by
  rintro rfl
  cases ended

theorem observed_closed (encodable : brief.encodable = true)
    (started : startedFor brief digest strictPrompt first.content = true)
    (placed : placedFrom brief.invocationID 0 (first :: rest) = true) :
    ∃ observed, observeJournalWithPrompt brief digest strictPrompt (first :: rest) =
        .ok (observed, closed (first :: rest)) ∧
      ended observed.state = closed (first :: rest) := by
  rw [observed_started encodable started placed, closed,
    List.getLast?_eq_some_getLast (by simp), Option.any_some]
  cases terminal : ((first :: rest).getLast (by simp)).content.terminal with
  | false =>
    rw [observedEnding_none.mpr terminal]
    exact ⟨_, rfl, rfl⟩
  | true =>
    obtain ⟨state, output, retryable, same, ends⟩ := observedEnding_some terminal
    rw [same]
    exact ⟨_, rfl, ends⟩

end Observed

inductive Ending where
  | failed | cancelled | timedOut

def Ending.content : Ending → String → Content Prompt
  | .failed => .failed
  | .cancelled => .cancelled
  | .timedOut => .timedOut

theorem Ending.content_terminal (ending : Ending) (text : String) :
    (ending.content text).terminal = true := by
  cases ending <;> rfl

/-- The bytes of a text up to a limit, as the encoder writes them: each byte of a character that
the cut goes through becomes a replacement character. -/
def cutText (limit : Nat) : List Char → List Char
  | [] => []
  | char :: rest =>
    if char.utf8Size ≤ limit then char :: cutText (limit - char.utf8Size) rest
    else List.replicate limit (Char.ofNat 0xfffd)

def truncateReason (reason : String) : String :=
  if reason.utf8ByteSize ≤ 4096 then reason else String.ofList (cutText 4096 reason.toList)

abbrev Recording :=
  ExceptT NativeError (Program (RuntimeCall Prompt) RuntimeCall.Answer)

def recordingCall (call : RuntimeCall Prompt) : Recording call.Answer :=
  ExceptT.lift (Program.request call)

section Record

def boundaryStart : StartRecord Prompt where
  requestDigest := digest
  prompt := .brief brief

/-- The boundary starts the journal itself; another start is accepted if it is the same. -/
def openJournal : Recording (List (Entry Prompt)) :=
  if !brief.encodable then throw .encoding
  else do
    match ← recordingCall (.append 0 (.started (boundaryStart brief digest))) with
    | .ok _ =>
      match ← recordingCall .load with
      | .ok entries => return entries
      | .error _ => throw .journal
    | .error _ =>
      match ← recordingCall .load with
      | .ok (first :: rest) =>
        if first.content == .started (boundaryStart brief digest) then return first :: rest
        else throw .conflict
      | _ => throw .conflict

variable (ending : Ending) (reason : String) (strictPrompt : Bool)

def appendEnding (entries : List (Entry Prompt)) : Recording Unit := do
  let content := ending.content (truncateReason reason)
  match ← recordingCall (.append (lastSequence entries) content) with
  | .ok _ => return ()
  | .error _ =>
    match ← recordingCall .load with
    | .ok current =>
      if current.length == entries.length + 1 &&
          current[entries.length]?.any (fun last => last.content == content) then
        return ()
      else throw .conflict
    | .error _ => throw .journal

def closeJournal (entries : List (Entry Prompt)) : Recording Unit :=
  match observeJournalWithPrompt brief digest strictPrompt entries with
  | .error error => throw error
  | .ok (_, true) => return ()
  | .ok (_, false) => appendEnding ending reason entries

def recordTerminalWithPrompt : Recording Unit := do
  match ← recordingCall .load with
  | .error _ => throw .journal
  | .ok [] => closeJournal brief digest ending reason strictPrompt (← openJournal brief digest)
  | .ok entries => closeJournal brief digest ending reason strictPrompt entries

def recordTerminal : Recording Unit := recordTerminalWithPrompt brief digest ending reason true

end Record

end Tekroo.NativeAgent
