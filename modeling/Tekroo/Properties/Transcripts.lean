import Tekroo.NativeAgent.Recorder
import Tekroo.Properties.Resumption

namespace Tekroo.NativeAgent

open Kernel Application Lib Checked
open AgentRuntime hiding Delivery

/-! # One transcript for each invocation -/

structure RecordTask where
  brief : ExecutionBrief
  digest : Digest
  ending : Ending
  reason : String
  strictPrompt : Bool := true

inductive JournalTask where
  | run (task : RunTask Prompt)
  | record (task : RecordTask)

namespace JournalTask

def id : JournalTask → UUIDv7
  | .run task => task.runner.binding.id
  | .record task => task.brief.invocationID

def program : JournalTask → Program (RuntimeCall Prompt) RuntimeCall.Answer (Option String)
  | .run task => do
    match ← task.program.run with
    | .ok returned => return returned
    | .error _ => return none
  | .record task => do
    let _ ← (recordTerminalWithPrompt task.brief task.digest task.ending task.reason
      task.strictPrompt).run
    return none

end JournalTask

abbrev JournalThread :=
  Thread JournalTask (RuntimeCall Prompt) RuntimeCall.Answer (Option String)

/-- Any number of runs and recorders, with any bindings, on the journal of one invocation. -/
def journals (id : UUIDv7) :
    Protocol (RuntimeState Prompt) JournalThread (Surroundings Prompt) Empty :=
  threads JournalTask.program (fun task => task.id == id) (RuntimeState.serve id)
    fun state _ => state

section Recorder

variable {id : UUIDv7} {own : Binding Prompt → Prop} {brief : ExecutionBrief} {digest : Digest}
  {ending : Ending} {reason : String} {strictPrompt : Bool} {state : RuntimeState Prompt}
  {entries : List (Entry Prompt)}

/-- The binding of a run whose start is the one that the boundary writes. -/
def startBinding (id : UUIDv7) (brief : ExecutionBrief) (digest : Digest) : Binding Prompt :=
  ⟨id, digest, .brief brief, "", "", none⟩

theorem boundaryStart_recorded :
    Recorded (startBinding id brief digest)
      (written id [] (.started (boundaryStart brief digest))) [] none :=
  .started _ (by simp [StartRecord.binds, boundaryStart, startBinding]) rfl

theorem openJournal_yields (starting : own (startBinding id brief digest)) :
    Program.Yields (conduct id own)
      (fun current later => later <+: current.entries ∧ Journaled own later ∧ later ≠ [])
      (openJournal brief digest) state := by
  unfold openJournal
  split
  · exact .throw _
  · refine yields_append List.nil_prefix (.recorded starting boundaryStart_recorded) ?_ ?_
    · intro current _
      refine yields_load (fun _ => .throw _) ?_
      intro latest _ sound
      cases loaded : latest.entries with
      | nil => exact .throw _
      | cons first rest =>
        dsimp only
        split
        · exact .pure ⟨loaded ▸ List.prefix_rfl, loaded ▸ sound.journaled, by simp⟩
        · exact .throw _
    · intro current done
      refine yields_load (fun _ => .throw _) ?_
      intro latest grown sound
      refine .pure ⟨List.prefix_rfl, sound.journaled, ?_⟩
      exact (done.trans grown).ne_nil (by simp [written])

variable (identified : ∀ {binding}, own binding → binding.id = id)

include identified

theorem appendEnding_yields (copied : entries <+: state.entries)
    (journaled : Journaled own entries) (nonempty : entries ≠ [])
    (unfinished : ∀ last, entries.getLast? = some last → last.content.terminal = false) :
    Program.Yields (conduct id own) (fun _ _ => True) (appendEnding ending reason entries)
      state := by
  cases journaled with
  | empty => exact absurd rfl nonempty
  | closed mine recorded ended =>
    have open' := unfinished _ List.getLast?_concat
    exact absurd (open'.symm.trans ended) (by simp)
  | recorded mine recorded =>
    unfold appendEnding
    rw [recorded.lastSequence_eq]
    refine yields_append copied ?_ ?_ (fun _ => .pure trivial)
    · have extended :=
        Journaled.closed mine recorded (ending.content_terminal (truncateReason reason))
      rwa [identified mine] at extended
    · intro current _
      refine yields_load (fun _ => .throw _) ?_
      intro latest _ _
      dsimp only
      split
      · exact .pure trivial
      · exact .throw _

theorem closeJournal_yields (copied : entries <+: state.entries)
    (journaled : Journaled own entries) (nonempty : entries ≠ []) :
    Program.Yields (conduct id own) (fun _ _ => True)
      (closeJournal brief digest ending reason strictPrompt entries) state := by
  unfold closeJournal
  split
  · exact .throw _
  · exact .pure trivial
  · next observed running =>
    exact appendEnding_yields identified copied journaled nonempty (observed_open running)

theorem recordTerminalWithPrompt_yields (starting : own (startBinding id brief digest)) :
    Program.Yields (conduct id own) (fun _ _ => True)
      (recordTerminalWithPrompt brief digest ending reason strictPrompt) state := by
  refine yields_load (fun _ => .throw _) ?_
  intro current _ sound
  cases loaded : current.entries with
  | nil =>
    refine (openJournal_yields starting).bind ?_
    intro latest later opened
    exact closeJournal_yields identified opened.1 opened.2.1 opened.2.2
  | cons first rest =>
    exact closeJournal_yields identified (loaded ▸ List.prefix_rfl)
      (loaded ▸ sound.journaled) (by simp)

end Recorder

/-- The bindings that a task may start a journal with. -/
def JournalTask.Among (id : UUIDv7) (own : Binding Prompt → Prop) : JournalTask → Prop
  | .run task => own task.runner.binding
  | .record task => own (startBinding id task.brief task.digest)

theorem JournalTask.program_keeps {id : UUIDv7} {own : Binding Prompt → Prop} {task : JournalTask}
    (identified : ∀ {binding}, own binding → binding.id = id) (among : task.Among id own)
    (state : RuntimeState Prompt) :
    task.program.Keeps (conduct id own) (Returns id) state := by
  cases task with
  | run task =>
    refine Program.Keeps.bind (RunTask.program_yields identified among) ?_
    intro current result returned
    cases result with
    | ok text => exact returned text rfl
    | error reason => exact fun _ same => nomatch same
  | record task =>
    refine Program.Keeps.bind (recordTerminalWithPrompt_yields identified among) ?_
    intro current result _
    exact fun _ same => nomatch same

/-- The bindings of any run on the journal of an invocation. -/
def Names (id : UUIDv7) (binding : Binding Prompt) : Prop := binding.id = id

variable {id : UUIDv7} {pool : Pool (RuntimeState Prompt) JournalThread}

theorem journals_keep (reached : (journals id).Reaches {} pool) :
    pool.shared.Sound (Names id) ∧ ∀ thread ∈ pool.processes,
      thread.Keeps JournalTask.program (conduct id (Names id)) (fun _ => Returns id)
        pool.shared := by
  refine threads_keep (conduct id (Names id)) (fun _ => Returns id) .empty ?_ ?_ nofun reached
  · intro task before after returned grown known text same
    obtain ⟨front, finished⟩ := known text same
    exact ⟨front, finished.trans grown⟩
  · intro task named state
    refine JournalTask.program_keeps (fun mine => mine) ?_ state
    cases task with
    | run task => exact eq_of_beq named
    | record task => exact rfl

def JournalThread.Returned (thread : JournalThread) (text : String) : Prop :=
  thread.rest = some (.done (some text))

/-- The journal only grows; it has at most one terminal entry, at its end; results answer the
calls one by one in order; the model is asked only when no call waits; and a run that returns a
text returns that of the finished entry. -/
theorem one_transcript_per_invocation (reached : (journals id).Reaches {} pool) :
    (∀ turn, pool.shared.entries <+: ((journals id).turn pool turn).shared.entries) ∧
      (∀ front entry back, pool.shared.entries = front ++ entry :: back →
        entry.content.terminal = true → back = []) ∧
      (∀ front, front <+: pool.shared.entries →
        (recordedResults front).map ToolResult.identity <+:
          (recordedCalls front).map ToolCall.identity) ∧
      (∀ copy ∈ pool.shared.asked, copy <+: pool.shared.entries ∧
        (recordedResults copy).map ToolResult.identity =
          (recordedCalls copy).map ToolCall.identity) ∧
      ∀ thread ∈ pool.processes, ∀ text, JournalThread.Returned thread text →
        ∃ front, pool.shared.entries = front ++ [⟨id, front.length + 1, .finished text⟩] := by
  obtain ⟨sound, known⟩ := journals_keep reached
  refine ⟨threads_grow nofun sound known, ?_, fun front => sound.journaled.results_in_order, ?_, ?_⟩
  · intro front entry back whole terminal
    exact Journaled.terminal_last (whole ▸ sound.journaled) terminal
  · intro copy member
    obtain ⟨beginning, binding, text, _, recorded⟩ := sound.asked copy member
    exact ⟨beginning, by simpa using recorded.results_pending⟩
  · intro thread member text returned
    have kept := known thread member
    rw [Thread.Keeps, Thread.program, returned] at kept
    obtain ⟨front, rest, whole⟩ := kept text rfl
    have journaled := sound.journaled
    rw [← whole, written, List.append_assoc] at journaled
    have last : rest = [] := journaled.terminal_last rfl
    exact ⟨front, by rw [← whole, last, written, List.append_nil]⟩

namespace Sample

def textBinding : Binding Prompt :=
  ⟨.number 1, .number 1, .text "task", "", "", none⟩

def textRun : JournalTask := .run ⟨{ binding := textBinding }, 9, false⟩

/-- Two runs, of which the second stops after it has read the empty journal. -/
def finishedTurns : List (Turn JournalThread (Surroundings Prompt) Empty) :=
  [.start ⟨textRun, none⟩, .start ⟨textRun, none⟩, .step 1 {}, .step 0 {}, .step 0 {},
    .step 1 {}, .step 0 { model := .ok ⟨"done", []⟩ }, .step 0 { journal := .lost }, .step 0 {},
    .step 0 {}]

def finished : Pool (RuntimeState Prompt) JournalThread :=
  finishedTurns.foldl (journals (.number 1)).turn ⟨{}, []⟩

theorem finished_reached : (journals (.number 1)).Reaches {} finished := .turns _ .start

theorem finished_run_in_transcript :
    ∃ front, finished.shared.entries = front ++ [⟨.number 1, front.length + 1, .finished "done"⟩] :=
  (one_transcript_per_invocation finished_reached).2.2.2.2
    ⟨textRun, some (.done (some "done"))⟩ List.mem_cons_self "done" rfl

end Sample

end Tekroo.NativeAgent
