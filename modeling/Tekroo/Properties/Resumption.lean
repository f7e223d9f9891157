import Tekroo.AgentRuntime.Conduct

namespace Tekroo.AgentRuntime

open Kernel Lib

/-! # Which journals a resumed run can continue

A run checks a response for call ids that repeat within it, replay for ids that repeat in the
whole journal.
-/

/-- A call of `Run`, or of `ReconcilePendingEffects` when it only drains. -/
structure RunTask (Prompt : Type) where
  runner : Runner Prompt
  fuel : Nat
  drains : Bool := false

section Runs

variable {Prompt : Type} [DecidableEq Prompt] [Text Prompt]

def RunTask.program (task : RunTask Prompt) : Running Prompt (Option String) :=
  if task.drains then do
    task.runner.reconcilePendingEffects task.fuel
    return none
  else return some (← task.runner.run task.fuel)

abbrev RunThread (Prompt : Type) :=
  Thread (RunTask Prompt) (RuntimeCall Prompt) RuntimeCall.Answer
    (Except RunError (Option String))

def runs (binding : Binding Prompt) :
    Protocol (RuntimeState Prompt) (RunThread Prompt) (Surroundings Prompt) Empty :=
  threads (fun task => task.program.run) (fun task => task.runner.binding == binding)
    (RuntimeState.serve binding.id) fun state _ => state

def Returns (id : UUIDv7) (state : RuntimeState Prompt) (returned : Option String) : Prop :=
  ∀ text, returned = some text → ∃ front, written id front (.finished text) <+: state.entries

theorem RunTask.program_yields {id : UUIDv7} {own : Binding Prompt → Prop}
    {task : RunTask Prompt} {state : RuntimeState Prompt}
    (identified : ∀ {binding}, own binding → binding.id = id) (mine : own task.runner.binding) :
    Program.Yields (conduct id own) (Returns id) task.program state := by
  unfold program
  split
  · refine (Runner.reconcilePendingEffects_yields identified mine task.fuel).bind ?_
    intro current result _
    exact .pure nofun
  · refine (Runner.run_yields identified mine task.fuel).bind ?_
    intro current text turned
    refine .pure ?_
    rintro _ ⟨⟩
    exact turned

variable {binding : Binding Prompt} {pool : Pool (RuntimeState Prompt) (RunThread Prompt)}

theorem runs_sound (reached : (runs binding).Reaches {} pool) :
    pool.shared.Sound (· = binding) := by
  have identified : ∀ {other : Binding Prompt}, other = binding → other.id = binding.id :=
    fun same => congrArg Binding.id same
  refine (threads_keep (conduct binding.id (· = binding)) (fun _ _ _ => True) .empty
    (fun _ _ => trivial) ?_ nofun reached).1
  intro task started state
  exact Program.Keeps.weaken (fun _ => trivial)
    (RunTask.program_yields identified (eq_of_beq started))

/-- A journal that the runs with a binding have written, and that no terminal entry closes, is
accepted by replay exactly when the model never used a call id twice. -/
theorem written_journal_replays_iff (finalize : Option Finalize)
    (reached : (runs binding).Reaches {} pool) (nonempty : pool.shared.entries ≠ [])
    (unfinished : ∀ entry ∈ pool.shared.entries, entry.content.terminal = false) :
    (∃ replayed, replay binding finalize pool.shared.entries = .ok replayed) ↔
      (callIDs pool.shared.entries).Nodup := by
  obtain ⟨journaled, _⟩ := runs_sound reached
  generalize pool.shared.entries = log at journaled nonempty unfinished
  cases journaled with
  | empty => exact absurd rfl nonempty
  | recorded mine recorded =>
    subst mine
    exact recorded.replay_ok_iff finalize
  | closed mine recorded terminal =>
    have open' := unfinished _ (List.mem_append_right _ List.mem_cons_self)
    exact absurd (open'.symm.trans terminal) (by simp)

end Runs

namespace Sample

def binding : Binding String :=
  ⟨.number 1, .number 1, "task", "", "", none⟩

def lookup : Completion := ⟨"", [⟨"call-1", "read_file", some "null"⟩]⟩

def repeatedTurns : List (Turn (RunThread String) (Surroundings String) Empty) :=
  [.start ⟨⟨{ binding }, 9, false⟩, none⟩,
    .step 0 {}, .step 0 {}, .step 0 { model := .ok lookup }, .step 0 {},
    .step 0 { tool := .ok (some "null") }, .step 0 {}, .step 0 { model := .ok lookup },
    .step 0 {}]

def repeated : Pool (RuntimeState String) (RunThread String) :=
  repeatedTurns.foldl (runs binding).turn ⟨{}, []⟩

theorem repeated_reached : (runs binding).Reaches {} repeated := .turns _ .start

/-- The journal has a turn that replay refuses, so no later run gets past it. -/
theorem repeated_call_refused :
    (runs binding).Reaches {} repeated ∧ repeated.shared.entries.length = 4 ∧
      (∀ entry ∈ repeated.shared.entries, entry.content.terminal = false) ∧
      ¬ ∃ replayed, replay binding none repeated.shared.entries = .ok replayed := by
  have refused : (replay binding none repeated.shared.entries).isOk = false := by decide
  refine ⟨repeated_reached, by decide, by decide, ?_⟩
  rintro ⟨replayed, accepted⟩
  rw [accepted] at refused
  cases refused

theorem repeated_call_replays_iff :
    (∃ replayed, replay binding none repeated.shared.entries = .ok replayed) ↔
      (callIDs repeated.shared.entries).Nodup :=
  written_journal_replays_iff none repeated_reached (by decide) (by decide)

end Sample

end Tekroo.AgentRuntime
