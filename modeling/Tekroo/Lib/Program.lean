import Mathlib.Data.List.Basic
import Mathlib.Tactic.Common

/-! # Processes over one shared state

A step of one process reads and writes the shared state at once; between two of them the others
and the environment may act.
-/

namespace Tekroo.Lib

structure Pool (σ π : Type) where
  shared : σ
  processes : List π

/-- A process takes a step on an input, the environment makes a change. -/
structure Protocol (σ π ι ε : Type) where
  starts : π → Bool
  step : σ → π → ι → σ × π
  change : σ → ε → σ

inductive Turn (π ι ε : Type) where
  | start (process : π)
  | step (index : Nat) (input : ι)
  | change (change : ε)

variable {σ π ι ε : Type} (protocol : Protocol σ π ι ε)

namespace Protocol

/-- The pool after one turn; nothing happens on the turn of a process that is not there. -/
def turn (pool : Pool σ π) : Turn π ι ε → Pool σ π
  | .start process =>
    if protocol.starts process then ⟨pool.shared, pool.processes ++ [process]⟩ else pool
  | .step index input =>
    match pool.processes[index]? with
    | some process =>
      let (shared, next) := protocol.step pool.shared process input
      ⟨shared, pool.processes.set index next⟩
    | none => pool
  | .change change => ⟨protocol.change pool.shared change, pool.processes⟩

/-- Every interleaving of the processes, from no process at all. -/
inductive Reaches (first : σ) : Pool σ π → Prop
  | start : Reaches first ⟨first, []⟩
  | turn {pool : Pool σ π} (reached : Reaches first pool) (turn : Turn π ι ε) :
      Reaches first (protocol.turn pool turn)

variable {protocol} {first : σ} {pool : Pool σ π}

theorem Reaches.turns (turns : List (Turn π ι ε)) (reached : protocol.Reaches first pool) :
    protocol.Reaches first (turns.foldl protocol.turn pool) := by
  induction turns generalizing pool with
  | nil => exact reached
  | cons turn _ induction => exact induction (reached.turn turn)

/-- Rely and guarantee: `Holds` is the invariant of the shared state, `Local` what a process
knows of it.  Every step keeps the invariant, establishes what its own process knows next and
moves the shared state only upwards; what a process knows stays true upwards. -/
theorem Reaches.holds {Holds : σ → Prop} {Local : σ → π → Prop} {Grows : σ → σ → Prop}
    (first_holds : Holds first)
    (starts : ∀ {shared process}, protocol.starts process = true → Local shared process)
    (stable : ∀ {before after process}, Grows before after → Local before process →
      Local after process)
    (step : ∀ {shared process} (input), Holds shared → Local shared process →
      Holds (protocol.step shared process input).1 ∧
        Grows shared (protocol.step shared process input).1 ∧
        Local (protocol.step shared process input).1 (protocol.step shared process input).2)
    (change : ∀ {shared} (move), Holds shared →
      Holds (protocol.change shared move) ∧ Grows shared (protocol.change shared move))
    (reached : protocol.Reaches first pool) :
    Holds pool.shared ∧ ∀ process ∈ pool.processes, Local pool.shared process := by
  induction reached with
  | start => exact ⟨first_holds, by simp⟩
  | @turn pool _ turn induction =>
    obtain ⟨held, known⟩ := induction
    cases turn with
    | start process =>
      simp only [Protocol.turn]
      split
      · next started =>
        refine ⟨held, fun other member => ?_⟩
        rcases List.mem_append.mp member with old | new
        · exact known other old
        · rw [List.mem_singleton.mp new]
          exact starts started
      · exact ⟨held, known⟩
    | step index input =>
      simp only [Protocol.turn]
      split
      · next process found =>
        obtain ⟨after, grown, own⟩ := step input held (known process (List.mem_of_getElem? found))
        refine ⟨after, fun other member => ?_⟩
        rcases List.mem_or_eq_of_mem_set member with old | rfl
        · exact stable grown (known other old)
        · exact own
      · exact ⟨held, known⟩
    | change move =>
      obtain ⟨after, grown⟩ := change move held
      exact ⟨after, fun other member => stable grown (known other member)⟩

end Protocol

/-! ## Programs that call their surroundings

A program is the tree of its calls: what it asks next depends on the answers it got.  It is run
alone or as one of many threads; a crash is a thread that takes no further step.
-/

inductive Program (κ : Type) (Answer : κ → Type) (α : Type) where
  | done (value : α)
  | ask (call : κ) (next : Answer call → Program κ Answer α)

variable {κ : Type} {Answer : κ → Type} {α β σ ι ε τ : Type}

namespace Program

def bind : Program κ Answer α → (α → Program κ Answer β) → Program κ Answer β
  | .done value, rest => rest value
  | .ask call next, rest => .ask call fun answer => (next answer).bind rest

instance : Monad (Program κ Answer) where
  pure := .done
  bind := Program.bind

def request (call : κ) : Program κ Answer (Answer call) := .ask call .done

/-- Each call is answered by a program over other calls. -/
def interpret {κ' : Type} {Answer' : κ' → Type}
    (handle : (call : κ) → Program κ' Answer' (Answer call)) :
    Program κ Answer α → Program κ' Answer' α
  | .done value => .done value
  | .ask call next => (handle call).bind fun answer => (next answer).interpret handle

/-- The program alone, with surroundings that answer every call. -/
def run (serve : σ → (call : κ) → σ × Answer call) : Program κ Answer α → σ → σ × α
  | .done value, shared => (shared, value)
  | .ask call next, shared =>
    (next (serve shared call).2).run serve (serve shared call).1

/-- The calls that the program makes alone, each with the state that it finds. -/
def trace (serve : σ → (call : κ) → σ × Answer call) : Program κ Answer α → σ → List (σ × κ)
  | .done _, _ => []
  | .ask call next, shared =>
    (shared, call) :: (next (serve shared call).2).trace serve (serve shared call).1

section Run

variable (serve : σ → (call : κ) → σ × Answer call) (shared : σ)

@[simp] theorem run_pure (value : α) :
    (pure value : Program κ Answer α).run serve shared = (shared, value) := rfl

@[simp] theorem run_request (call : κ) :
    (request call : Program κ Answer _).run serve shared = serve shared call := rfl

@[simp] theorem run_bind (program : Program κ Answer α) (rest : α → Program κ Answer β) :
    (program >>= rest).run serve shared =
      (rest (program.run serve shared).2).run serve (program.run serve shared).1 := by
  induction program generalizing shared with
  | done value => rfl
  | ask call next induction => exact induction (serve shared call).2 (serve shared call).1

@[simp] theorem trace_bind (program : Program κ Answer α) (rest : α → Program κ Answer β) :
    (program >>= rest).trace serve shared =
      program.trace serve shared ++
        (rest (program.run serve shared).2).trace serve (program.run serve shared).1 := by
  induction program generalizing shared with
  | done value => rfl
  | ask call next induction =>
    exact congrArg _ (induction (serve shared call).2 (serve shared call).1)

theorem run_interpret {κ' : Type} {Answer' : κ' → Type}
    (handle : (call : κ') → Program κ Answer (Answer' call)) (program : Program κ' Answer' α) :
    (program.interpret handle).run serve shared =
      program.run (fun shared call => (handle call).run serve shared) shared := by
  induction program generalizing shared with
  | done value => rfl
  | ask call next induction =>
    refine (run_bind serve shared (handle call) _).trans ?_
    exact induction _ _

variable {ω : Type} {program : ExceptT ω (Program κ Answer) α}
  {rest : α → ExceptT ω (Program κ Answer) β} {serve shared}

def exec (serve : σ → (call : κ) → σ × Answer call) (program : ExceptT ω (Program κ Answer) α)
    (shared : σ) : σ × Except ω α :=
  program.run.run serve shared

@[simp] theorem exec_lift (program : Program κ Answer α) :
    exec serve (ExceptT.lift program : ExceptT ω (Program κ Answer) α) shared =
      ((program.run serve shared).1, .ok (program.run serve shared).2) :=
  run_bind serve shared program _

@[simp] theorem exec_pure (value : α) :
    exec serve (pure value : ExceptT ω (Program κ Answer) α) shared = (shared, .ok value) := rfl

@[simp] theorem exec_throw (error : ω) :
    exec serve (throw error : ExceptT ω (Program κ Answer) α) shared = (shared, .error error) :=
  rfl

@[simp] theorem exec_bind :
    exec serve (program >>= rest) shared =
      match exec serve program shared with
      | (later, .ok value) => exec serve (rest value) later
      | (later, .error error) => (later, .error error) := by
  refine (run_bind serve shared program.run _).trans ?_
  rcases ran : exec serve program shared with ⟨later, result⟩
  rw [show program.run.run serve shared = (later, result) from ran]
  cases result <;> rfl

end Run

/-- The calls that the program makes as long as there are inputs, each with the state that it
finds. -/
def calls (serve : σ → (call : κ) → ι → σ × Answer call) :
    Program κ Answer α → List ι → σ → List (σ × κ)
  | .ask call next, input :: inputs, shared =>
    (shared, call) ::
      (next (serve shared call input).2).calls serve inputs (serve shared call input).1
  | _, _, _ => []

/-- Whatever the inputs are, each call is allowed in the state that it finds, and `post` holds of
the result. -/
def Makes (serve : σ → (call : κ) → ι → σ × Answer call) (allowed : σ → κ → Prop)
    (post : σ → α → Prop) : Program κ Answer α → σ → Prop
  | .done value, shared => post shared value
  | .ask call next, shared =>
    allowed shared call ∧ ∀ input,
      (next (serve shared call input).2).Makes serve allowed post (serve shared call input).1

section Makes

variable {serve : σ → (call : κ) → ι → σ × Answer call} {allowed : σ → κ → Prop}
  {post : σ → α → Prop} {after : σ → β → Prop} {shared : σ} {program : Program κ Answer α}

theorem Makes.calls (makes : program.Makes serve allowed post shared) (inputs : List ι) :
    ∀ step ∈ program.calls serve inputs shared, allowed step.1 step.2 := by
  induction program generalizing shared inputs with
  | done value => exact nofun
  | ask call next induction =>
    cases inputs with
    | nil => exact nofun
    | cons input inputs =>
      exact List.forall_mem_cons.mpr ⟨makes.1, induction _ (makes.2 input) inputs⟩

theorem Makes.request {call : κ} {post : σ → Answer call → Prop} (may : allowed shared call)
    (holds : ∀ input, post (serve shared call input).1 (serve shared call input).2) :
    (Program.request call : Program κ Answer _).Makes serve allowed post shared := ⟨may, holds⟩

theorem Makes.bind {rest : α → Program κ Answer β}
    (first : program.Makes serve allowed post shared)
    (second : ∀ {shared value}, post shared value → (rest value).Makes serve allowed after shared) :
    (program >>= rest).Makes serve allowed after shared := by
  induction program generalizing shared with
  | done value => exact second first
  | ask call next induction =>
    exact ⟨first.1, fun input => induction _ (first.2 input)⟩

theorem Makes.weaken {weaker : σ → α → Prop}
    (implies : ∀ {shared value}, post shared value → weaker shared value)
    (makes : program.Makes serve allowed post shared) :
    program.Makes serve allowed weaker shared := by
  induction program generalizing shared with
  | done value => exact implies makes
  | ask call next induction => exact ⟨makes.1, fun input => induction _ (makes.2 input)⟩

theorem Makes.permit {wider : σ → κ → Prop}
    (permits : ∀ {shared call}, allowed shared call → wider shared call)
    (makes : program.Makes serve allowed post shared) :
    program.Makes serve wider post shared := by
  induction program generalizing shared with
  | done value => exact makes
  | ask call next induction =>
    exact ⟨permits makes.1, fun input => induction _ (makes.2 input)⟩

end Makes

/-- `post` holds of the result, or `fails` of the error. -/
def Tries {ω : Type} (serve : σ → (call : κ) → ι → σ × Answer call) (allowed : σ → κ → Prop)
    (post : σ → α → Prop) (fails : σ → ω → Prop) (program : ExceptT ω (Program κ Answer) α)
    (shared : σ) : Prop :=
  Makes serve allowed (fun shared result => match result with
    | .ok value => post shared value
    | .error error => fails shared error) program.run shared

section Tries

variable {ω : Type} {serve : σ → (call : κ) → ι → σ × Answer call} {allowed : σ → κ → Prop}
  {post : σ → α → Prop} {fails : σ → ω → Prop} {after : σ → β → Prop} {shared : σ}
  {program : ExceptT ω (Program κ Answer) α}

theorem Tries.pure {value : α} (holds : post shared value) :
    Tries serve allowed post fails (Pure.pure value : ExceptT ω (Program κ Answer) α) shared :=
  holds

theorem Tries.throw {error : ω} (holds : fails shared error) :
    Tries serve allowed post fails (MonadExcept.throw error : ExceptT ω (Program κ Answer) α)
      shared := holds

theorem Tries.bind {rest : α → ExceptT ω (Program κ Answer) β}
    (first : Tries serve allowed post fails program shared)
    (second : ∀ {shared value}, post shared value →
      Tries serve allowed after fails (rest value) shared) :
    Tries serve allowed after fails (program >>= rest) shared := by
  refine Makes.bind first ?_
  intro shared result holds
  cases result with
  | ok value => exact second holds
  | error reason => exact holds

theorem Tries.lift {program : Program κ Answer α}
    (makes : program.Makes serve allowed post shared) :
    Tries serve allowed post fails (ExceptT.lift program : ExceptT ω (Program κ Answer) α)
      shared :=
  Makes.bind makes fun holds => holds

theorem Tries.checked {result : Except ω α} (good : ∀ value, result = .ok value → post shared value)
    (bad : ∀ error, result = .error error → fails shared error) :
    Tries serve allowed post fails
      (ExceptT.mk (Pure.pure result) : ExceptT ω (Program κ Answer) α) shared := by
  cases result with
  | ok value => exact good value rfl
  | error error => exact bad error rfl

theorem Tries.caught {wider : σ → Except ω α → Prop} {thrown : σ → ω → Prop}
    (tries : Tries serve allowed post fails program shared)
    (good : ∀ {shared value}, post shared value → wider shared (.ok value))
    (bad : ∀ {shared error}, fails shared error → wider shared (.error error)) :
    Tries serve allowed wider thrown (ExceptT.lift program.run) shared := by
  refine Tries.lift (Makes.weaken ?_ tries)
  intro shared result holds
  cases result with
  | ok value => exact good holds
  | error error => exact bad holds

theorem Tries.weaken {weaker : σ → α → Prop} {wider : σ → ω → Prop}
    (good : ∀ {shared value}, post shared value → weaker shared value)
    (bad : ∀ {shared error}, fails shared error → wider shared error)
    (tries : Tries serve allowed post fails program shared) :
    Tries serve allowed weaker wider program shared := by
  refine Makes.weaken ?_ tries
  intro shared result holds
  cases result with
  | ok value => exact good holds
  | error error => exact bad holds

end Tries

end Program

/-- A thread has not started as long as `rest` is empty. -/
structure Thread (τ κ : Type) (Answer : κ → Type) (α : Type) where
  task : τ
  rest : Option (Program κ Answer α) := none

def Thread.program (programs : τ → Program κ Answer α) (thread : Thread τ κ Answer α) :
    Program κ Answer α :=
  thread.rest.getD (programs thread.task)

/-- Threads over one shared state: a step is one call of one thread. -/
def threads (programs : τ → Program κ Answer α) (starts : τ → Bool)
    (serve : σ → (call : κ) → ι → σ × Answer call) (change : σ → ε → σ) :
    Protocol σ (Thread τ κ Answer α) ι ε where
  starts thread := thread.rest.isNone && starts thread.task
  step shared thread input :=
    match thread.program programs with
    | .done value => (shared, { thread with rest := some (.done value) })
    | .ask call next =>
      ((serve shared call input).1,
        { thread with rest := some (next (serve shared call input).2) })
  change

/-- The invariant `Holds` of the shared state and the order `Grows` in which it moves. -/
structure Discipline (κ : Type) (Answer : κ → Type) (σ ι : Type) where
  serve : σ → (call : κ) → ι → σ × Answer call
  Holds : σ → Prop
  Grows : σ → σ → Prop
  refl : ∀ shared, Grows shared shared
  trans : ∀ {first second third}, Grows first second → Grows second third → Grows first third

variable {discipline : Discipline κ Answer σ ι}

namespace Program

/-- Each call finds the shared state at least as far as the last one left it, keeps the
invariant and moves the state upwards; `post` holds of the result. -/
def Keeps (discipline : Discipline κ Answer σ ι) (post : σ → α → Prop) :
    Program κ Answer α → σ → Prop
  | .done value, shared => post shared value
  | .ask call next, shared =>
    ∀ current input, discipline.Grows shared current → discipline.Holds current →
      discipline.Holds (discipline.serve current call input).1 ∧
        discipline.Grows current (discipline.serve current call input).1 ∧
        (next (discipline.serve current call input).2).Keeps discipline post
          (discipline.serve current call input).1

variable {post : σ → α → Prop} {shared : σ} {program : Program κ Answer α}

theorem Keeps.bind {middle : σ → α → Prop} {rest : α → Program κ Answer β}
    {after : σ → β → Prop} (first : program.Keeps discipline middle shared)
    (second : ∀ {shared value}, middle shared value → (rest value).Keeps discipline after shared) :
    (program >>= rest).Keeps discipline after shared := by
  induction program generalizing shared with
  | done value => exact second first
  | ask call next induction =>
    intro current input grown held
    obtain ⟨holds, grows, rest⟩ := first current input grown held
    exact ⟨holds, grows, induction _ rest⟩

theorem Keeps.weaken {weaker : σ → α → Prop}
    (implies : ∀ {shared value}, post shared value → weaker shared value)
    (keeps : program.Keeps discipline post shared) :
    program.Keeps discipline weaker shared := by
  induction program generalizing shared with
  | done value => exact implies keeps
  | ask call next induction =>
    intro current input grown held
    obtain ⟨holds, grows, rest⟩ := keeps current input grown held
    exact ⟨holds, grows, induction _ rest⟩

theorem keeps_of_serve
    (served : ∀ shared call input, discipline.Holds shared →
      discipline.Holds (discipline.serve shared call input).1 ∧
        discipline.Grows shared (discipline.serve shared call input).1)
    (program : Program κ Answer α) (shared : σ) :
    program.Keeps discipline (fun _ _ => True) shared := by
  induction program generalizing shared with
  | done value => trivial
  | ask call next induction =>
    intro current input _ held
    obtain ⟨holds, grows⟩ := served current call input held
    exact ⟨holds, grows, induction _ _⟩

/-- The state may move on before the program does. -/
theorem Keeps.mono {before after : σ}
    (stable : ∀ {before after value}, discipline.Grows before after →
      post before value → post after value)
    (grown : discipline.Grows before after) (keeps : program.Keeps discipline post before) :
    program.Keeps discipline post after := by
  cases program with
  | done value => exact stable grown keeps
  | ask call next =>
    intro current input further held
    exact keeps current input (discipline.trans grown further) held

/-- `post` holds of the result unless the program fails. -/
def Yields {ω : Type} (discipline : Discipline κ Answer σ ι) (post : σ → α → Prop)
    (program : ExceptT ω (Program κ Answer) α) (shared : σ) : Prop :=
  Keeps discipline (fun shared result => ∀ value, result = .ok value → post shared value)
    program.run shared

section Yields

variable {ω : Type} {failing : ExceptT ω (Program κ Answer) α}
  {rest : α → ExceptT ω (Program κ Answer) β} {after : σ → β → Prop} {call : κ}

theorem Yields.pure {value : α} (holds : post shared value) :
    Yields discipline post (Pure.pure value : ExceptT ω (Program κ Answer) α) shared := by
  rintro _ ⟨⟩
  exact holds

theorem Yields.throw (error : ω) :
    Yields discipline post (MonadExcept.throw error : ExceptT ω (Program κ Answer) α) shared :=
  nofun

theorem Yields.bind (first : Yields discipline post failing shared)
    (second : ∀ {shared value}, post shared value → Yields discipline after (rest value) shared) :
    Yields discipline after (failing >>= rest) shared := by
  refine Keeps.bind first ?_
  intro shared result holds
  cases result with
  | ok value => exact second (holds value rfl)
  | error reason => exact Yields.throw reason

theorem yields_call_bind {rest : Answer call → ExceptT ω (Program κ Answer) β} :
    Yields discipline after (ExceptT.lift (request call) >>= rest) shared ↔
      ∀ current input, discipline.Grows shared current → discipline.Holds current →
        discipline.Holds (discipline.serve current call input).1 ∧
          discipline.Grows current (discipline.serve current call input).1 ∧
          Yields discipline after (rest (discipline.serve current call input).2)
            (discipline.serve current call input).1 := .rfl

theorem yields_call {post : σ → Answer call → Prop}
    (served : ∀ current input, discipline.Grows shared current → discipline.Holds current →
      discipline.Holds (discipline.serve current call input).1 ∧ discipline.Grows current
      (discipline.serve current call input).1 ∧ post (discipline.serve current call input).1
      (discipline.serve current call input).2) :
    Yields discipline post (ExceptT.lift (request call) : ExceptT ω (Program κ Answer) _)
      shared := by
  intro current input grown held
  obtain ⟨holds, grows, answered⟩ := served current input grown held
  exact ⟨holds, grows, Yields.pure answered⟩

theorem Yields.weaken {weaker : σ → α → Prop}
    (implies : ∀ {shared value}, post shared value → weaker shared value)
    (yields : Yields discipline post failing shared) :
    Yields discipline weaker failing shared :=
  Keeps.weaken (fun holds value same => implies (holds value same)) yields

end Yields

end Program

section Threads

variable {programs : τ → Program κ Answer α} {starts : τ → Bool} {change : σ → ε → σ}
  {first : σ} {pool : Pool σ (Thread τ κ Answer α)}

def Thread.Keeps (programs : τ → Program κ Answer α) (discipline : Discipline κ Answer σ ι)
    (post : τ → σ → α → Prop) (shared : σ) (thread : Thread τ κ Answer α) : Prop :=
  (thread.program programs).Keeps discipline (post thread.task) shared

/-- Programs that keep the discipline one by one keep it in every interleaving. -/
theorem threads_keep (discipline : Discipline κ Answer σ ι) (post : τ → σ → α → Prop)
    (first_holds : discipline.Holds first)
    (stable : ∀ {task before after value}, discipline.Grows before after →
      post task before value → post task after value)
    (keeps : ∀ {task}, starts task = true → ∀ shared,
      (programs task).Keeps discipline (post task) shared)
    (changes : ∀ {shared} move, discipline.Holds shared →
      discipline.Holds (change shared move) ∧ discipline.Grows shared (change shared move))
    (reached : (threads programs starts discipline.serve change).Reaches first pool) :
    discipline.Holds pool.shared ∧ ∀ thread ∈ pool.processes,
      thread.Keeps programs discipline post pool.shared := by
  have mono : ∀ {before after : σ} {thread : Thread τ κ Answer α},
      discipline.Grows before after → thread.Keeps programs discipline post before →
        thread.Keeps programs discipline post after := fun grown known =>
    Program.Keeps.mono stable grown known
  refine reached.holds first_holds ?_ mono ?_ changes
  · intro shared thread started
    obtain ⟨fresh, allowed⟩ := Bool.and_eq_true_iff.mp started
    rw [Thread.Keeps, Thread.program, Option.isNone_iff_eq_none.mp fresh]
    exact keeps allowed shared
  · intro shared thread input held known
    unfold Thread.Keeps at known
    simp only [threads]
    generalize thread.program programs = program at known
    cases program with
    | done value => exact ⟨held, discipline.refl shared, known⟩
    | ask call next => exact known shared input (discipline.refl shared) held

theorem threads_grow {post : τ → σ → α → Prop}
    (changes : ∀ {shared} move, discipline.Holds shared →
      discipline.Grows shared (change shared move))
    (held : discipline.Holds pool.shared)
    (known : ∀ thread ∈ pool.processes, thread.Keeps programs discipline post pool.shared)
    (turn : Turn (Thread τ κ Answer α) ι ε) :
    discipline.Grows pool.shared
      ((threads programs starts discipline.serve change).turn pool turn).shared := by
  cases turn with
  | start thread =>
    simp only [Protocol.turn]
    split <;> exact discipline.refl _
  | step index input =>
    simp only [Protocol.turn]
    split
    · next thread found =>
      have kept := known thread (List.mem_of_getElem? found)
      unfold Thread.Keeps at kept
      simp only [threads]
      generalize thread.program programs = program at kept
      cases program with
      | done value => exact discipline.refl _
      | ask call next => exact (kept pool.shared input (discipline.refl _) held).2.1
    · exact discipline.refl _
  | change move => exact changes move held

end Threads

end Tekroo.Lib
