import Mathlib.Tactic.Common

/-! # Optimistic concurrency

A client copies the shared state, computes on its copy for as long as it likes, and then asks for
an update that may compare the copy with the state it finds.
-/

namespace Tekroo.Lib

universe u

structure Shared (σ : Type) where
  current : σ
  copies : List σ

variable {σ : Type} {ι : Type u} (update : σ → σ → ι → σ)

namespace Shared

variable (shared : Shared σ)

def copy : Shared σ :=
  { shared with copies := shared.copies ++ [shared.current] }

theorem current_copied : shared.copy.current ∈ shared.copy.copies :=
  List.mem_append.mpr (.inr List.mem_cons_self)

/-- `update copy current input` is the state after an update computed from `copy`. -/
def apply (copy : σ) (input : ι) : Shared σ :=
  { shared with current := update copy shared.current input }

end Shared

/-- The runs all of whose updates are allowed. -/
inductive Run (allowed : σ → σ → ι → Prop) (first : Shared σ) : Shared σ → Prop
  | refl : Run allowed first first
  | copy {shared : Shared σ} (run : Run allowed first shared) : Run allowed first shared.copy
  | update {shared : Shared σ} {copy : σ} {input : ι} (run : Run allowed first shared)
      (taken : copy ∈ shared.copies) (permitted : allowed copy shared.current input) :
      Run allowed first (shared.apply update copy input)

namespace Run

variable {update} {allowed : σ → σ → ι → Prop} {first middle last : Shared σ} {Holds : σ → Prop}

/-- Every copy a client holds was the shared state at some earlier point of the run. -/
theorem copy_reached {copy : σ} (empty : first.copies = [])
    (run : Run update allowed first last) (taken : copy ∈ last.copies) :
    ∃ earlier, Run update allowed first earlier ∧ earlier.current = copy := by
  induction run with
  | refl => simp [empty] at taken
  | copy run induction =>
    rcases List.mem_append.mp taken with old | new
    · exact induction old
    · exact ⟨_, run, (List.mem_singleton.mp new).symm⟩
  | update _ _ _ induction => exact induction taken

/-- A property of single states that an allowed update keeps when its copy has it too. -/
theorem holds_of_copies
    (step : ∀ {shared : Shared σ} {copy : σ} {input : ι}, Run update allowed first shared → copy ∈
      shared.copies → allowed copy shared.current input → Holds copy → Holds shared.current → Holds
      (update copy shared.current input)) (start : Holds first.current)
    (copies : ∀ copy ∈ first.copies, Holds copy) (run : Run update allowed first last) :
    Holds last.current ∧ ∀ copy ∈ last.copies, Holds copy := by
  induction run with
  | refl => exact ⟨start, copies⟩
  | copy _ induction =>
    obtain ⟨held, copied⟩ := induction
    refine ⟨held, fun copy taken => ?_⟩
    rcases List.mem_append.mp taken with old | new
    · exact copied copy old
    · exact List.mem_singleton.mp new ▸ held
  | update run taken permitted induction =>
    obtain ⟨held, copied⟩ := induction
    exact ⟨step run taken permitted (copied _ taken) held, copied⟩

/-- A property of single states that every allowed update keeps. -/
theorem holds
    (step : ∀ {shared : Shared σ} {copy : σ} {input : ι}, Run update allowed first shared → copy ∈
      shared.copies → allowed copy shared.current input → Holds shared.current → Holds (update copy
      shared.current input)) (start : Holds first.current) (run : Run update allowed first last) :
    Holds last.current := by
  induction run with
  | refl => exact start
  | copy _ induction => exact induction
  | update run taken permitted induction => exact step run taken permitted induction

/-- A preorder that every allowed update climbs: it leads from the first state to the last,
and from the copy of each client to the state the client will find. -/
theorem grows {Grows : σ → σ → Prop} (refl : ∀ state, Grows state state)
    (trans : ∀ {before between after}, Grows before between → Grows between after →
      Grows before after)
    (step : ∀ {shared : Shared σ} {copy : σ} {input : ι}, Run update allowed first shared →
      copy ∈ shared.copies → allowed copy shared.current input →
      Grows shared.current (update copy shared.current input))
    (copies : ∀ copy ∈ first.copies, Grows copy first.current)
    (run : Run update allowed first last) :
    Grows first.current last.current ∧ ∀ copy ∈ last.copies, Grows copy last.current := by
  induction run with
  | refl => exact ⟨refl _, copies⟩
  | copy _ induction =>
    obtain ⟨grown, earlier⟩ := induction
    refine ⟨grown, fun copy taken => ?_⟩
    rcases List.mem_append.mp taken with old | new
    · exact earlier copy old
    · exact List.mem_singleton.mp new ▸ refl _
  | update run taken permitted induction =>
    obtain ⟨grown, earlier⟩ := induction
    have further := step run taken permitted
    exact ⟨trans grown further, fun copy taken => trans (earlier copy taken) further⟩

end Run

end Tekroo.Lib
