import Tekroo.NativeAgent.Serving
import Tekroo.Properties.Sessions

namespace Tekroo.NativeAgent

open Kernel Application Lib
open AgentRuntime hiding Delivery

/-! # What a fenced-off worker can still write

Two epochs never hold a lease at one time, but the journal does not look at leases: a worker that
goes on after the end of its lease is not stopped by a later claim.
-/

/-- Epochs other than the last one have no lease that is still running, and what was written
under a running lease was written under the last epoch. -/
structure BoundaryState.Leased (state : BoundaryState) : Prop where
  started : 0 ≤ state.clock
  current : ∀ record, state.control = some record →
    state.leaseEnds record.epoch = record.leaseUntil
  ended : ∀ epoch, (∀ record, state.control = some record → epoch ≠ record.epoch) →
    state.leaseEnds epoch ≤ state.clock
  free : ∀ record, state.control = some record → record.owner = "" →
    record.leaseUntil ≤ state.clock
  fenced : ∀ write ∈ state.writes, write.time < write.leaseEnd → write.granted ≤ write.epoch

namespace RunControl

/-- What an operation may make of the control record: a record without an owner has no running
lease, and a record with another epoch only follows one whose lease has ended. -/
structure Succeeds (clock : Time) (before after : Option RunControl) : Prop where
  free : ∀ record, after = some record → record.owner = "" → record.leaseUntil ≤ clock
  replaced : ∀ old, before = some old →
    (∀ record, after = some record → record.epoch ≠ old.epoch) → old.leaseUntil ≤ clock

theorem Succeeds.renewed {now : Time} {current later : RunControl}
    (same : later.epoch = current.epoch) (free : later.owner = "" → later.leaseUntil ≤ now) :
    Succeeds now (some current) (some later) := by
  refine ⟨?_, ?_⟩
  · rintro _ ⟨⟩
    exact free
  · rintro _ ⟨⟩ other
    exact absurd same (other later rfl)

variable {record : Option RunControl} {digest : Digest} {owner : String} {epoch : Nat}
  {now ttl : Time}
  (free : ∀ current, record = some current → current.owner = "" → current.leaseUntil ≤ now)

include free

theorem Succeeds.unchanged : Succeeds now record record where
  free
  replaced old found other := absurd rfl (other old found)

theorem claim_succeeds : Succeeds now record (RunControl.claim record digest owner now ttl).1 := by
  unfold RunControl.claim
  split
  · exact .unchanged free
  · next checked =>
    have owned : owner ≠ "" := by
      rintro rfl
      simp at checked
    cases record with
    | none => exact ⟨fun _ same unowned => by cases same; exact absurd unowned owned, nofun⟩
    | some current =>
      dsimp only
      split
      · exact .unchanged free
      · split
        · exact .unchanged free
        · next unleased =>
          refine ⟨fun _ same unowned => by cases same; exact absurd unowned owned, ?_⟩
          rintro _ ⟨⟩ _
          by_cases unowned : current.owner = ""
          · exact free current rfl unowned
          · simpa [RunControl.leased, unowned] using unleased

theorem renew_succeeds :
    Succeeds now record (RunControl.renew record digest owner epoch now ttl).1 := by
  unfold RunControl.renew
  split
  · exact .unchanged free
  · next checked =>
    cases record with
    | none => exact .unchanged free
    | some current =>
      dsimp only
      split
      · next held =>
        simp only [RunControl.heldBy, tests_iff] at held
        obtain ⟨⟨⟨_, rfl⟩, _⟩, _⟩ := held
        refine .renewed rfl fun unowned => ?_
        simp [show current.owner = "" from unowned] at checked
      · exact .unchanged free

theorem requestCancel_succeeds (started : 0 ≤ now) :
    Succeeds now record (RunControl.requestCancel record digest).1 := by
  unfold RunControl.requestCancel
  split
  · exact .unchanged free
  · cases record with
    | none => exact ⟨fun _ same _ => by cases same; exact started, nofun⟩
    | some current =>
      dsimp only
      split
      · exact .renewed rfl (free current rfl)
      · exact .unchanged free

theorem release_succeeds :
    Succeeds now record (RunControl.release record digest owner epoch now).1 := by
  unfold RunControl.release
  split
  · exact .unchanged free
  · cases record with
    | none => exact .unchanged free
    | some current =>
      dsimp only
      split
      · exact .renewed rfl fun _ => le_refl now
      · exact .unchanged free

end RunControl

namespace BoundaryState.Leased

variable {state : BoundaryState} {around : BoundarySurroundings}

theorem controlled (leased : state.Leased) {control : Option RunControl}
    (succeeds : RunControl.Succeeds state.clock state.control control) :
    (state.controlled control).Leased := by
  refine ⟨leased.started, ?_, ?_, succeeds.free, leased.fenced⟩
  · rintro record ⟨⟩
    simp [BoundaryState.controlled]
  · intro epoch other
    have kept : (state.controlled control).leaseEnds epoch = state.leaseEnds epoch := by
      cases control with
      | none => rfl
      | some record => exact Function.update_of_ne (other record rfl) _ _
    rw [kept]
    by_cases last : ∀ record, state.control = some record → epoch ≠ record.epoch
    · exact leased.ended epoch last
    · -- The epoch is that of the record before: its lease has ended.
      push Not at last
      obtain ⟨old, found, rfl⟩ := last
      rw [leased.current old found]
      exact succeeds.replaced old found fun record same => (other record same).symm

theorem operate {α : Type} (leased : state.Leased) {delivery : AgentRuntime.Delivery}
    {result : Option RunControl × Except Unit α}
    (succeeds : RunControl.Succeeds state.clock state.control result.1) :
    (state.operate delivery result).1.Leased := by
  cases delivery with
  | done | lost => exact leased.controlled succeeds
  | failed => exact leased

theorem journaled (leased : state.Leased) (epoch : Nat) (runtime : RuntimeState Prompt) :
    (state.journaled epoch runtime).Leased := by
  refine ⟨leased.started, leased.current, leased.ended, leased.free, ?_⟩
  intro write member running
  simp only [BoundaryState.journaled] at member
  split at member
  · rcases List.mem_append.mp member with earlier | last
    · exact leased.fenced write earlier running
    · obtain rfl := List.mem_singleton.mp last
      unfold grantedEpoch
      cases found : state.control with
      | none => exact Nat.zero_le _
      | some record =>
        by_contra later
        have ended := leased.ended epoch fun other same => by
          rw [found] at same
          cases same
          exact fun equal => later (le_of_eq equal.symm)
        exact absurd running (not_lt.mpr ended)
  · exact leased.fenced write member running

theorem serve (id : UUIDv7) (leased : state.Leased) (call : BoundaryCall) :
    (state.serve id call around).1.Leased := by
  cases call with
  | runtime epoch call => exact leased.journaled epoch _
  | configure | bindTools | project | cause => exact leased
  | claim digest owner => exact leased.operate (RunControl.claim_succeeds leased.free)
  | renew digest owner epoch => exact leased.operate (RunControl.renew_succeeds leased.free)
  | requestCancel digest =>
    exact leased.operate (RunControl.requestCancel_succeeds leased.free leased.started)
  | release digest owner epoch => exact leased.operate (RunControl.release_succeeds leased.free)

theorem change (leased : state.Leased) (move : BoundaryChange) : (state.change move).Leased := by
  cases move with
  | tick duration =>
    have later : state.clock ≤ state.clock + duration := Int.le_add_of_nonneg_right (by simp)
    exact ⟨leased.started.trans later, leased.current,
      fun epoch other => (leased.ended epoch other).trans later,
      fun record found unowned => (leased.free record found unowned).trans later, leased.fenced⟩
  | heartbeat digest owner epoch ttl =>
    exact leased.controlled (RunControl.renew_succeeds leased.free)

end BoundaryState.Leased

theorem BoundaryState.leased_first : ({} : BoundaryState).Leased where
  started := by decide
  current := nofun
  ended _ _ := Int.zero_le_ofNat 1
  free := nofun
  fenced := nofun

/-- Leases are kept apart by every call, so no order of the states is needed. -/
def fencing (id : UUIDv7) :
    Discipline BoundaryCall BoundaryCall.Answer BoundaryState BoundarySurroundings where
  serve := BoundaryState.serve id
  Holds := BoundaryState.Leased
  Grows _ _ := True
  refl _ := trivial
  trans _ _ := trivial

variable {id : UUIDv7} {pool : Pool BoundaryState BoundaryThread}

theorem boundaries_leased (reached : (boundaries id).Reaches {} pool) : pool.shared.Leased := by
  refine (threads_keep (fencing id) (fun _ _ _ => True) BoundaryState.leased_first
    (fun _ _ => trivial) ?_ ?_ reached).1
  · intro task _ state
    refine Program.keeps_of_serve ?_ _ state
    intro current call around leased
    exact ⟨leased.serve id call, trivial⟩
  · intro state move leased
    exact ⟨leased.change move, trivial⟩

/-- Of everything that was written in any interleaving, what was written before the end of the
writer's own lease was written when no later epoch had been granted. -/
theorem leased_writers_not_superseded (reached : (boundaries id).Reaches {} pool) :
    ∀ write ∈ pool.shared.writes, write.time < write.leaseEnd → write.granted ≤ write.epoch :=
  (boundaries_leased reached).fenced

namespace Sample

def start (owner : String) : BoundaryThread := ⟨⟨boundary owner, brief, .number 1, .ensure⟩, none⟩

def around : BoundarySurroundings where
  config := .ok config
  authority := .ok authority
  project := some ""

/-- A boundary starts a worker, which prepares its session and writes its start. -/
def startedTurns : List (Turn BoundaryThread BoundarySurroundings BoundaryChange) :=
  .start (start "first") :: List.replicate 13 (.step 0 around)

/-- The worker then pauses until its lease has ended and a second boundary has claimed the next
one; its model call fails after that. -/
def pausedTurns : List (Turn BoundaryThread BoundarySurroundings BoundaryChange) :=
  startedTurns ++ [.change (.tick 10), .start (start "second"), .step 1 around, .step 1 around] ++
    List.replicate 5 (.step 0 around)

def running : Pool BoundaryState BoundaryThread :=
  startedTurns.foldl (boundaries (.number 1)).turn ⟨{}, []⟩

def paused : Pool BoundaryState BoundaryThread :=
  pausedTurns.foldl (boundaries (.number 1)).turn ⟨{}, []⟩

theorem running_reached : (boundaries (.number 1)).Reaches {} running := .turns _ .start

/-- The worker with epoch 1 closes the journal after epoch 2 was granted. -/
theorem superseded_worker_writes :
    (boundaries (.number 1)).Reaches {} paused ∧
      (paused.shared.runtime.entries.map Entry.content).getLast? = some (.failed "error") ∧
      paused.shared.writes = [⟨1, 1, 1, 2⟩, ⟨1, 2, 11, 2⟩] :=
  ⟨.turns _ .start, by decide, by decide⟩

theorem start_written_under_lease :
    ∃ write ∈ running.shared.writes, write.time < write.leaseEnd ∧ write.granted ≤ write.epoch :=
  ⟨⟨1, 1, 1, 2⟩, by decide, by decide,
    leased_writers_not_superseded running_reached _ (by decide) (by decide)⟩

end Sample

end Tekroo.NativeAgent
