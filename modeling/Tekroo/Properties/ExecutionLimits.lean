import Tekroo.Application.ExecutionControl

/-! # The limits of an execution policy

A new reservation is counted against the reservations of its actor from a window before it on,
the later ones included.  Whichever reservation of an interval came last in the store has
therefore counted all the others, in whatever order their times arrive.
-/

namespace Tekroo.Application

open Kernel Lib

inductive ControlCall where
  | prepare (candidate : ExecutionControlRecord)
  | compareAndSwap (key : String) (expectedVersion : Nat) (next : ExecutionControlRecord)

/-- A record begins with version 1 and every replacement has the next version. -/
inductive Continues : Option ExecutionControlRecord → Option ExecutionControlRecord → Prop
  | refl (record) : Continues record record
  | first {record} (version : record.version = 1) : Continues none (some record)
  | next {before after} (version : after.version = before.version + 1) :
      Continues (some before) (some after)

def ExecutionControlRecord.within (actor : ActorFQN) (first last : Time)
    (record : ExecutionControlRecord) : Bool :=
  record.ofActor actor && decide (first ≤ record.reservedAt) && decide (record.reservedAt ≤ last)

namespace Succeeds

variable {current next : ExecutionControlRecord} (succeeds : Succeeds current next)

include succeeds

theorem consumed : current.consumes = true := by
  have moves := succeeds.transition
  unfold ExecutionControlRecord.consumes
  generalize current.state = before, next.state = after at moves ⊢
  cases before with
  | stopped | rejected => cases after <;> cases moves
  | _ => rfl

theorem ofActor (actor : ActorFQN) : next.ofActor actor = current.ofActor actor := by
  rw [ExecutionControlRecord.ofActor, succeeds.request, ExecutionControlRecord.ofActor]

theorem within (actor : ActorFQN) (first last : Time) :
    next.within actor first last = current.within actor first last := by
  rw [ExecutionControlRecord.within, succeeds.ofActor, succeeds.reserved,
    ExecutionControlRecord.within]

end Succeeds

namespace ExecutionControls

variable {controls : ExecutionControls} {policy : ExecutionPolicy}

def serve (policy : ExecutionPolicy) (controls : ExecutionControls) :
    ControlCall → ExecutionControls
  | .prepare candidate => (controls.prepare policy candidate).1
  | .compareAndSwap key expected next => (controls.compareAndSwap key expected next).1

/-- The store after the calls, in the order in which they took its lock. -/
def after (policy : ExecutionPolicy) (calls : List ControlCall) : ExecutionControls :=
  calls.foldl (serve policy) ∅

theorem after_snoc (calls : List ControlCall) (call : ControlCall) :
    after policy (calls ++ [call]) = serve policy (after policy calls) call := by
  rw [after, List.foldl_append, List.foldl_cons, List.foldl_nil, ← after]

theorem serve_cases (controls : ExecutionControls) (call : ControlCall) :
    serve policy controls call = controls ∨
      (∃ candidate, Admitted policy controls candidate ∧ serve policy controls call =
        controls.insert candidate.request.idempotencyKey candidate) ∨
      ∃ key current next, controls.lookup key = some current ∧ Succeeds current next ∧
        serve policy controls call = controls.insert key next := by
  cases call with
  | prepare candidate =>
    rcases prepare_cases controls policy candidate with
      ⟨_, refused⟩ | ⟨_, _, _, _, known⟩ | ⟨admitted, added⟩
    · exact .inl (congrArg Prod.fst refused)
    · exact .inl (congrArg Prod.fst known)
    · exact .inr (.inl ⟨candidate, admitted, congrArg Prod.fst added⟩)
  | compareAndSwap key expected next =>
    rcases compareAndSwap_cases controls key expected next with
      refused | ⟨current, found, _, succeeds, swapped⟩
    · exact .inl (congrArg Prod.fst refused)
    · exact .inr (.inr ⟨key, current, next, found, succeeds, congrArg Prod.fst swapped⟩)

/-- A limit on the records that pass a test holds in every run if replacing a record makes none
pass and a new record that passes has found the limit not yet reached. -/
theorem after_count_le {test : ExecutionControlRecord → Bool} {limit : Nat}
    (steady : ∀ {current next}, Succeeds current next → test next = true → test current = true)
    (room : ∀ {controls candidate}, Admitted policy controls candidate →
      test candidate = true → count controls test < limit)
    (calls : List ControlCall) : count (after policy calls) test ≤ limit := by
  induction calls using List.reverseRecOn with
  | nil => exact Nat.zero_le limit
  | append_singleton calls call bounded =>
    rw [after_snoc]
    rcases serve_cases (after policy calls) call with
      same | ⟨candidate, admitted, same⟩ | ⟨key, current, next, found, succeeds, same⟩
    · rwa [same]
    · rw [same, count_insert_new admitted.fresh]
      split
      · next passes => exact room admitted passes
      · exact bounded
    · rw [same]
      exact (count_insert_le found (steady succeeds)).trans bounded

theorem serve_continues (controls : ExecutionControls) (call : ControlCall) (key : String) :
    Continues (controls.lookup key) ((serve policy controls call).lookup key) := by
  rcases serve_cases controls call with
    same | ⟨candidate, admitted, same⟩ | ⟨written, current, next, found, succeeds, same⟩
  · rw [same]
    exact .refl _
  · rw [same, lookup_insert_eq_ite]
    split
    · next equal =>
      have prepared := admitted.prepared
      simp only [ExecutionControlRecord.prepared, tests_iff] at prepared
      rw [equal, admitted.fresh]
      exact .first prepared.1.1.2
    · exact .refl _
  · rw [same, lookup_insert_eq_ite]
    split
    · next equal =>
      rw [equal, found]
      exact .next succeeds.version
    · exact .refl _

theorem room_within {actor : ActorFQN} {first : Time} {candidate : ExecutionControlRecord}
    (admitted : Admitted policy controls candidate)
    (inside : candidate.within actor first (first + policy.startWindow) = true) :
    (count controls fun record => record.within actor first (first + policy.startWindow)) <
      policy.maxStartsPerActorWindow := by
  simp only [ExecutionControlRecord.within, ExecutionControlRecord.ofActor, tests_iff] at inside
  obtain ⟨⟨rfl, _⟩, bound⟩ := inside
  refine lt_of_le_of_lt (List.countP_mono_left fun entry _ counted => ?_) admitted.recent
  simp only [ExecutionControlRecord.within, tests_iff] at counted
  simp only [ExecutionControlRecord.since, tests_iff, decide_eq_false_iff_not, not_lt]
  exact ⟨counted.1.1,
    Int.sub_right_le_of_le_add (bound.trans (Int.add_le_add_right counted.1.2 _))⟩

theorem execution_limits_hold (policy : ExecutionPolicy) (calls : List ControlCall) :
    count (after policy calls) (·.consumes) ≤ policy.maxActiveTotal ∧
      (∀ actor, (count (after policy calls) fun record =>
        record.consumes && record.ofActor actor) ≤ policy.maxActivePerActor) ∧
      (∀ call key, Continues ((after policy calls).lookup key)
        ((after policy (calls ++ [call])).lookup key)) ∧
      ∀ actor first, (count (after policy calls) fun record =>
        record.within actor first (first + policy.startWindow)) ≤
          policy.maxStartsPerActorWindow := by
  refine ⟨after_count_le (fun succeeds _ => succeeds.consumed) (fun admitted _ => admitted.total)
    calls, fun actor => ?_, fun call key => ?_, fun actor first => ?_⟩
  · refine after_count_le (fun succeeds counted => ?_) (fun admitted counted => ?_) calls
    · rw [Bool.and_eq_true, succeeds.ofActor] at counted
      rw [succeeds.consumed, counted.2]
      rfl
    · simp only [ExecutionControlRecord.ofActor, tests_iff] at counted
      exact counted.2 ▸ admitted.actor
  · rw [after_snoc]
    exact serve_continues _ call key
  · exact after_count_le (fun succeeds => (succeeds.within ..) ▸ id) room_within calls

end ExecutionControls

end Tekroo.Application
