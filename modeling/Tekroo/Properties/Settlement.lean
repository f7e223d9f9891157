import Tekroo.Properties.Reconciliation

namespace Tekroo.NativeAgent

open Kernel Application Lib Checked Lib.Program BoundaryState
open Boundary
open AgentRuntime hiding Surroundings Delivery

section

variable {boundary : Boundary} {brief : ExecutionBrief} {digest : Digest} {premises : Premises}
  {runner : Runner Prompt} {place : Place} {state : BoundaryState} {epoch : Nat}
  {entries : List (AgentRuntime.Entry Prompt)}

/-! # Which runs settle -/

structure Boundary.Able (boundary : Boundary) (place : Place) (state : BoundaryState)
    (digest : Digest) : Prop where
  stores : boundary.stores = true
  configured : boundary.configured = true
  owner : boundary.owner ≠ ""
  clock : state.clock ≠ 0
  ttl : 0 < place.ttl
  free : ∀ record, state.control = some record →
    record.requestDigest = digest ∧ record.leased state.clock = false

section Claim

variable {control : Option RunControl} {record : RunControl} {owner : String} {now ttl : Time}

theorem requestCancel_free (valid : digest.valid = true)
    (free : ∀ record, control = some record →
      record.requestDigest = digest ∧ record.leased now = false) :
    ∃ record, RunControl.requestCancel control digest = (some record, .ok ()) ∧
      record.requestDigest = digest ∧ record.leased now = false ∧
      record.cancelRequested = true := by
  cases control with
  | none =>
    refine ⟨{ requestDigest := digest, cancelRequested := true }, ?_, rfl, rfl, rfl⟩
    simp [RunControl.requestCancel, valid]
  | some current =>
    obtain ⟨same, unleased⟩ := free current rfl
    refine ⟨{ current with cancelRequested := true }, ?_, same, unleased, rfl⟩
    simp [RunControl.requestCancel, valid, same]

theorem claim_free (valid : digest.valid = true) (owned : owner ≠ "") (timed : now ≠ 0)
    (lasting : 0 < ttl) (same : record.requestDigest = digest)
    (unleased : record.leased now = false) (cancelled : record.cancelRequested = true) :
    ∃ claimed, RunControl.claim (some record) digest owner now ttl = (some claimed,
      .ok { acquired := true, cancelRequested := true, epoch := record.epoch + 1 }) := by
  have running : ¬ ttl ≤ 0 := not_le.mpr lasting
  simp [RunControl.claim, valid, owned, Time.isZero, timed, running, same, unleased, cancelled]

end Claim

section Cancel

variable {observed : ExternalExecutionObservation}

/-- The answer of a cancellation that observes a journal without a terminal entry: the run is
settled under a new lease. -/
def cancelling (boundary : Boundary) (brief : ExecutionBrief) (digest : Digest) (epoch : Nat) :
    Bounding (ExternalExecutionObservation × Option Nat) := do
  return (← boundary.settle brief digest epoch "cancelled before resume" true, none)

theorem exec_cancel (valid : validBoundaryRequest boundary.hashes brief digest = true)
    (able : boundary.Able place state digest) :
    ∃ requested claimed epoch, requested.runtime = state.runtime ∧
      claimed.runtime = state.runtime ∧
      exec (place.serve brief.invocationID)
          (boundary.cancel brief digest (conversationName brief.invocationID)) state =
        match observeJournalWithPrompt brief digest true state.runtime.entries with
        | .error error => (requested, .error error)
        | .ok (observed, true) => (requested, .ok (observed, none))
        | .ok (_, false) =>
          exec (place.serve brief.invocationID) (cancelling boundary brief digest epoch)
            claimed := by
  have digestValid : digest.valid = true := by
    simp only [validBoundaryRequest, tests_iff] at valid
    exact valid.1.1.1.2
  obtain ⟨record, cancelled, same, unleased, requested⟩ := requestCancel_free digestValid able.free
  obtain ⟨claimed, acquired⟩ := claim_free digestValid able.owner able.clock able.ttl same
    unleased requested
  have first : place.serve brief.invocationID state (.requestCancel digest) =
      (state.controlled (some record), .ok ()) := by
    simp [Place.serve, serve, operate, Place.around, cancelled]
  have second : place.serve brief.invocationID (state.controlled (some record))
      (.claim digest boundary.owner) =
        ((state.controlled (some record)).controlled (some claimed),
          .ok { acquired := true, cancelRequested := true, epoch := record.epoch + 1 }) := by
    have found : RunControl.claim (state.controlled (some record)).control digest boundary.owner
        (state.controlled (some record)).clock place.ttl = _ := acquired
    simp only [Place.serve, serve, operate, Place.around, found]
  refine ⟨state.controlled (some record), (state.controlled (some record)).controlled
    (some claimed), record.epoch + 1, rfl, rfl, ?_⟩
  simp only [cancel, ensure, boundaryCall, bne_self_eq_false, valid, able.stores, able.configured,
    Bool.and_self, Bool.not_true, Bool.or_self, Bool.false_eq_true, if_false, exec_bind, exec_lift,
    run_request, first, exec_observe]
  rw [show (state.controlled (some record)).runtime = state.runtime from rfl]
  rcases observeJournalWithPrompt brief digest true state.runtime.entries with
    error | ⟨observed, terminal⟩
  · rfl
  · cases terminal with
    | true => rfl
    | false => simp [second, resume, cancelling]

theorem exec_cancelling {epoch : Nat} {later last : BoundaryState} {flag : Bool}
    (reconciled : exec (place.serve brief.invocationID)
      (boundary.reconcileBeforeTerminal brief digest epoch) state = (later, .ok ()))
    (closing : exec (place.under brief.invocationID epoch)
      (recordTerminalWithPrompt brief digest .cancelled "cancelled before resume" true) later =
        (last, .ok ()))
    (read : observeJournalWithPrompt brief digest true last.runtime.entries =
      .ok (observed, flag)) :
    ∃ final, exec (place.serve brief.invocationID) (cancelling boundary brief digest epoch)
      state = (final, .ok (observed, none)) := by
  have kept : (place.serve brief.invocationID last
      (.release digest boundary.owner epoch)).1.runtime = last.runtime := rfl
  simp [cancelling, settle, boundaryCall, reconciled, closing, kept, read, Except.mapError]

theorem reconciled_of_cancelling {epoch : Nat} {final : BoundaryState}
    {answer : ExternalExecutionObservation × Option Nat}
    (ran : exec (place.serve brief.invocationID) (cancelling boundary brief digest epoch) state =
      (final, .ok answer)) :
    (exec (place.serve brief.invocationID)
      (boundary.reconcileBeforeTerminal brief digest epoch) state).2 = .ok () := by
  simp only [cancelling, settle, exec_bind] at ran
  rcases found : exec (place.serve brief.invocationID)
    (boundary.reconcileBeforeTerminal brief digest epoch) state with ⟨later, error | value⟩
  · rw [found] at ran
    cases ran
  · rfl

end Cancel

section Worker

variable {state later last : BoundaryState} {failure : NativeError}

/-- The worker still holds its lease, and what it fails with is not an effect that may be under
way. -/
def Place.reports (place : Place) (failure : NativeError) : Bool :=
  place.cause != some .leaseLost && !(failure == .run .effectUncertain && place.cause.isNone)

theorem exec_finishWorker (reports : place.reports failure = true) :
    (exec (place.serve brief.invocationID)
        (boundary.finishWorker brief digest epoch (some failure)) state).1.runtime =
      (exec (place.serve brief.invocationID)
        (boundary.finish brief digest epoch place.cause (some failure)) state).1.runtime := by
  have held : (place.cause == some .leaseLost) = false := by
    simp only [Place.reports, tests_iff, ne_eq] at reports
    exact beq_eq_false_iff_ne.mpr reports.1
  have caused : place.serve brief.invocationID state .cause = (state, place.cause) := rfl
  simp only [finishWorker, boundaryCall, exec_bind, exec_lift, run_request, caused, held,
    Bool.false_eq_true, if_false, exec_attempt]
  cases (exec (place.serve brief.invocationID)
    (boundary.finish brief digest epoch place.cause (some failure)) state).2 <;> rfl

theorem exec_finish (reports : place.reports failure = true)
    (reconciled : exec (place.serve brief.invocationID)
      (boundary.reconcileBeforeTerminal brief digest epoch) state = (later, .ok ()))
    (closing : exec (place.under brief.invocationID epoch)
      (recordTerminal brief digest (endingFor place.cause) (boundary.message failure))
        later = (last, .ok ())) :
    exec (place.serve brief.invocationID)
      (boundary.finish brief digest epoch place.cause (some failure)) state = (last, .ok ()) := by
  have known : (failure == .run .effectUncertain && place.cause.isNone) = false := by
    simp only [Place.reports, tests_iff] at reports
    exact reports.2
  simp [finish, reconcileEnded, conclude, known, reconciled, closing, Except.mapError]

end Worker

theorem recorded_unclosed {binding : Binding Prompt} {pending : List ToolCall}
    {text : Option String} (recorded : Recorded binding entries pending text) :
    closed entries = false := by
  refine Bool.eq_false_iff.mpr fun ended => ?_
  obtain ⟨last, found, terminal⟩ := closed_iff.mp ended
  have unfinished := recorded.not_terminal last (List.mem_of_getLast? found)
  exact absurd (unfinished.symm.trans terminal) (by simp)

section Closed

variable (ended : closed state.runtime.entries = true)

include ended

theorem exec_drain_closed {runner : Runner Prompt} {id : UUIDv7} (fuel : Nat) :
    (exec (place.under id epoch) (runner.drain fuel state.runtime.entries) state).1 = state := by
  cases fuel with
  | zero => rfl
  | succ fuel =>
    unfold Runner.drain
    cases read : replay runner.binding runner.finalize state.runtime.entries with
    | error error => rfl
    | ok replayed =>
      rcases replay_ok read with ⟨_, _, _, recorded, _⟩ | ⟨_, _, text, _, complete, _⟩
      · -- A journal that replay would continue has no terminal entry.
        exact absurd (ended.symm.trans (recorded_unclosed recorded)) (by simp)
      · simp only [complete]
        rfl

theorem exec_reconcile_closed :
    (exec (place.serve brief.invocationID) (boundary.reconcileBeforeTerminal brief digest epoch)
      state).1 = state := by
  simp only [reconcileBeforeTerminal, exec_bind, exec_loadJournal]
  split
  · rfl
  · unfold reconcileEntries
    split
    · rfl
    · split <;> rfl
    · unfold reconcileSession
      split
      · rfl
      · simp only [exec_bind, exec_configuration, exec_prepareWith]
        split
        · next read =>
          obtain ⟨rfl, _⟩ := Prod.mk.inj read
          simp only [exec_underLease, Runner.reconcilePendingEffects]
          split
          · rfl
          · simp only [calling, exec_bind, exec_lift, run_request, under_load]
            split
            · rfl
            · rfl
            · next loaded =>
              cases loaded
              exact exec_drain_closed ended boundary.fuel
        · next read => exact (Prod.mk.inj read).1.symm

theorem exec_recordTerminal_still {ending : Ending} {reason : String} :
    (exec (place.under brief.invocationID epoch)
      (recordTerminalWithPrompt brief digest ending reason true) state).1 = state := by
  obtain ⟨last, found, terminal⟩ := closed_iff.mp ended
  rw [exec_recordTerminal_cons (closed_ne_nil ended), closeJournal]
  cases read : observeJournalWithPrompt brief digest true state.runtime.entries with
  | error error => rfl
  | ok answer =>
    obtain ⟨observed, flag⟩ := answer
    cases flag with
    | true => rfl
    | false =>
      have unfinished := observed_open read last found
      exact absurd (unfinished.symm.trans terminal) (by simp)

theorem exec_finish_closed {cause : Option Cause} {failure : NativeError} :
    (exec (place.serve brief.invocationID)
      (boundary.finish brief digest epoch cause (some failure)) state).1 = state := by
  have still : (exec (place.serve brief.invocationID)
      (boundary.reconcileBeforeTerminal brief digest epoch) state).1 = state :=
    exec_reconcile_closed ended
  simp only [finish, reconcileEnded, Option.isSome_some, Bool.true_or, if_true, exec_bind]
  split
  · next read =>
    rw [read] at still
    cases still
    simp only [conclude]
    split
    · rfl
    · rw [exec_underLease]
      exact exec_recordTerminal_still ended
  · next read => rwa [read] at still

end Closed

/-- The journals that a cancellation settles: empty, or recognized by the boundary and closed or
reconcilable. -/
def Settleable (brief : ExecutionBrief) (runner : Runner Prompt) (gateway : EffectGateway)
    (entries : List (AgentRuntime.Entry Prompt)) : Prop :=
  entries = [] ∨
    (brief.messageHandler.isSome = true ∨ brief.resultProtocol = none) ∧
      (closed entries = true ∨ Reconcilable brief runner gateway entries)

theorem journaled_open {own : Binding Prompt → Prop} (journaled : Journaled own entries)
    (nonempty : entries ≠ []) (unclosed : closed entries = false) :
    ∃ binding pending text, own binding ∧ Recorded binding entries pending text := by
  cases journaled with
  | empty => exact absurd rfl nonempty
  | recorded mine recorded => exact ⟨_, _, _, mine, recorded⟩
  | closed mine recorded terminal =>
    exact absurd (unclosed.symm.trans (closed_concat terminal)) (by simp)

section Settlement

variable {pending : List ToolCall} {text : Option String}
  (prepared : prepareSession boundary.hashes boundary.library brief digest place.config premises =
    .ok runner)

include prepared

theorem recognized_observed (journaled : Journaled (Recognized brief digest) entries)
    (nonempty : entries ≠ []) :
    ∃ observed, observeJournalWithPrompt brief digest true entries =
        .ok (observed, closed entries) ∧
      ended observed.state = closed entries := by
  have encodable := prepared_encodable prepared
  obtain ⟨record, rest, rfl, started, placed, _⟩ :=
    journaled_recognized encodable (fun mine => mine) journaled nonempty
  exact observed_closed encodable started placed

variable {ending : Ending} {reason : String}

theorem exec_recordTerminal_session (recognized : Recognized brief digest runner.binding)
    (recorded : Recorded runner.binding state.runtime.entries pending text) :
    ∃ last, exec (place.under brief.invocationID epoch)
        (recordTerminalWithPrompt brief digest ending reason true) state = (last, .ok ()) ∧
      closed last.runtime.entries = true ∧
      Journaled (Recognized brief digest) last.runtime.entries := by
  obtain ⟨observed, read, _⟩ :=
    recognized_observed prepared (.recorded recognized recorded) recorded.ne_nil
  rw [recorded_unclosed recorded] at read
  refine ⟨_, exec_recordTerminal_open recorded.ne_nil read recorded.lastSequence_eq,
    closed_concat (ending.content_terminal _), ?_⟩
  rw [appended_entries, written, ← recognized.1]
  exact .closed recognized recorded (ending.content_terminal _)

theorem exec_recordTerminal_fresh (empty : state.runtime.entries = []) :
    ∃ last, exec (place.under brief.invocationID epoch)
        (recordTerminalWithPrompt brief digest ending reason true) state = (last, .ok ()) ∧
      closed last.runtime.entries = true ∧
      Journaled (Recognized brief digest) last.runtime.entries := by
  refine ⟨_, exec_recordTerminal_empty (prepared_encodable prepared) empty,
    closed_concat (ending.content_terminal _), ?_⟩
  rw [appended_entries, appended_entries, empty]
  exact .closed startBinding_recognized boundaryStart_recorded (ending.content_terminal _)

omit prepared in
theorem exec_reconcile_empty (empty : state.runtime.entries = []) :
    exec (place.serve brief.invocationID) (boundary.reconcileBeforeTerminal brief digest epoch)
      state = (state, .ok ()) := by
  simp [reconcileBeforeTerminal, empty]

theorem exec_settles (journaled : Journaled (· = runner.binding) state.runtime.entries)
    (resolved : ∀ call ∈ recordedCalls state.runtime.entries, place.gateway.ledger call ≠ some none)
    (enough : (recordedCalls state.runtime.entries).length < boundary.fuel)
    (settleable : Settleable brief runner place.gateway state.runtime.entries)
    (unclosed : closed state.runtime.entries = false) :
    ∃ later last, exec (place.serve brief.invocationID)
        (boundary.reconcileBeforeTerminal brief digest epoch) state = (later, .ok ()) ∧
      exec (place.under brief.invocationID epoch)
        (recordTerminalWithPrompt brief digest ending reason true) later = (last, .ok ()) ∧
      closed last.runtime.entries = true ∧
      Journaled (Recognized brief digest) last.runtime.entries := by
  by_cases empty : state.runtime.entries = []
  · obtain ⟨last, closing, finished⟩ := exec_recordTerminal_fresh prepared empty
    exact ⟨state, last, exec_reconcile_empty empty, closing, finished⟩
  · obtain ⟨known, open'⟩ := settleable.resolve_left empty
    obtain ⟨named, bound⟩ := prepared_binding prepared
    have matched := (prepared_prompt_matches_iff prepared).mpr known
    obtain ⟨_, pending, text, rfl, recorded⟩ := journaled_open journaled empty unclosed
    obtain ⟨outcome, rest, kept⟩ := exec_reconcileBeforeTerminal prepared
      matched recorded (fun call member => resolved call (recorded.pending_subset member))
      (recorded.pending_length.trans_lt enough)
    have good := outcome.mpr (open'.resolve_left (by simp [unclosed]))
    obtain ⟨last, closing, finished⟩ :=
      exec_recordTerminal_session prepared ⟨named, bound, matched⟩ kept
    exact ⟨_, last, Prod.ext rfl good, closing, finished⟩

omit prepared in
theorem unrecognized_observed
    (unmatched : nativePromptMatchesBrief brief digest runner.binding.prompt = false)
    (journaled : Journaled (· = runner.binding) entries) (nonempty : entries ≠ []) :
    ∃ error, observeJournalWithPrompt brief digest true entries = .error error := by
  obtain ⟨_, record, rest, rfl, rfl, binds⟩ := journaled.starts nonempty
  simp only [StartRecord.binds, tests_iff] at binds
  have refused : startedFor brief digest true (.started record) = false := by
    simp [startedFor, binds.1.1.1.2, unmatched]
  cases read : observeJournalWithPrompt brief digest true
    (⟨runner.binding.id, 1, .started record⟩ :: rest) with
  | error error => exact ⟨error, rfl⟩
  | ok answer =>
    simp only [observeJournalWithPrompt, chain_ok, refused] at read
    cases read.2.1

theorem settleable_observed
    (journaled : Journaled (· = runner.binding) state.runtime.entries)
    (settleable : Settleable brief runner place.gateway state.runtime.entries) :
    ∃ observed, observeJournalWithPrompt brief digest true state.runtime.entries =
        .ok (observed, closed state.runtime.entries) ∧
      ended observed.state = closed state.runtime.entries := by
  by_cases empty : state.runtime.entries = []
  · rw [empty]
    exact ⟨_, rfl, rfl⟩
  · obtain ⟨known, _⟩ := settleable.resolve_left empty
    obtain ⟨named, bound⟩ := prepared_binding prepared
    have matched := (prepared_prompt_matches_iff prepared).mpr known
    refine recognized_observed prepared (journaled.weaken ?_) empty
    rintro _ rfl
    exact ⟨named, bound, matched⟩

section Cancelled

variable (journaled : Journaled (· = runner.binding) state.runtime.entries)
  (resolved : ∀ call ∈ recordedCalls state.runtime.entries,
    place.gateway.ledger call ≠ some none)
  (enough : (recordedCalls state.runtime.entries).length < boundary.fuel)

include journaled resolved enough

/-- A cancellation answers with a terminal observation exactly when the journal is settleable. -/
theorem cancel_settles_iff (able : boundary.Able place state digest) :
    (∃ later observed, exec (place.serve brief.invocationID)
        (boundary.cancel brief digest (conversationName brief.invocationID)) state =
          (later, .ok (observed, none)) ∧ ended observed.state = true) ↔
      Settleable brief runner place.gateway state.runtime.entries := by
  obtain ⟨requested, claimed, epoch, _, same, answered⟩ :=
    exec_cancel (prepared_request prepared).2 able
  obtain ⟨named, bound⟩ := prepared_binding prepared
  constructor
  · rintro ⟨later, observed, ran, _⟩
    by_cases empty : state.runtime.entries = []
    · exact .inl empty
    cases matched : nativePromptMatchesBrief brief digest runner.binding.prompt with
    | false =>
      obtain ⟨error, read⟩ := unrecognized_observed matched journaled empty
      rw [answered, read] at ran
      cases ran
    | true =>
      refine .inr ⟨(prepared_prompt_matches_iff prepared).mp matched, ?_⟩
      cases unclosed : closed state.runtime.entries with
      | true => exact .inl rfl
      | false =>
        obtain ⟨_, pending, text, rfl, recorded⟩ := journaled_open journaled empty unclosed
        obtain ⟨_, read, _⟩ := recognized_observed prepared
          (.recorded ⟨named, bound, matched⟩ recorded) empty
        rw [answered, read, unclosed] at ran
        rw [← same] at recorded ⊢
        obtain ⟨outcome, _⟩ := exec_reconcileBeforeTerminal prepared matched recorded
          (fun call member => resolved call (same ▸ recorded.pending_subset member))
          (recorded.pending_length.trans_lt (same ▸ enough))
        exact .inr (outcome.mp (reconciled_of_cancelling ran))
  · intro settleable
    obtain ⟨observed, read, ends⟩ := settleable_observed prepared journaled settleable
    cases unclosed : closed state.runtime.entries with
    | true =>
      rw [unclosed] at read ends
      rw [read] at answered
      exact ⟨requested, observed, answered, ends⟩
    | false =>
      rw [unclosed] at read
      rw [read] at answered
      rw [← same] at journaled resolved enough settleable unclosed
      obtain ⟨later, last, reconciled, closing, finished, closed_journaled⟩ :=
        exec_settles prepared journaled resolved enough settleable unclosed
      obtain ⟨seen, looked, ends⟩ :=
        recognized_observed prepared closed_journaled (closed_ne_nil finished)
      obtain ⟨final, ran⟩ := exec_cancelling reconciled closing looked
      exact ⟨final, seen, answered.trans ran, ends.trans finished⟩

theorem worker_settles
    (settleable : Settleable brief runner place.gateway state.runtime.entries)
    {failure : NativeError} (reports : place.reports failure = true) :
    closed (exec (place.serve brief.invocationID)
      (boundary.finishWorker brief digest epoch (some failure)) state).1.runtime.entries =
        true := by
  rw [exec_finishWorker reports]
  cases unclosed : closed state.runtime.entries with
  | true => rw [exec_finish_closed unclosed, unclosed]
  | false =>
    obtain ⟨later, last, reconciled, closing, finished, _⟩ :=
      exec_settles prepared journaled resolved enough settleable unclosed
    rwa [exec_finish reports reconciled closing]

end Cancelled

/-- A session's journal that its runs have written, with every reserved effect resolved, is
settled by a cancellation and by the end of a failing worker exactly when it is empty, or has a
prompt that the boundary recognizes and is closed or reconcilable. -/
theorem session_settles_iff {pool : Pool (RuntimeState Prompt) (RunThread Prompt)}
    (reached : (runs runner.binding).Reaches {} pool)
    (loaded : state.runtime.entries = pool.shared.entries)
    (resolved : ∀ call ∈ recordedCalls pool.shared.entries, place.gateway.ledger call ≠ some none)
    (able : boundary.Able place state digest)
    (enough : (recordedCalls pool.shared.entries).length < boundary.fuel) :
    ((∃ later observed, exec (place.serve brief.invocationID)
          (boundary.cancel brief digest (conversationName brief.invocationID)) state =
            (later, .ok (observed, none)) ∧ ended observed.state = true) ∧
        ∀ epoch failure, place.reports failure = true →
          closed (exec (place.serve brief.invocationID)
            (boundary.finishWorker brief digest epoch (some failure)) state).1.runtime.entries =
              true) ↔
      Settleable brief runner place.gateway pool.shared.entries := by
  have journaled := (runs_sound reached).journaled
  rw [← loaded] at journaled resolved enough ⊢
  rw [cancel_settles_iff prepared journaled resolved enough able]
  refine ⟨And.left, fun settleable => ⟨settleable, fun epoch failure reports => ?_⟩⟩
  exact worker_settles prepared journaled resolved enough settleable reports

end Settlement

end

namespace Sample

def handler : MessageHandlerGrounding :=
  ⟨.number 9, "type", .other "", "purpose", .number 1, .number 1, "instructions", .number 1,
    some "", .number 1, some "", [], []⟩

def handlerProtocol : ExecutionResultProtocol :=
  ⟨"1.0.0", organizationalResultMarker, [], .handler⟩

def testingBrief : ExecutionBrief :=
  { brief with
    purpose := .validation
    messageHandler := some handler
    resultProtocol := some handlerProtocol
    roleGrounding := { role with permissions := ["repository.read", "test.execute"] } }

def testingConfig : Config :=
  { config with
    effects := true
    profile := { config.profile with allowedEffectTools := ["run_go_tests"] } }

def testingAuthority : Authority :=
  { authority with
    permissions := ["repository.read", "test.execute"]
    purpose := .validation }

def testingRunner : Runner Prompt :=
  sessionRunner testingBrief (.number 1) testingConfig true testingAuthority
    { prompt := nativeHandlerPrompt testingBrief (.number 1) false
      finalTool := submitResult
      finalize := some (library.handlerResult testingBrief testingConfig) }
    "instructions"

theorem testing_prepared :
    prepareSession hashes library testingBrief (.number 1) testingConfig
      ⟨.ok testingAuthority, .ok [], some ""⟩ = .ok testingRunner :=
  prepare_ok.mpr ⟨by decide, testingAuthority, by decide, _, rfl,
    by decide, "instructions", by decide, rfl⟩

def firstTurns (runner : Runner Prompt) :
    List (Turn (RunThread Prompt) (AgentRuntime.Surroundings Prompt) Empty) :=
  [.start ⟨⟨runner, 9, false⟩, none⟩, .step 0 {}, .step 0 {},
    .step 0 { model := .ok ⟨"", [⟨"call-1", "read_file", some "null"⟩]⟩ }, .step 0 {}]

def tested : Pool (RuntimeState Prompt) (RunThread Prompt) :=
  (firstTurns testingRunner).foldl (runs testingRunner.binding).turn ⟨{}, []⟩

/-- No effect was ever reserved. -/
def place (config : Config) : Place where
  gateway := ⟨fun _ => true, fun _ => none⟩
  config
  authority := .ok authority
  project := some ""
  ttl := 1
  cause := none

theorem boundary_able {config : Config} {runtime : RuntimeState Prompt} :
    (boundary "owner").Able (place config) { runtime } (.number 1) :=
  ⟨rfl, rfl, by decide, Int.one_ne_zero, Int.one_pos, nofun⟩

/-- A validation that may run tests cannot be cancelled after its first turn, and a worker of it
that fails leaves it open: the way back asks for the permission to edit. -/
theorem testing_session_unsettled :
    prepareSession hashes library testingBrief (.number 1) testingConfig
        ⟨.ok testingAuthority, .ok [], some ""⟩ = .ok testingRunner ∧
      (runs testingRunner.binding).Reaches {} tested ∧
      (exec ((place testingConfig).serve (.number 1))
        ((boundary "owner").cancel testingBrief (.number 1) (conversationName (.number 1)))
        { runtime := tested.shared }).2 = .error .invalidBinding ∧
      closed (exec ((place testingConfig).serve (.number 1))
        ((boundary "owner").finishWorker testingBrief (.number 1) 1
          (some (.run (.model "unreachable")))) { runtime := tested.shared }).1.runtime.entries =
        false :=
  ⟨testing_prepared, .turns _ .start, by decide, by decide⟩

def plainBegun : Pool (RuntimeState Prompt) (RunThread Prompt) :=
  (firstTurns plainRunner).foldl (runs plainRunner.binding).turn ⟨{}, []⟩

theorem plainBegun_reached : (runs plainRunner.binding).Reaches {} plainBegun := .turns _ .start

theorem plain_session_settles :
    (∃ later observed, exec ((place config).serve (.number 1))
        ((boundary "owner").cancel brief (.number 1) (conversationName (.number 1)))
        { runtime := plainBegun.shared } = (later, .ok (observed, none)) ∧
          ended observed.state = true) ∧
      ∀ epoch failure, (place config).reports failure = true →
        closed (exec ((place config).serve (.number 1))
          ((boundary "owner").finishWorker brief (.number 1) epoch (some failure))
          { runtime := plainBegun.shared }).1.runtime.entries = true := by
  have prepared : prepareSession (boundary "owner").hashes (boundary "owner").library brief
      (.number 1) (place config).config premises = .ok plainRunner := plain_prepared
  have unreserved : ∀ call ∈ recordedCalls plainBegun.shared.entries,
      (place config).gateway.ledger call ≠ some none := fun _ _ => by simp [place]
  exact (session_settles_iff prepared plainBegun_reached rfl unreserved boundary_able
    (by decide)).mpr (.inr ⟨.inr rfl, .inr (.inr rfl)⟩)

end Sample

end Tekroo.NativeAgent
