import Tekroo.NativeAgent.Settling
import Tekroo.Properties.Sessions

namespace Tekroo.NativeAgent

open Kernel Application Lib Checked Lib.Program Boundary
open AgentRuntime hiding Surroundings Delivery

variable {place : Place} {id : UUIDv7} {epoch : Nat} {runner : Runner Prompt}
  {pending : List ToolCall} {text : Option String} {state : BoundaryState} {brief : ExecutionBrief}
  {digest : Digest} {premises : Premises}

/-! # Reconciling the effects of a session

The session is prepared again, with the authority that its journal has recorded, and the effects
that it has reserved are reconciled.
-/

/-- The pending calls up to the first that is no effect or was not reserved are accepted by the
gateway. -/
def EffectGateway.drains (gateway : EffectGateway) (handles : String → Bool) :
    List ToolCall → Bool
  | [] => true
  | call :: rest =>
    !handles call.name ||
      gateway.accepts call && ((gateway.ledger call).isNone || gateway.drains handles rest)

/-- A part that ends well exactly when it should and leaves a journal of the same kind. -/
def Continues {ω : Type} (binding : Binding Prompt) (text : Option String) (good : Prop)
    (ran : BoundaryState × Except ω Unit) : Prop :=
  (ran.2 = .ok () ↔ good) ∧ ∃ rest, Recorded binding ran.1.runtime.entries rest text

section Drain

variable {log : List (AgentRuntime.Entry Prompt)} {fuel : Nat} (named : runner.binding.id = id)

include named

variable (place epoch) in
theorem exec_answer {call : ToolCall} {rest : List ToolCall} (loaded : state.runtime.entries = log)
    (recorded : Recorded runner.binding log (call :: rest) text) (output : String) :
    ∃ later, exec (place.under id epoch)
        (appendEntry log (.toolDone ⟨call.id, call.name, some output, ""⟩)) state =
          (later, .ok later.runtime.entries) ∧
      Recorded runner.binding later.runtime.entries rest text ∧
      callIDs later.runtime.entries = callIDs log := by
  subst loaded
  refine ⟨_, exec_appendEntry rfl recorded.lastSequence_eq, ?_, ?_⟩
  · rw [BoundaryState.appended_entries, written, ← named]
    exact recorded.result ⟨rfl, rfl⟩ rfl
  · simp [written, callIDs, Content.calls]

theorem exec_drain (recorded : Recorded runner.binding log pending text)
    (distinct : (callIDs log).Nodup) (loaded : state.runtime.entries = log)
    (enough : pending.length < fuel)
    (resolved : ∀ call ∈ pending, place.gateway.ledger call ≠ some none) :
    Continues runner.binding text (place.gateway.drains runner.handles pending = true)
      (exec (place.under id epoch) (runner.drain fuel log) state) := by
  induction pending generalizing log state fuel with
  | nil =>
    obtain ⟨fuel, rfl⟩ := Nat.exists_eq_add_one.mpr enough
    obtain ⟨replayed, accepted, waiting, unfinished⟩ := recorded.replay_eq distinct runner.finalize
    simp only [Runner.drain, accepted, waiting, unfinished]
    exact ⟨by simp [EffectGateway.drains], [], loaded ▸ recorded⟩
  | cons call others induction =>
    obtain ⟨fuel, rfl⟩ := Nat.exists_eq_add_one.mpr (Nat.zero_lt_of_lt enough)
    obtain ⟨replayed, accepted, waiting, unfinished⟩ := recorded.replay_eq distinct runner.finalize
    have known := resolved call List.mem_cons_self
    have kept : ∃ rest, Recorded runner.binding state.runtime.entries rest text :=
      ⟨_, loaded ▸ recorded⟩
    simp only [Runner.drain, accepted, waiting, unfinished, EffectGateway.drains]
    cases handled : runner.handles call.name with
    | false => exact ⟨by simp, kept⟩
    | true =>
      simp only [calling, exec_bind, exec_lift, run_request, under_reconcile,
        EffectGateway.reconcile, if_true]
      cases admitted : place.gateway.accepts call with
      | false => exact ⟨by simp, kept⟩
      | true =>
        cases reserved : place.gateway.ledger call with
        | none => exact ⟨by simp, kept⟩
        | some result =>
          cases result with
          | none => exact absurd reserved known
          | some output =>
            -- The loop goes on behind the result.
            obtain ⟨answered, appended, extended, same⟩ :=
              exec_answer place epoch named loaded recorded output
            simpa [appended] using induction extended (same ▸ distinct) rfl
              (Nat.lt_of_succ_lt_succ enough)
              fun other member => resolved other (List.mem_cons_of_mem _ member)

theorem exec_reconcilePendingEffects (valid : id.valid = true)
    (prompted : Text.isBlank runner.binding.prompt = false) (effects : runner.effects.isSome = true)
    (recorded : Recorded runner.binding log pending text) (loaded : state.runtime.entries = log)
    (enough : pending.length < fuel)
    (resolved : ∀ call ∈ pending, place.gateway.ledger call ≠ some none) :
    Continues runner.binding text
      ((callIDs log).Nodup ∧ place.gateway.drains runner.handles pending = true)
      (exec (place.under id epoch) (runner.reconcilePendingEffects fuel) state) := by
  have unblank : UUIDv7.isBlank runner.binding.id = false := by
    rw [named]
    cases id with
    | number value => rfl
    | text value => cases valid
  have drained : exec (place.under id epoch) (runner.reconcilePendingEffects fuel) state =
      exec (place.under id epoch) (runner.drain fuel log) state := by
    have nonempty := recorded.ne_nil
    simp [Runner.reconcilePendingEffects, calling, unblank, prompted,
      Option.isNone_eq_false_iff.mpr effects, loaded]
  rw [drained]
  by_cases distinct : (callIDs log).Nodup
  · simpa [distinct] using exec_drain named recorded distinct loaded enough resolved
  · -- Replay refuses the journal in the first round.
    obtain ⟨fuel, rfl⟩ := Nat.exists_eq_add_one.mpr (Nat.zero_lt_of_lt enough)
    cases read : replay runner.binding runner.finalize log with
    | ok replayed =>
      exact absurd ((recorded.replay_ok_iff runner.finalize).mp ⟨replayed, read⟩) distinct
    | error error =>
      rw [Runner.drain, read]
      exact ⟨by simp [distinct], pending, loaded ▸ recorded⟩

end Drain

section Again

variable {hashes : BriefHashes} {library : Library} {config : Config} {allowEffects : Bool}
  {entries : List (AgentRuntime.Entry Prompt)} {prompt : Prompt} {project : Option String}
  {snapshot : EffectAuthority}

theorem admitAuthority_ok {initial : Authority}
    (admitted : admitAuthority brief config allowEffects premises = .ok initial) :
    premises.authority = .ok initial ∧ isBlank initial.workspaceRoot = false ∧
      (allowEffects = true →
        initial.purpose = brief.purpose ∧
          initial.effectPolicyDigest = brief.effectPolicyDigest) := by
  unfold admitAuthority at admitted
  cases bound : premises.authority with
  | error reason =>
    rw [bound] at admitted
    cases admitted
  | ok found =>
    simp only [bound, chain_ok] at admitted
    obtain ⟨placed, agreed, _, _, _, _, rfl⟩ := admitted
    refine ⟨rfl, placed, fun effects => ?_⟩
    simpa [effects] using agreed

theorem systemPrompt_nonempty {instructions : String}
    (found : systemPrompt library brief digest config prompt premises = .ok instructions) :
    instructions ≠ "" := by
  simp only [systemPrompt, bind_ok] at found
  obtain ⟨recorded, read, found⟩ := found
  cases recorded with
  | none =>
    simp only [assembleInstructions] at found
    split at found
    · split at found
      · cases found
        exact (library.instructions _ _ _).2
      · cases found
    · cases found
  | some words =>
    cases found
    unfold recordedSystemPrompt at read
    split at read
    · cases read
    · cases read
    · split at read
      · split at read
        · next bound =>
          cases read
          simpa using (Bool.and_eq_true_iff.mp bound).2
        · cases read
      · cases read

theorem systemPrompt_recorded {authority : Except String Authority} {binding : Binding Prompt}
    (named : binding.id = brief.invocationID) (bound : binding.requestDigest = digest)
    (prompted : binding.prompt = prompt) (instructed : binding.systemPrompt ≠ "")
    (recorded : Recorded binding entries pending text) :
    systemPrompt library brief digest config prompt ⟨authority, .ok entries, project⟩ =
      .ok binding.systemPrompt := by
  obtain ⟨record, rest, rfl, binds⟩ := recorded.starts
  simp only [StartRecord.binds, tests_iff] at binds
  obtain ⟨⟨⟨⟨sameDigest, samePrompt⟩, sameInstructions⟩, _⟩, _⟩ := binds
  have read : recordedSystemPrompt brief digest prompt
      (.ok (⟨binding.id, 1, .started record⟩ :: rest)) = .ok (some binding.systemPrompt) := by
    simp [recordedSystemPrompt, named, bound, sameDigest, samePrompt, prompted,
      sameInstructions, instructed]
  simp only [systemPrompt, read]
  rfl

theorem prepare_again
    (prepared : prepare hashes library brief digest config true premises = .ok runner)
    (snapshotted : runner.binding.effectAuthority = some snapshot)
    (recorded : Recorded runner.binding entries pending text) :
    prepare hashes library brief digest config true
        ⟨.ok (staticAuthority brief snapshot), .ok entries, project⟩ =
      .ok runner := by
  obtain ⟨checked, initial, admitted, chosen, delivered, structured, instructions, found, rfl⟩ :=
    prepare_ok.mp prepared
  obtain ⟨bound, _, agreed⟩ := admitAuthority_ok admitted
  obtain ⟨purpose, policy⟩ := agreed rfl
  cases snapshotted
  have same : staticAuthority brief {
      workspaceRoot := initial.workspaceRoot
      permissions := initial.permissions
      purpose := purposeText initial.purpose
      effectPolicyDigest := initial.effectPolicyDigest } = initial := by
    simp [staticAuthority, ← purpose, ← policy]
  refine prepare_ok.mpr ⟨checked, initial, ?_, chosen, delivered, structured, instructions, ?_, rfl⟩
  · rw [← admitted]
    simp only [admitAuthority, bound, same]
  · exact systemPrompt_recorded rfl rfl rfl (systemPrompt_nonempty found) recorded

variable
  (prepared : prepare hashes library brief digest config allowEffects premises = .ok runner)

include prepared

theorem prepared_request :
    brief.invocationID.valid = true ∧ validBoundaryRequest hashes brief digest = true := by
  have encodable := prepared_encodable prepared
  obtain ⟨checked, _⟩ := prepare_ok.mp prepared
  simp only [checkRequest, chain_ok, tests_iff] at checked
  obtain ⟨_, bound, _⟩ := checked
  simp only [boundRequest, tests_iff, and_assoc] at bound
  obtain ⟨manifest, identified, valid, same, _⟩ := bound
  simp [validBoundaryRequest, manifest, identified, valid, encodable, ← same]

theorem prepared_prompt_filled : Text.isBlank runner.binding.prompt = false := by
  obtain ⟨_, initial, _, chosen, delivered, _, instructions, _, rfl⟩ := prepare_ok.mp prepared
  show Text.isBlank chosen.prompt = false
  rw [delivery_prompt delivered]
  split <;> rfl

theorem prepared_authority (snapshotted : runner.binding.effectAuthority = some snapshot) :
    allowEffects = true ∧ runner.effects.isSome = true ∧
      (snapshotAccepted brief snapshot = true ↔
        snapshot.permissions = brief.roleGrounding.permissions ∧
          snapshot.permissions.contains "repository.edit" = true) := by
  obtain ⟨_, initial, admitted, chosen, _, _, instructions, _, rfl⟩ := prepare_ok.mp prepared
  obtain ⟨_, placed, agreed⟩ := admitAuthority_ok admitted
  cases allowEffects with
  | false => cases snapshotted
  | true =>
    cases snapshotted
    obtain ⟨purpose, policy⟩ := agreed rfl
    have rooted : initial.workspaceRoot ≠ "" := by
      intro empty
      rw [empty] at placed
      exact absurd placed (by decide)
    refine ⟨rfl, rfl, ?_⟩
    simp [snapshotAccepted, rooted, purpose, policy]

end Again

/-- What the journal of a session needs for its effects to be reconciled. -/
def Reconcilable (brief : ExecutionBrief) (runner : Runner Prompt) (gateway : EffectGateway)
    (entries : List (AgentRuntime.Entry Prompt)) : Prop :=
  Boundary.endsWithStart entries = true ∨
    match runner.binding.effectAuthority with
    | none => Boundary.namesMutation entries = false
    | some snapshot =>
      snapshot.permissions = brief.roleGrounding.permissions ∧
        snapshot.permissions.contains "repository.edit" = true ∧
        (callIDs entries).Nodup ∧ gateway.drains runner.handles (pendingCalls entries) = true

section Reconcile

variable {boundary : Boundary}

theorem exec_configuration :
    exec (place.serve id) configuration state = (state, .ok place.config) := rfl

theorem exec_prepareWith {config : Config} {allowEffects : Bool}
    {authority : Except String Authority} :
    exec (place.serve id)
        (boundary.prepareWith brief digest epoch config allowEffects authority) state =
      (state, prepare boundary.hashes boundary.library brief digest config allowEffects
        ⟨authority, .ok state.runtime.entries, place.project⟩) := by
  have loaded : place.serve id state (.runtime epoch .load) =
      (state, .ok state.runtime.entries) := under_load
  have found : place.serve id state .project = (state, place.project) := rfl
  simp only [prepareWith, boundaryCall, exec_bind, exec_lift, run_request, loaded, found]
  cases prepare boundary.hashes boundary.library brief digest config allowEffects
    ⟨authority, .ok state.runtime.entries, place.project⟩ <;> rfl

variable
  (prepared : prepareSession boundary.hashes boundary.library brief digest place.config premises =
    .ok runner)

include prepared

theorem exec_reconcileSession {snapshot : EffectAuthority}
    (snapshotted : runner.binding.effectAuthority = some snapshot)
    (recorded : Recorded runner.binding state.runtime.entries pending text)
    (resolved : ∀ call ∈ pending, place.gateway.ledger call ≠ some none)
    (enough : pending.length < boundary.fuel) :
    Continues runner.binding text (snapshot.permissions = brief.roleGrounding.permissions ∧
        snapshot.permissions.contains "repository.edit" = true ∧
        (callIDs state.runtime.entries).Nodup ∧
        place.gateway.drains runner.handles pending = true)
      (exec (place.serve brief.invocationID)
        (boundary.reconcileSession brief digest epoch snapshot) state) := by
  obtain ⟨effects, handled, accepted⟩ := prepared_authority prepared snapshotted
  rw [← and_assoc, ← accepted]
  unfold reconcileSession
  cases known : snapshotAccepted brief snapshot with
  | false => exact ⟨by simp, pending, recorded⟩
  | true =>
    have again : prepare boundary.hashes boundary.library brief digest place.config true
        ⟨.ok (staticAuthority brief snapshot), .ok state.runtime.entries,
          place.project⟩ = .ok runner := by
      rw [prepareSession, effects] at prepared
      exact prepare_again prepared snapshotted recorded
    obtain ⟨outcome, kept⟩ := exec_reconcilePendingEffects (prepared_binding prepared).1
      (prepared_request prepared).1 (prepared_prompt_filled prepared) handled recorded rfl
      enough resolved
    simp only [Bool.not_true, Bool.false_eq_true, if_false, true_and, exec_bind,
      exec_configuration, exec_prepareWith, again, exec_underLease, ← outcome]
    exact ⟨by cases (exec _ _ _).2 <;> simp [Except.mapError], kept⟩

theorem exec_reconcileBeforeTerminal
    (matched : nativePromptMatchesBrief brief digest runner.binding.prompt = true)
    (recorded : Recorded runner.binding state.runtime.entries pending text)
    (resolved : ∀ call ∈ pending, place.gateway.ledger call ≠ some none)
    (enough : pending.length < boundary.fuel) :
    Continues runner.binding text (Reconcilable brief runner place.gateway state.runtime.entries)
      (exec (place.serve brief.invocationID)
        (boundary.reconcileBeforeTerminal brief digest epoch) state) := by
  obtain ⟨named, bound⟩ := prepared_binding prepared
  have nonempty := recorded.ne_nil
  have recognized : ∀ {binding}, binding = runner.binding → Recognized brief digest binding := by
    rintro _ rfl
    exact ⟨named, bound, matched⟩
  obtain ⟨record, others, same, _, _, authority⟩ :=
    journaled_recognized (prepared_encodable prepared) recognized (.recorded rfl recorded)
      nonempty
  obtain ⟨start, rest, same', binds⟩ := recorded.starts
  have recordedAuthority : record.effectAuthority = runner.binding.effectAuthority := by
    simp only [same, List.cons.injEq, AgentRuntime.Entry.mk.injEq, Content.started.injEq] at same'
    obtain ⟨⟨_, _, rfl⟩, _⟩ := same'
    simp only [StartRecord.binds, tests_iff] at binds
    exact binds.2
  rw [recordedAuthority] at authority
  simp only [reconcileBeforeTerminal, exec_bind, exec_loadJournal,
    List.isEmpty_eq_false_iff.mpr nonempty, Bool.false_or, Reconcilable]
  cases fresh : endsWithStart state.runtime.entries with
  | true => exact ⟨by simp, pending, recorded⟩
  | false =>
    simp only [Bool.false_eq_true, if_false, false_or, reconcileEntries]
    rw [authority]
    cases snapshotted : runner.binding.effectAuthority with
    | none =>
      cases namesMutation state.runtime.entries <;> exact ⟨by simp, pending, recorded⟩
    | some snapshot =>
      rw [recorded.pendingCalls_eq]
      exact exec_reconcileSession prepared snapshotted recorded resolved enough

end Reconcile

end Tekroo.NativeAgent
