import Tekroo.AgentRuntime.Runner

namespace Tekroo.AgentRuntime

open Kernel Lib Program RuntimeState

/-! # What a runner keeps of the journal

Every copy that a runner holds is a beginning of the journal, so an append that the journal takes
was made on the journal itself.
-/

variable {Prompt : Type} [DecidableEq Prompt]

/-- A journal of the runners with a binding in `own`: empty, open or closed. -/
inductive Journaled (own : Binding Prompt → Prop) : List (Entry Prompt) → Prop
  | empty : Journaled own []
  | recorded {binding : Binding Prompt} {log : List (Entry Prompt)} {pending : List ToolCall}
      {text : Option String} (mine : own binding)
      (recorded : Recorded binding log pending text) : Journaled own log
  | closed {binding : Binding Prompt} {log : List (Entry Prompt)} {pending : List ToolCall}
      {text : Option String} {content : Content Prompt} (mine : own binding)
      (recorded : Recorded binding log pending text) (terminal : content.terminal = true) :
      Journaled own (log ++ [⟨binding.id, log.length + 1, content⟩])

section Order

variable {own : Binding Prompt → Prop} {entries front back : List (Entry Prompt)}
  {entry : Entry Prompt}

theorem Journaled.weaken {wider : Binding Prompt → Prop} (journaled : Journaled own entries)
    (implies : ∀ {binding}, own binding → wider binding) : Journaled wider entries := by
  cases journaled with
  | empty => exact .empty
  | recorded mine recorded => exact .recorded (implies mine) recorded
  | closed mine recorded terminal => exact .closed (implies mine) recorded terminal

theorem Journaled.starts (journaled : Journaled own entries) (nonempty : entries ≠ []) :
    ∃ binding record rest, own binding ∧ entries = ⟨binding.id, 1, .started record⟩ :: rest ∧
      record.binds binding = true := by
  cases journaled with
  | empty => exact absurd rfl nonempty
  | recorded mine recorded =>
    obtain ⟨record, rest, same, binds⟩ := recorded.starts
    exact ⟨_, record, rest, mine, same, binds⟩
  | closed mine recorded terminal =>
    obtain ⟨record, rest, rfl, binds⟩ := recorded.starts
    exact ⟨_, record, _, mine, List.cons_append .., binds⟩

theorem Journaled.terminal_last (journaled : Journaled own (front ++ entry :: back))
    (terminal : entry.content.terminal = true) : back = [] := by
  generalize whole : front ++ entry :: back = entries at journaled
  cases journaled with
  | empty => simp at whole
  | recorded mine recorded =>
    have open' := recorded.not_terminal entry (by simp [← whole])
    exact absurd (open'.symm.trans terminal) (by simp)
  | closed mine recorded ended =>
    rcases List.eq_nil_or_concat back with rfl | ⟨others, last, rfl⟩
    · rfl
    · rw [List.concat_eq_append, ← List.cons_append, ← List.append_assoc] at whole
      have same := (List.append_inj' whole rfl).1
      have open' := recorded.not_terminal entry (by simp [← same])
      exact absurd (open'.symm.trans terminal) (by simp)

theorem Journaled.results_in_order (journaled : Journaled own entries)
    (beginning : front <+: entries) :
    (recordedResults front).map ToolResult.identity <+:
      (recordedCalls front).map ToolCall.identity := by
  by_cases empty : front = []
  · subst empty
    exact List.prefix_rfl
  · have recorded_in_order : ∀ {binding : Binding Prompt} {log front : List (Entry Prompt)}
        {pending text}, Recorded binding log pending text → front ≠ [] → front <+: log →
        (recordedResults front).map ToolResult.identity <+:
          (recordedCalls front).map ToolCall.identity := by
      intro binding log front pending text recorded nonempty beginning
      obtain ⟨_, _, recorded⟩ := recorded.prefix_recorded nonempty beginning
      exact ⟨_, recorded.results_pending⟩
    cases journaled with
    | empty => exact absurd (List.prefix_nil.mp beginning) empty
    | recorded mine recorded => exact recorded_in_order recorded empty beginning
    | @closed _ log _ _ content mine recorded terminal =>
      rcases List.prefix_concat_iff.mp beginning with rfl | earlier
      · have silent : content.calls = [] ∧ content.result? = none := by
          cases content <;> simp_all [Content.terminal, Content.calls, Content.result?]
        simpa [silent.1, silent.2] using
          recorded_in_order recorded recorded.ne_nil List.prefix_rfl
      · exact recorded_in_order recorded empty earlier

end Order

structure RuntimeState.Sound (own : Binding Prompt → Prop) (state : RuntimeState Prompt) :
    Prop where
  journaled : Journaled own state.entries
  asked : ∀ copy ∈ state.asked, copy <+: state.entries ∧
    ∃ binding text, own binding ∧ Recorded binding copy [] text

theorem RuntimeState.Sound.empty {own : Binding Prompt → Prop} :
    RuntimeState.Sound own ({} : RuntimeState Prompt) :=
  ⟨.empty, by simp⟩

def conduct (id : UUIDv7) (own : Binding Prompt → Prop) :
    Discipline (RuntimeCall Prompt) RuntimeCall.Answer (RuntimeState Prompt)
      (Surroundings Prompt) where
  serve := RuntimeState.serve id
  Holds := RuntimeState.Sound own
  Grows before after := before.entries <+: after.entries
  refl _ := List.prefix_rfl
  trans := List.IsPrefix.trans

variable {id : UUIDv7} {own : Binding Prompt → Prop} {state : RuntimeState Prompt}
  {entries : List (Entry Prompt)} {content : Content Prompt} {α ω : Type}
  {post : RuntimeState Prompt → α → Prop} {call : RuntimeCall Prompt}

abbrev Calling (Prompt ω α : Type) :=
  ExceptT ω (Program (RuntimeCall Prompt) RuntimeCall.Answer) α

theorem yields_silent {rest : call.Answer → Calling Prompt ω α}
    (silent : ∀ (state : RuntimeState Prompt) around, (state.serve id call around).1 = state)
    (next : ∀ (current : RuntimeState Prompt) answer, state.entries <+: current.entries → Yields
      (conduct id own) post (rest answer) current) :
    Yields (conduct id own) post (ExceptT.lift (request call) >>= rest)
      state := by
  intro current around grown sound
  have same : ((conduct id own).serve current call around).1 = current := silent current around
  rw [same]
  exact ⟨sound, List.prefix_rfl, next current _ grown⟩

theorem yields_silent_call
    (silent : ∀ (state : RuntimeState Prompt) around, (state.serve id call around).1 = state) :
    Yields (conduct id own) (fun current _ => state.entries <+: current.entries)
      (calling call) state := by
  refine yields_call ?_
  intro current around grown sound
  have same : ((conduct id own).serve current call around).1 = current := silent current around
  rw [same]
  exact ⟨sound, List.prefix_rfl, grown⟩

theorem yields_load {rest : Except Unit (List (Entry Prompt)) → Calling Prompt ω α}
    (failed : ∀ {current : RuntimeState Prompt}, state.entries <+: current.entries →
      Yields (conduct id own) post (rest (.error ())) current)
    (loaded : ∀ {current : RuntimeState Prompt}, state.entries <+: current.entries →
      current.Sound own →
      Yields (conduct id own) post (rest (.ok current.entries)) current) :
    Yields (conduct id own) post (ExceptT.lift (request .load) >>= rest)
      state := by
  intro current around grown sound
  refine ⟨sound, List.prefix_rfl, ?_⟩
  by_cases broken : around.journal = .failed
  · have answer : ((conduct id own).serve current .load around).2 = .error () := by
      simp [conduct, serve, broken]
    rw [answer]
    exact failed grown
  · have answer : ((conduct id own).serve current .load around).2 = .ok current.entries := by
      simp [conduct, serve, broken]
    rw [answer]
    exact loaded grown sound

def written (id : UUIDv7) (entries : List (Entry Prompt)) (content : Content Prompt) :
    List (Entry Prompt) :=
  entries ++ [⟨id, entries.length + 1, content⟩]

theorem yields_append {rest : Except Unit (Entry Prompt) → Calling Prompt ω α}
    (copied : entries <+: state.entries) (extended : Journaled own (written id entries content))
    (refused : ∀ {current : RuntimeState Prompt}, state.entries <+: current.entries →
      Yields (conduct id own) post (rest (.error ())) current)
    (acknowledged : ∀ {current : RuntimeState Prompt},
      written id entries content <+: current.entries →
      Yields (conduct id own) post (rest (.ok ⟨id, entries.length + 1, content⟩)) current) :
    Yields (conduct id own) post
      (ExceptT.lift (request (.append entries.length content)) >>= rest) state := by
  intro current around grown sound
  by_cases taken : (entries.length == current.entries.length && around.journal != .failed) = true
  · have same : entries = current.entries :=
      (copied.trans grown).eq_of_length (by simpa using (Bool.and_eq_true_iff.mp taken).1)
    obtain ⟨kept, asked⟩ := current
    subst same
    have served : (conduct id own).serve ⟨entries, asked⟩ (.append entries.length content) around =
        (⟨written id entries content, asked⟩,
          if around.journal == .lost then .error ()
          else .ok ⟨id, entries.length + 1, content⟩) := by
      simp only [conduct, serve, taken, if_true]
      rfl
    have grows : entries <+: written id entries content := List.prefix_append _ _
    rw [served]
    refine ⟨⟨extended, fun copy member => ?_⟩, grows, ?_⟩
    · obtain ⟨beginning, recorded⟩ := sound.asked copy member
      exact ⟨beginning.trans grows, recorded⟩
    · by_cases lost : around.journal = .lost
      · simp only [lost, beq_self_eq_true, if_true]
        exact refused (grown.trans grows)
      · simp only [beq_eq_false_iff_ne.mpr lost, Bool.false_eq_true, if_false]
        exact acknowledged List.prefix_rfl
  · have served : (conduct id own).serve current (.append entries.length content) around =
        (current, .error ()) := by
      simp only [conduct, serve, taken]
      rfl
    rw [served]
    exact ⟨sound, List.prefix_rfl, refused grown⟩

section Append

variable (identified : ∀ {binding}, own binding → binding.id = id)

include identified

theorem Journaled.placed (journaled : Journaled own entries) {index : Nat} {entry : Entry Prompt}
    (found : entries[index]? = some entry) : entry.placed id index = true := by
  cases journaled with
  | empty => cases found
  | recorded mine recorded => exact identified mine ▸ recorded.placed found
  | @closed _ log _ _ _ mine recorded terminal =>
    rcases Nat.lt_or_ge index log.length with earlier | last
    · rw [List.getElem?_append_left earlier] at found
      exact identified mine ▸ recorded.placed found
    · rw [List.getElem?_append_right last, List.getElem?_singleton] at found
      split at found
      · cases found
        simp only [Entry.placed, identified mine, beq_self_eq_true, Bool.true_and, beq_iff_eq]
        omega
      · cases found

theorem Journaled.invocationID_eq (journaled : Journaled own entries) :
    ∀ entry ∈ entries, entry.invocationID = id := by
  intro entry member
  obtain ⟨index, found⟩ := List.mem_iff_getElem?.mp member
  have placed := journaled.placed identified found
  simp only [Entry.placed, tests_iff] at placed
  exact placed.1

theorem appendEntry_yields (copied : entries <+: state.entries)
    (numbered : lastSequence entries = entries.length)
    (extended : Journaled own (written id entries content)) :
    Yields (conduct id own)
      (fun current later => written id entries content <+: later ∧ later <+: current.entries)
      (appendEntry entries content) state := by
  unfold appendEntry
  rw [numbered]
  refine yields_append copied extended ?_ ?_
  · intro current grown
    refine yields_load (fun _ => .throw _) ?_
    intro latest further sound
    have copy : entries <+: latest.entries := copied.trans (grown.trans further)
    dsimp only
    cases found : latest.entries[entries.length]? with
    | none => exact .throw _
    | some last =>
      dsimp only
      split
      · next same =>
        simp only [tests_iff] at same
        obtain ⟨sequence, rfl⟩ := same
        refine .pure ⟨?_, List.prefix_rfl⟩
        obtain ⟨rest, whole⟩ := copy
        have member := sound.journaled.invocationID_eq identified last
          (List.mem_of_getElem? found)
        cases rest with
        | nil => simp [← whole] at found
        | cons entry others =>
          simp only [← whole, Nat.le_refl, List.getElem?_append_right, Nat.sub_self,
            List.getElem?_cons_zero, Option.some.injEq] at found
          subst found
          refine ⟨others, ?_⟩
          rw [← whole, written, List.append_assoc, ← member, ← sequence]
          rfl
      · exact .throw _
  · intro current done
    exact .pure ⟨List.prefix_rfl, done⟩

end Append

/-- What a round leaves: the finished text in the journal, or a newer copy. -/
def Turned (id : UUIDv7) (state : RuntimeState Prompt) : String ⊕ List (Entry Prompt) → Prop
  | .inl text => ∃ front, written id front (.finished text) <+: state.entries
  | .inr later => later <+: state.entries

theorem recalled_valid {retrieved : Except ContextError SemanticContext} {memory : SemanticContext}
    (kept : Runner.recalled retrieved = .ok memory) : validSemanticContext memory = true := by
  cases retrieved with
  | error reason =>
    cases reason with
    | invalidConfiguration => cases kept
    | unavailable =>
      cases kept
      decide
  | ok found =>
    simp only [Runner.recalled, Except.ok.injEq] at kept
    split at kept
    · next valid => exact kept ▸ valid
    · subst kept
      decide

namespace Runner

variable (runner : Runner Prompt) {entries : List (Entry Prompt)}

theorem finalVerdict_yields (call : ToolCall) :
    Yields (conduct id own) (fun current _ => state.entries <+: current.entries)
      (runner.finalVerdict call) state := by
  unfold finalVerdict
  cases runner.finalize with
  | none => exact .throw _
  | some finalize =>
    cases decided : finalize call.arguments with
    | error reason =>
      simp only [decided]
      exact .pure List.prefix_rfl
    | ok output =>
      simp only [decided]
      split
      · refine yields_silent (fun _ _ => rfl) ?_
        intro current verdict grown
        cases verdict <;> exact .pure grown
      · exact .pure List.prefix_rfl

theorem execute_yields (call : ToolCall) :
    Yields (conduct id own) (fun current _ => state.entries <+: current.entries)
      (runner.execute call) state := by
  unfold execute
  split
  · exact yields_silent_call fun _ _ => rfl
  · exact yields_silent_call fun _ _ => rfl

theorem condenseHistory_yields (messages : List (Message Prompt)) :
    Yields (conduct id own) (fun current _ => state.entries <+: current.entries)
      (runner.condenseHistory messages) state := by
  unfold condenseHistory
  split
  · split
    · exact .throw _
    · refine yields_silent (fun _ _ => rfl) ?_
      intro current condensed grown
      cases condensed with
      | error reason => exact .throw _
      | ok condensed =>
        dsimp only
        split
        · exact .throw _
        · exact .pure grown
  · exact .pure List.prefix_rfl

theorem retrieve_yields :
    Yields (conduct id own) (fun current _ => state.entries <+: current.entries)
      runner.retrieve state := by
  unfold retrieve
  split
  · exact yields_silent_call fun _ _ => rfl
  · exact .pure List.prefix_rfl

theorem spokenText_eq {words : String} {turns : Nat} {pending : List ToolCall}
    (recorded : Recorded runner.binding entries pending (some words)) (counted : 0 < turns) :
    runner.spokenText entries turns = some words := by
  obtain ⟨_, unbound, front, response, rfl, silent, rfl⟩ := recorded.spoken
  simp [spokenText, counted, unbound, silent]

end Runner

section Runner

variable {runner : Runner Prompt} (identified : ∀ {binding}, own binding → binding.id = id)
  (mine : own runner.binding) {call : ToolCall} {rest : List ToolCall} {text : Option String}
  (fuel : Nat)

include identified mine

theorem Runner.finish_yields {pending : List ToolCall}
    (recorded : Recorded runner.binding entries pending text)
    (copied : entries <+: state.entries) (output : String) :
    Yields (conduct id own) (Turned id)
      (do let _ ← appendEntry entries (.finished output); return .inl output) state := by
  have extended : Journaled own (written id entries (.finished output)) := by
    rw [written, ← identified mine]
    exact .closed mine recorded rfl
  refine (appendEntry_yields identified copied recorded.lastSequence_eq extended).bind ?_
  intro current later done
  exact .pure ⟨entries, done.1.trans done.2⟩

section Answering

variable (recorded : Recorded runner.binding entries (call :: rest) text)
  (copied : entries <+: state.entries)

include recorded copied

theorem Runner.result_yields (output error : String) :
    Yields (conduct id own) (fun current later => later <+: current.entries)
      (appendEntry entries (.toolDone ⟨call.id, call.name, some output, error⟩)) state := by
  have extended : Journaled own
      (written id entries (.toolDone ⟨call.id, call.name, some output, error⟩)) := by
    rw [written, ← identified mine]
    exact .recorded mine (recorded.result ⟨rfl, rfl⟩ rfl)
  exact (appendEntry_yields identified copied recorded.lastSequence_eq extended).weaken And.right

theorem Runner.reply_yields (output error : String) :
    Yields (conduct id own) (Turned id)
      (do return .inr (← appendEntry entries
        (.toolDone ⟨call.id, call.name, some output, error⟩))) state :=
  (result_yields identified mine recorded copied output error).bind fun copied => .pure copied

theorem Runner.submit_yields :
    Yields (conduct id own) (Turned id) (runner.submit entries call) state := by
  refine (runner.finalVerdict_yields call).bind ?_
  intro current verdict grown
  cases verdict with
  | error reason =>
    dsimp only
    split
    · exact .throw _
    · exact reply_yields identified mine recorded (copied.trans grown) _ _
  | ok output => exact finish_yields identified mine recorded (copied.trans grown) output

theorem Runner.answer_yields :
    Yields (conduct id own) (Turned id) (runner.answer entries call) state := by
  refine (runner.execute_yields call).bind ?_
  intro current outcome grown
  match outcome with
  | .error .uncertain | .ok none => exact .throw _
  | .error (.failed reason) =>
    exact reply_yields identified mine recorded (copied.trans grown) "null" reason
  | .ok (some output) => exact reply_yields identified mine recorded (copied.trans grown) output ""

end Answering

theorem Runner.ask_yields (replayed : Replayed Prompt)
    (recorded : Recorded runner.binding entries [] none) (copied : entries <+: state.entries) :
    Yields (conduct id own) (Turned id) (runner.ask entries replayed) state := by
  unfold ask
  split
  · exact .throw _
  · refine (runner.condenseHistory_yields replayed.messages).bind ?_
    intro condensed messages grown
    refine yields_call_bind.mpr ?_
    intro current around further sound
    have copy : entries <+: current.entries := copied.trans (grown.trans further)
    refine ⟨⟨sound.journaled, ?_⟩, List.prefix_rfl, ?_⟩
    · intro asked member
      rcases List.mem_append.mp member with earlier | new
      · exact sound.asked asked earlier
      · rw [List.mem_singleton.mp new]
        exact ⟨copy, runner.binding, none, mine, recorded⟩
    · rw [show ((conduct id own).serve current (.complete entries messages) around).2 =
        around.model from rfl]
      cases around.model with
      | error reason => exact .throw _
      | ok response =>
        cases checked : validateCompletion response runner.binding.finalTool with
        | error reason =>
          simp only [checked]
          exact .throw _
        | ok result =>
          simp only [checked]
          have extended : Journaled own (written id entries (.modelTurn response)) := by
            rw [written, ← identified mine]
            exact .recorded mine (recorded.turn checked)
          refine (appendEntry_yields identified copy recorded.lastSequence_eq extended).bind ?_
          intro latest later done
          exact .pure done.2

theorem Runner.next_yields {replayed : Replayed Prompt}
    (recorded : Recorded runner.binding entries [] text)
    (counted : text.isSome = true → 0 < replayed.turns) (copied : entries <+: state.entries) :
    Yields (conduct id own) (Turned id) (runner.next entries replayed) state := by
  unfold next
  dsimp only
  split
  · exact .throw _
  · cases spoken : runner.spokenText entries replayed.turns with
    | some words => exact finish_yields identified mine recorded copied words
    | none =>
      cases text with
      | some words => simp [runner.spokenText_eq recorded (counted rfl)] at spoken
      | none => exact ask_yields identified mine replayed recorded copied

theorem Runner.round_yields (copied : entries <+: state.entries) :
    Yields (conduct id own) (Turned id) (runner.round entries) state := by
  unfold round
  cases accepted : replay runner.binding runner.finalize entries with
  | error reason => exact .throw _
  | ok replayed =>
    dsimp only
    rcases replay_ok accepted with
      ⟨unfinished, _, text, recorded, counted⟩ | ⟨front, _, text, _, finished, rfl, _⟩
    · rw [unfinished]
      cases waiting : replayed.pending with
      | nil => exact next_yields identified mine (waiting ▸ recorded) counted copied
      | cons call rest =>
        rw [waiting] at recorded
        dsimp only
        split
        · exact submit_yields identified mine recorded copied
        · exact answer_yields identified mine recorded copied
    · rw [finished]
      exact .pure ⟨front, by rwa [written, ← identified mine]⟩

theorem Runner.rounds_yields (copied : entries <+: state.entries) :
    Yields (conduct id own) (fun current text => Turned id current (.inl text))
      (runner.rounds fuel entries) state := by
  induction fuel generalizing state entries with
  | zero => exact .throw _
  | succ fuel induction =>
    refine (round_yields identified mine copied).bind ?_
    intro current outcome turned
    cases outcome with
    | inl text => exact .pure turned
    | inr later => exact induction turned

theorem Runner.start_yields :
    Yields (conduct id own) (fun current later => later <+: current.entries)
      runner.start state := by
  refine runner.retrieve_yields.bind ?_
  intro current retrieved _
  cases kept : recalled retrieved with
  | error reason => exact .throw _
  | ok memory =>
    have accepted : (runner.startRecord memory).contextAccepted = true := by
      have valid := recalled_valid kept
      have named : memory.status ≠ "" := by
        intro unnamed
        simp [validSemanticContext, unnamed] at valid
      simp [StartRecord.contextAccepted, startRecord, valid, named]
    have extended : Journaled own (written id [] (.started (runner.startRecord memory))) := by
      rw [written, ← identified mine]
      exact .recorded mine (.started _ (by simp [StartRecord.binds, startRecord]) accepted)
    exact (appendEntry_yields identified (List.nil_prefix) rfl extended).weaken And.right

theorem Runner.drain_yields (copied : entries <+: state.entries) :
    Yields (conduct id own) (fun _ _ => True) (runner.drain fuel entries) state := by
  induction fuel generalizing state entries with
  | zero => exact .throw _
  | succ fuel induction =>
    unfold drain
    cases accepted : replay runner.binding runner.finalize entries with
    | error reason => exact .throw _
    | ok replayed =>
      dsimp only
      split
      · next call rest unfinished waiting =>
        split
        · rcases replay_ok accepted with ⟨_, _, text, recorded, _⟩ | ⟨_, _, _, _, finished, _⟩
          · rw [waiting] at recorded
            refine yields_silent (fun _ _ => rfl) ?_
            intro current outcome grown
            match outcome with
            | .error _ | .ok (some none) => exact .throw _
            | .ok none => exact .pure trivial
            | .ok (some (some output)) =>
              exact (result_yields identified mine recorded (copied.trans grown)
                output "").bind induction
          · exact absurd (unfinished.symm.trans finished) (by simp)
        · exact .pure trivial
      · exact .pure trivial

variable [Text Prompt]

theorem Runner.run_yields :
    Yields (conduct id own) (fun current text => Turned id current (.inl text))
      (runner.run fuel) state := by
  unfold run
  split
  · exact .throw _
  · refine yields_load (fun _ => .throw _) ?_
    intro current _ sound
    cases loaded : current.entries with
    | nil =>
      refine (start_yields identified mine).bind ?_
      intro latest later copied
      exact rounds_yields identified mine fuel copied
    | cons first rest => exact rounds_yields identified mine fuel (loaded ▸ List.prefix_rfl)

theorem Runner.reconcilePendingEffects_yields :
    Yields (conduct id own) (fun _ _ => True) (runner.reconcilePendingEffects fuel)
      state := by
  unfold reconcilePendingEffects
  split
  · exact .throw _
  · refine yields_load (fun _ => .throw _) ?_
    intro current _ sound
    cases loaded : current.entries with
    | nil => exact .pure trivial
    | cons first rest => exact drain_yields identified mine fuel (loaded ▸ List.prefix_rfl)

end Runner

end Tekroo.AgentRuntime
