import Tekroo.AgentRuntime.Replay

namespace Tekroo.AgentRuntime

open Kernel Checked Content

/-! # The journals that replay accepts

`Recorded` is the grammar of a journal without a terminal entry.  Replay accepts the journals of
that grammar in which no call id occurs twice, and no others.
-/

variable {Prompt : Type} {binding : Binding Prompt} {log front back : List (Entry Prompt)}

def follow (binding : Binding Prompt) (index : Nat) (transcript : Transcript Prompt) :
    List (Entry Prompt) → Except RunError (Transcript Prompt)
  | [] => .ok transcript
  | entry :: rest => do
    refuse (!entry.placed binding.id index) .invalidTurn
    let next ← transcript.read binding.finalTool entry.content
    follow binding (index + 1) next rest

variable {index : Nat} {transcript after : Transcript Prompt} {finalize : Option Finalize}
  {replayed : Replayed Prompt} {entry : Entry Prompt} {rest : List (Entry Prompt)}

theorem follow_cons :
    follow binding index transcript (entry :: rest) = .ok after ↔
      entry.placed binding.id index = true ∧
        ∃ next, transcript.read binding.finalTool entry.content = .ok next ∧
          follow binding (index + 1) next rest = .ok after := by
  simp only [follow, chain_ok, tests_iff]

theorem follow_append :
    follow binding index transcript (front ++ back) = .ok after ↔
      ∃ middle, follow binding index transcript front = .ok middle ∧
        follow binding (index + front.length) middle back = .ok after := by
  induction front generalizing index transcript with
  | nil => simp [follow]
  | cons entry rest induction =>
    simp only [List.cons_append, follow_cons, induction, List.length_cons, Nat.add_assoc,
      Nat.add_comm 1]
    constructor
    · rintro ⟨placed, next, read, middle, followed, last⟩
      exact ⟨middle, ⟨placed, next, read, followed⟩, last⟩
    · rintro ⟨middle, ⟨placed, next, read, followed⟩, last⟩
      exact ⟨placed, next, read, middle, followed, last⟩

theorem replayEntries_ok
    (read : replayEntries binding finalize index transcript log = .ok replayed) :
    (∃ after, follow binding index transcript log = .ok after ∧
        replayed = ⟨after.messages, after.outstanding, none, after.turns⟩) ∨
      ∃ front after text,
        log = front ++ [⟨binding.id, index + front.length + 1, .finished text⟩] ∧
          follow binding index transcript front = .ok after ∧
          replayed = ⟨after.messages, [], some text, after.turns⟩ := by
  induction log generalizing index transcript with
  | nil =>
    cases read
    exact .inl ⟨transcript, rfl, rfl⟩
  | cons entry rest induction =>
    simp only [replayEntries, chain_ok, tests_iff] at read
    obtain ⟨placed, read⟩ := read
    split at read
    · next text finishing =>
      simp only [chain_ok, tests_iff, List.isEmpty_iff] at read
      obtain ⟨rfl, _, rfl⟩ := read
      obtain ⟨id, sequence, content⟩ := entry
      simp only [Entry.placed, tests_iff] at placed finishing
      obtain ⟨rfl, rfl⟩ := placed
      subst finishing
      exact .inr ⟨[], transcript, text, rfl, rfl, rfl⟩
    · simp only [bind_ok] at read
      obtain ⟨next, noted, read⟩ := read
      rcases induction read with ⟨after, followed, rfl⟩ | ⟨front, after, text, rfl, followed, rfl⟩
      · exact .inl ⟨after, follow_cons.mpr ⟨placed, next, noted, followed⟩, rfl⟩
      · refine .inr ⟨entry :: front, after, text, ?_,
          follow_cons.mpr ⟨placed, next, noted, followed⟩, rfl⟩
        simp [Nat.add_assoc, Nat.add_comm 1]

theorem replayEntries_follow (followed : follow binding index transcript log = .ok after) :
    replayEntries binding finalize index transcript log =
      .ok ⟨after.messages, after.outstanding, none, after.turns⟩ := by
  induction log generalizing index transcript with
  | nil =>
    cases followed
    rfl
  | cons entry rest induction =>
    obtain ⟨placed, next, read, followed⟩ := follow_cons.mp followed
    cases content : entry.content with
    | modelTurn response | toolDone result =>
      rw [content] at read
      simp [replayEntries, refuse, placed, content, read, induction followed]
    | started | finished | failed | cancelled | timedOut =>
      rw [content] at read
      cases read

def callIDs (entries : List (Entry Prompt)) : List String :=
  (recordedCalls entries).map ToolCall.id

@[simp] theorem callIDs_append : callIDs (front ++ back) = callIDs front ++ callIDs back := by
  simp [callIDs]

theorem Transcript.turn_ok {finalTool : String} {response : Completion} :
    transcript.turn finalTool response = .ok after ↔
      transcript.outstanding = [] ∧ transcript.finalText = none ∧
        validateCompletion response finalTool = .ok () ∧
        (∀ call ∈ response.toolCalls, call.id ∉ transcript.seenCalls) ∧
        after = {
          messages := transcript.messages ++ [.assistant response.text response.toolCalls]
          outstanding := response.toolCalls
          seenCalls := transcript.seenCalls ++ response.toolCalls.map ToolCall.id
          turns := transcript.turns + 1
          finalText :=
            if response.toolCalls.isEmpty && finalTool == "" then some response.text
            else none } := by
  simp only [turn, chain_ok, tests_iff, List.isEmpty_iff, Option.isSome_eq_false_iff,
    Option.isNone_iff_eq_none, and_assoc]
  constructor
  · rintro ⟨settled, unspoken, checked, noted, remembered, rfl⟩
    obtain ⟨rfl, absent⟩ := (noteCalls_ok (validateCompletion_distinct checked)).mp remembered
    exact ⟨settled, unspoken, checked, absent, by rw [unspoken]⟩
  · rintro ⟨settled, unspoken, checked, absent, rfl⟩
    exact ⟨settled, unspoken, checked, _,
      (noteCalls_ok (validateCompletion_distinct checked)).mpr ⟨rfl, absent⟩, by rw [unspoken]⟩

theorem Transcript.result_ok {result : ToolResult} :
    transcript.result result = .ok after ↔
      ∃ call rest, transcript.outstanding = call :: rest ∧
        (result.callID = call.id ∧ result.name = call.name) ∧ result.output.isSome = true ∧
        after = { transcript with
          messages := transcript.messages ++
            [.tool result.callID result.name result.output result.error]
          outstanding := rest } := by
  unfold Transcript.result
  cases waiting : transcript.outstanding with
  | nil => simp
  | cons call rest =>
    simp only [chain_ok, tests_iff, Option.isNone_eq_false_iff, List.cons.injEq, and_assoc]
    constructor
    · rintro ⟨id, name, output, rfl⟩
      exact ⟨call, rest, rfl, rfl, id, name, output, rfl⟩
    · rintro ⟨_, _, rfl, rfl, id, name, output, rfl⟩
      exact ⟨id, name, output, rfl⟩

theorem follow_turns (counted : transcript.finalText.isSome = true → 0 < transcript.turns)
    (followed : follow binding index transcript log = .ok after) :
    after.finalText.isSome = true → 0 < after.turns := by
  induction log generalizing index transcript with
  | nil =>
    cases followed
    exact counted
  | cons entry rest induction =>
    obtain ⟨_, next, read, followed⟩ := follow_cons.mp followed
    refine induction ?_ followed
    cases content : entry.content with
    | modelTurn response =>
      rw [content] at read
      obtain ⟨_, _, _, _, rfl⟩ := Transcript.turn_ok.mp read
      exact fun _ => Nat.succ_pos _
    | toolDone result =>
      rw [content] at read
      obtain ⟨_, _, _, _, _, rfl⟩ := Transcript.result_ok.mp read
      exact counted
    | started | finished | failed | cancelled | timedOut =>
      rw [content] at read
      cases read

variable [DecidableEq Prompt] {pending : List ToolCall} {text : Option String}

/-- A journal with the calls that wait for a result and the text of a turn without calls. -/
inductive Recorded (binding : Binding Prompt) :
    List (Entry Prompt) → List ToolCall → Option String → Prop
  | started (record : StartRecord Prompt) (own : record.binds binding = true)
      (accepted : record.contextAccepted = true) :
      Recorded binding [⟨binding.id, 1, .started record⟩] [] none
  | turn {log : List (Entry Prompt)} {response : Completion}
      (settled : Recorded binding log [] none)
      (checked : validateCompletion response binding.finalTool = .ok ()) :
      Recorded binding (log ++ [⟨binding.id, log.length + 1, .modelTurn response⟩])
        response.toolCalls
        (if response.toolCalls.isEmpty && binding.finalTool == "" then some response.text
          else none)
  | result {log : List (Entry Prompt)} {call : ToolCall} {rest : List ToolCall}
      {text : Option String} {result : ToolResult}
      (waiting : Recorded binding log (call :: rest) text)
      (answers : result.callID = call.id ∧ result.name = call.name)
      (output : result.output.isSome = true) :
      Recorded binding (log ++ [⟨binding.id, log.length + 1, .toolDone result⟩]) rest text

variable (recorded : Recorded binding log pending text)

namespace Recorded

include recorded

theorem ne_nil : log ≠ [] := by
  cases recorded <;> simp

theorem starts :
    ∃ record rest, log = ⟨binding.id, 1, .started record⟩ :: rest ∧
      record.binds binding = true := by
  induction recorded with
  | started record own accepted => exact ⟨record, [], rfl, own⟩
  | turn settled checked induction | result waiting answers output induction =>
    obtain ⟨record, rest, rfl, own⟩ := induction
    exact ⟨record, _, List.cons_append .., own⟩

theorem placed {index : Nat} {entry : Entry Prompt} (found : log[index]? = some entry) :
    entry.placed binding.id index = true := by
  induction recorded with
  | started record own accepted =>
    cases index with
    | zero =>
      cases found
      simp [Entry.placed]
    | succ index => cases found
  | turn settled checked induction | result waiting answers output induction =>
    rcases Nat.lt_or_ge index _ with earlier | last
    · rw [List.getElem?_append_left earlier] at found
      exact induction found
    · rw [List.getElem?_append_right last, List.getElem?_singleton] at found
      split at found
      · cases found
        simp only [Entry.placed, beq_self_eq_true, Bool.true_and, beq_iff_eq]
        omega
      · cases found

theorem lastSequence_eq : lastSequence log = log.length := by
  cases recorded <;> simp [lastSequence]

theorem not_terminal : ∀ entry ∈ log, entry.content.terminal = false := by
  induction recorded with
  | started record own accepted =>
    intro entry member
    rw [List.mem_singleton.mp member]
    rfl
  | turn settled checked induction | result waiting answers output induction =>
    intro entry member
    rcases List.mem_append.mp member with earlier | last
    · exact induction entry earlier
    · rw [List.mem_singleton.mp last]
      rfl

theorem prefix_recorded (nonempty : front ≠ []) (beginning : front <+: log) :
    ∃ pending text, Recorded binding front pending text := by
  induction recorded with
  | started record own accepted =>
    obtain ⟨rest, whole⟩ := beginning
    cases front with
    | nil => exact absurd rfl nonempty
    | cons entry others =>
      simp only [List.cons_append, List.cons.injEq, List.append_eq_nil_iff] at whole
      obtain ⟨rfl, rfl, rfl⟩ := whole
      exact ⟨_, _, .started record own accepted⟩
  | turn settled checked induction =>
    rcases List.prefix_concat_iff.mp beginning with rfl | earlier
    · exact ⟨_, _, settled.turn checked⟩
    · exact induction earlier
  | result waiting answers output induction =>
    rcases List.prefix_concat_iff.mp beginning with rfl | earlier
    · exact ⟨_, _, waiting.result answers output⟩
    · exact induction earlier

omit recorded in
theorem spoken {words : String} (recorded : Recorded binding log pending (some words)) :
    pending = [] ∧ binding.finalTool = "" ∧ ∃ front response,
      log = front ++ [⟨binding.id, front.length + 1, .modelTurn response⟩] ∧
        response.toolCalls = [] ∧ response.text = words := by
  generalize same : some words = text at recorded
  induction recorded with
  | started record own accepted => cases same
  | @turn log response settled checked _ =>
    split at same
    · next silent =>
      simp only [tests_iff, List.isEmpty_iff] at silent
      cases same
      exact ⟨silent.1, silent.2, log, response, rfl, silent.1, rfl⟩
    · cases same
  | result waiting answers output induction => exact nomatch (induction same).1

end Recorded

def ToolCall.identity (call : ToolCall) : String × String := (call.id, call.name)

def ToolResult.identity (result : ToolResult) : String × String := (result.callID, result.name)

include recorded in
theorem Recorded.results_pending :
    (recordedResults log).map ToolResult.identity ++ pending.map ToolCall.identity =
      (recordedCalls log).map ToolCall.identity := by
  induction recorded with
  | started record own accepted => simp [calls, result?]
  | turn settled checked induction =>
    simp only [List.map_nil, List.append_nil] at induction
    simp [calls, result?, induction]
  | result waiting answers output induction =>
    have same : ToolResult.identity _ = ToolCall.identity _ := Prod.ext answers.1 answers.2
    simpa [calls, result?, same] using induction

def pendingCalls (entries : List (Entry Prompt)) : List ToolCall :=
  (recordedCalls entries).drop (recordedResults entries).length

include recorded

theorem Recorded.pendingCalls_eq : pendingCalls log = pending := by
  induction recorded with
  | started record own accepted => rfl
  | @turn log response settled checked _ =>
    have counted := congrArg List.length settled.results_pending
    simp only [List.map_nil, List.append_nil, List.length_map] at counted
    simp [pendingCalls, counted, calls, result?]
  | @result log call rest _ _ waiting answers output induction =>
    have later : (recordedCalls log).drop ((recordedResults log).length + 1) = rest := by
      rw [← List.drop_drop, show (recordedCalls log).drop _ = call :: rest from induction]
      rfl
    simpa [pendingCalls, calls, result?] using later

theorem Recorded.pending_subset : pending ⊆ recordedCalls log :=
  recorded.pendingCalls_eq ▸ List.drop_subset _ _

theorem Recorded.pending_length : pending.length ≤ (recordedCalls log).length := by
  rw [← recorded.pendingCalls_eq, pendingCalls, List.length_drop]
  omega

omit recorded

theorem openTranscript_ok :
    openTranscript binding entry = .ok transcript →
      ∃ record, entry = ⟨binding.id, 1, .started record⟩ ∧ record.binds binding = true ∧
        record.contextAccepted = true ∧ transcript.outstanding = [] ∧
        transcript.seenCalls = [] ∧ transcript.finalText = none := by
  obtain ⟨id, sequence, content⟩ := entry
  cases content with
  | started record =>
    simp only [openTranscript, chain_ok, tests_iff, Entry.placed]
    rintro ⟨rfl, ⟨own, accepted⟩, ⟨_, rfl⟩, rfl⟩
    exact ⟨record, rfl, own, accepted, rfl, rfl, rfl⟩
  | modelTurn | toolDone | finished | failed | cancelled | timedOut => rintro ⟨⟩

theorem Recorded.followed
    (recorded : Recorded binding front transcript.outstanding transcript.finalText)
    (seen : transcript.seenCalls = callIDs front) (distinct : (callIDs front).Nodup)
    (followed : follow binding front.length transcript back = .ok after) :
    Recorded binding (front ++ back) after.outstanding after.finalText ∧
      (callIDs (front ++ back)).Nodup := by
  induction back generalizing front transcript with
  | nil =>
    cases followed
    simpa using ⟨recorded, distinct⟩
  | cons entry rest induction =>
    obtain ⟨placed, next, read, followed⟩ := follow_cons.mp followed
    obtain ⟨id, sequence, content⟩ := entry
    simp only [Entry.placed, tests_iff] at placed
    obtain ⟨rfl, rfl⟩ := placed
    rw [List.append_cons]
    cases content with
    | modelTurn response =>
      obtain ⟨settled, unspoken, checked, absent, rfl⟩ := Transcript.turn_ok.mp read
      rw [settled, unspoken] at recorded
      refine induction (recorded.turn checked) ?_ ?_ (by rwa [List.length_append])
      · simp [seen, callIDs, calls]
      · rw [callIDs_append]
        refine List.nodup_append.mpr ⟨distinct, ?_, ?_⟩
        · simpa [callIDs, calls] using validateCompletion_distinct checked
        · intro known member other later same
          subst same
          simp only [callIDs, recordedCalls_single, calls] at later
          obtain ⟨call, called, rfl⟩ := List.mem_map.mp later
          exact absent call called (seen ▸ member)
    | toolDone result =>
      obtain ⟨call, rest, waiting, answers, output, rfl⟩ := Transcript.result_ok.mp read
      rw [waiting] at recorded
      refine induction (recorded.result answers output) ?_ ?_ (by rwa [List.length_append])
      · simpa [callIDs, calls] using seen
      · simpa [callIDs, calls] using distinct
    | started | finished | failed | cancelled | timedOut => cases read

/-- What replay accepts is recorded, up to a finishing entry. -/
theorem replay_ok (accepted : replay binding finalize log = .ok replayed) :
    (replayed.complete = none ∧ (callIDs log).Nodup ∧
        ∃ text, Recorded binding log replayed.pending text ∧
          (text.isSome = true → 0 < replayed.turns)) ∨
      ∃ front pending text spoken, replayed.complete = some text ∧
        log = front ++ [⟨binding.id, front.length + 1, .finished text⟩] ∧
        Recorded binding front pending spoken := by
  cases log with
  | nil => cases accepted
  | cons first rest =>
    simp only [replay, bind_ok] at accepted
    obtain ⟨transcript, opened, read⟩ := accepted
    obtain ⟨record, rfl, own, context, settled, seen, unspoken⟩ := openTranscript_ok opened
    have start : Recorded binding [⟨binding.id, 1, .started record⟩] transcript.outstanding
        transcript.finalText := by
      rw [settled, unspoken]
      exact .started record own context
    rcases replayEntries_ok read with
      ⟨after, followed, rfl⟩ | ⟨front, after, text, rfl, followed, rfl⟩
    · obtain ⟨recorded, distinct⟩ := start.followed seen (by simp [callIDs, calls])
        followed
      refine .inl ⟨rfl, distinct, _, recorded, follow_turns ?_ followed⟩
      simp [unspoken]
    · obtain ⟨recorded, _⟩ := start.followed seen (by simp [callIDs, calls]) followed
      exact .inr ⟨_, _, text, _, rfl, by simp [Nat.add_comm], recorded⟩

include recorded in
theorem Recorded.read_back (distinct : (callIDs log).Nodup) :
    ∃ first rest transcript after, log = first :: rest ∧
      openTranscript binding first = .ok transcript ∧
      follow binding 1 transcript rest = .ok after ∧ after.outstanding = pending ∧
      after.finalText = text ∧ after.seenCalls = callIDs log := by
  induction recorded with
  | started record own accepted =>
    obtain ⟨transcript, opened⟩ : ∃ transcript,
        openTranscript binding ⟨binding.id, 1, .started record⟩ = .ok transcript :=
      ⟨_, by simp [openTranscript, refuse, own, accepted, Entry.placed]; rfl⟩
    obtain ⟨_, _, _, _, settled, seen, unspoken⟩ := openTranscript_ok opened
    exact ⟨_, [], transcript, transcript, rfl, opened, rfl, settled, unspoken, seen⟩
  | @turn log response settled checked induction =>
    rw [callIDs_append] at distinct
    obtain ⟨earlier, _, apart⟩ := List.nodup_append.mp distinct
    obtain ⟨first, rest, transcript, after, rfl, opened, followed, waiting, spoken, seen⟩ :=
      induction earlier
    have absent : ∀ call ∈ response.toolCalls, call.id ∉ after.seenCalls := by
      intro call called known
      refine apart call.id (seen ▸ known) call.id ?_ rfl
      simpa [callIDs, calls] using ⟨call, called, rfl⟩
    refine ⟨first, _, transcript, _, List.cons_append .., opened,
      follow_append.mpr ⟨after, followed, follow_cons.mpr ⟨?_, _,
        Transcript.turn_ok.mpr ⟨waiting, spoken, checked, absent, rfl⟩, rfl⟩⟩, rfl, rfl, ?_⟩
    · simp [Entry.placed, Nat.add_comm]
    · rw [callIDs_append, ← seen]
      simp [callIDs, calls]
  | @result log call others text result waiting answers output induction =>
    have earlier : (callIDs log).Nodup := by simpa [callIDs, calls] using distinct
    obtain ⟨first, rest, transcript, after, rfl, opened, followed, outstanding, spoken, seen⟩ :=
      induction earlier
    refine ⟨first, _, transcript, _, List.cons_append .., opened,
      follow_append.mpr ⟨after, followed, follow_cons.mpr ⟨?_, _,
        Transcript.result_ok.mpr ⟨call, others, outstanding, answers, output, rfl⟩, rfl⟩⟩,
      rfl, spoken, ?_⟩
    · simp [Entry.placed, Nat.add_comm]
    · rw [callIDs_append, ← seen]
      simp [callIDs, calls]

include recorded in
theorem Recorded.replay_eq (distinct : (callIDs log).Nodup) (finalize : Option Finalize) :
    ∃ replayed, replay binding finalize log = .ok replayed ∧ replayed.pending = pending ∧
      replayed.complete = none := by
  obtain ⟨first, rest, transcript, after, rfl, opened, followed, waiting, _⟩ :=
    recorded.read_back distinct
  refine ⟨⟨after.messages, after.outstanding, none, after.turns⟩, ?_, waiting, rfl⟩
  rw [replay, opened]
  exact replayEntries_follow followed

/-- Replay accepts a recorded journal exactly when no call id occurs twice in it. -/
theorem Recorded.replay_ok_iff (recorded : Recorded binding log pending text)
    (finalize : Option Finalize) :
    (∃ replayed, replay binding finalize log = .ok replayed) ↔ (callIDs log).Nodup := by
  constructor
  · rintro ⟨replayed, accepted⟩
    rcases replay_ok accepted with ⟨_, distinct, _⟩ | ⟨front, _, text, _, _, rfl, _⟩
    · exact distinct
    · exact nomatch recorded.not_terminal ⟨binding.id, front.length + 1, .finished text⟩
        (List.mem_append_right _ List.mem_cons_self)
  · intro distinct
    obtain ⟨replayed, accepted, _⟩ := recorded.replay_eq distinct finalize
    exact ⟨replayed, accepted⟩

end Tekroo.AgentRuntime
