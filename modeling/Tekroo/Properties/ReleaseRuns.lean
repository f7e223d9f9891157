import Tekroo.Kernel.ReleaseMoves
import Tekroo.Lib.Log

namespace Tekroo.Kernel

open Lib ReleasePlanCreatePayload

/-! # Runs of a release plan -/

namespace ReleasePlanSnapshot

variable {before next : ReleasePlanSnapshot} {event : DomainEvent}

theorem valid_code (valid : before.valid = true) (code : before.plan.mode = .code) :
    before.plan.validCode = true ∧ before.nextMergeIndex ≤ before.plan.orderedMerges.length ∧
      0 < before.nextRound ∧ before.nextRound ≤ before.plan.executionRoundLimit ∧
      before.validState = true := by
  simp only [ReleasePlanSnapshot.valid, code, tests_iff, reduceCtorEq, if_false] at valid
  obtain ⟨_, ⟨⟨⟨⟨⟨plan, index⟩, positive⟩, bounded⟩, _⟩, _⟩, state⟩ := valid
  exact ⟨plan, index, positive, bounded, state⟩

theorem ready_absorbing (code : before.plan.mode = .code)
    (ready : before.state = .readyForAcceptance) : before.applyReleaseEvent event = none := by
  cases applied : before.applyReleaseEvent event with
  | none => rfl
  | some next =>
    obtain ⟨valid, _, _, moved, moves, _⟩ := applyReleaseEvent_ok applied
    have idle : before.activeAttempt = none := by
      have state := (valid_code valid code).2.2.2.2
      simp only [validState, ready, tests_iff, Option.isNone_iff_eq_none] at state
      exact state.1.1.1
    cases transition_move code moves with
    | qualified _ _ state | requested _ _ state => simp [ready] at state
    | reported accepted => exact absurd accepted.active (by simp [idle])
    | finalized _ _ state => simp [ready] at state

def finalizedAgain (plan : ReleasePlanSnapshot) : DomainEvent :=
  .trial .releasePlanFinalized (.number 0) ⟨.releasePlan, plan.plan.releasePlanID⟩
    (plan.revision + 1) 1 (.releaseFinalize {
      releasePlanID := plan.plan.releasePlanID
      expectedRevision := plan.revision
      planDigest := plan.plan.planDigest
      mode := .notRequired
      terminalStatus := .notRequired
      evidenceIDs := [] })

theorem notRequired_finalized_again (valid : before.valid = true)
    (mode : before.plan.mode = .notRequired) :
    (before.applyReleaseEvent before.finalizedAgain).isSome = true := by
  have numbered : (UUIDv7.number 0).valid = true := rfl
  have moves : before.transition before.finalizedAgain = some { before with
      state := .notRequired
      finalizationEventID := .number 0
      providerTreeDigest := "" } := by
    simp [transition, finalizedAgain, DomainEvent.trial, finalize, mode]
  have kept : ({ before with
      state := .notRequired
      finalizationEventID := .number 0
      providerTreeDigest := ""
      revision := before.revision + 1 } : ReleasePlanSnapshot).valid = true := by
    simp only [ReleasePlanSnapshot.valid, mode, beq_self_eq_true, if_true, tests_iff,
      validNotRequired] at valid ⊢
    simp [valid, numbered]
  exact applyReleaseEvent_isSome valid rfl rfl numbered rfl moves kept

theorem valid_mode (valid : before.valid = true) (other : before.plan.mode ≠ .code) :
    before.plan.mode = .notRequired := by
  simp only [ReleasePlanSnapshot.valid, Bool.and_eq_true] at valid
  have checks := valid.2
  split at checks
  · next mode => exact beq_iff_eq.mp mode
  · simp [validCode, other] at checks

theorem finalized_state {moved : ReleasePlanSnapshot}
    (finalized : event.eventType = .releasePlanFinalized) (code : before.plan.mode = .code)
    (moves : before.transition event = some moved) : moved.state = .readyForAcceptance := by
  simp only [transition, finalized] at moves
  split at moves <;> try contradiction
  simp only [finalize, code, tests_iff, bne_self_eq_false, Bool.false_or] at moves
  obtain ⟨checked, rfl⟩ := moves
  simp [checked]

/-- A plan that has been finalized takes no further event exactly when its release mode is
code. -/
theorem finalized_absorbing_iff (finalized : event.eventType = .releasePlanFinalized)
    (applied : before.applyReleaseEvent event = some next) :
    (∀ later, next.applyReleaseEvent later = none) ↔ before.plan.mode = .code := by
  obtain ⟨valid, _, validNext, moved, moves, rfl⟩ := applyReleaseEvent_ok applied
  have kept : moved.plan = before.plan := (transition_plan moves).1
  constructor
  · intro absorbing
    by_contra other
    have mode : moved.plan.mode = .notRequired := by
      rw [kept]
      exact valid_mode valid other
    have again := notRequired_finalized_again validNext mode
    rw [absorbing] at again
    cases again
  · intro code later
    have ready := finalized_state finalized code moves
    exact ready_absorbing (kept ▸ code) ready

end ReleasePlanSnapshot

namespace Sample

def storyOnly : ReleasePlanCreatePayload where
  releasePlanID := .number 9
  storyID := .number 10
  storyLifecycleEpoch := 1
  expectedStoryRevision := 1
  author := ⟨.human, "p"⟩
  authorApprovalEventID := .number 11
  authorApprovalRevision := 1
  policyRevision := 1
  planDigest := .number 0
  evidenceIDs := [.number 1]
  mode := .notRequired
  noReleaseReason := "n"

def releaseEvent (eventType : EventType) (revision : Nat) (payload : Payload) : DomainEvent :=
  .trial eventType (.number revision) ⟨.releasePlan, .number 9⟩ revision 1 payload

def finalizeStoryOnly (revision : Nat) : DomainEvent :=
  releaseEvent .releasePlanFinalized revision (.releaseFinalize {
    releasePlanID := .number 9
    expectedRevision := revision - 1
    planDigest := .number 0
    mode := .notRequired
    terminalStatus := .notRequired
    evidenceIDs := [.number 1] })

/-- The plan is finalized by event 2 and once more by event 3. -/
theorem finalized_twice :
    ((storyOnly.snapshot (.number 1)).bind fun created =>
      (created.applyReleaseEvent (finalizeStoryOnly 2)).map fun plan =>
        (plan.state, plan.revision, plan.finalizationEventID)) =
      some (.notRequired, 2, .number 2) ∧
    ((storyOnly.snapshot (.number 1)).bind fun created =>
      (created.applyReleaseEvent (finalizeStoryOnly 2)).bind fun finalized =>
        (finalized.applyReleaseEvent (finalizeStoryOnly 3)).map fun plan =>
          (plan.state, plan.revision, plan.finalizationEventID)) =
      some (.notRequired, 3, .number 3) := by decide

theorem storyOnly_finalized :
    ((storyOnly.snapshot (.number 1)).bind
      (·.applyReleaseEvent (finalizeStoryOnly 2))).isSome = true := by decide

theorem finalized_absorbing_iff_storyOnly :
    ∃ created finalized, storyOnly.snapshot (.number 1) = some created ∧
      created.applyReleaseEvent (finalizeStoryOnly 2) = some finalized ∧
      ((∀ later, finalized.applyReleaseEvent later = none) ↔ created.plan.mode = .code) := by
  obtain ⟨finalized, moved⟩ := Option.isSome_iff_exists.mp storyOnly_finalized
  obtain ⟨created, made, applied⟩ := Option.bind_eq_some_iff.mp moved
  exact ⟨created, finalized, made, applied, ReleasePlanSnapshot.finalized_absorbing_iff rfl applied⟩

end Sample

def DomainEvent.merges (event : DomainEvent) (mergeID : UUIDv7) : Bool :=
  event.releaseReport.any fun report => report.mergeID == mergeID && report.outcome.isMerged

def requestedRounds (events : List DomainEvent) (mergeID : UUIDv7) : List Nat :=
  events.filterMap fun event => event.requestedRound mergeID

/-- Every report is about a merge of the plan all of whose predecessors went through before. -/
def ReportsInOrder (merges : List ReleaseMergePlan) (events : List DomainEvent) : Prop :=
  ∀ earlier event later report, events = earlier ++ event :: later →
    event.releaseReport = some report →
    ∃ index merge, merges[index]? = some merge ∧ merge.mergeID = report.mergeID ∧
      ∀ prior ∈ merges.take index, ∃ done ∈ earlier, done.merges prior.mergeID = true

/-- The second report reconciles exactly the result that the first is about, and knows. -/
structure ReleaseReport.SettledBy (report settled : ReleaseReport) : Prop where
  reconciles : settled.reconciles = true
  result : settled.resultEventID = report.resultEventID
  merge : settled.mergeID = report.mergeID
  attempt : settled.attemptID = report.attemptID
  known : settled.outcome ≠ .unknown

/-- Some later event settles the report. -/
def SettledIn (later : List DomainEvent) (report : ReleaseReport) : Prop :=
  ∃ event ∈ later, ∃ settled, event.releaseReport = some settled ∧ report.SettledBy settled

section Reports

variable {merges : List ReleaseMergePlan} {events : List DomainEvent} {event : DomainEvent}
  {report : ReleaseReport}

@[simp] theorem requestedRounds_append (mergeID : UUIDv7) :
    requestedRounds (events ++ [event]) mergeID =
      requestedRounds events mergeID ++ (event.requestedRound mergeID).toList := by
  cases asked : event.requestedRound mergeID <;> simp [requestedRounds, asked]

theorem ReportsInOrder.append (ordered : ReportsInOrder merges events)
    (next : ∀ report, event.releaseReport = some report →
      ∃ index merge, merges[index]? = some merge ∧ merge.mergeID = report.mergeID ∧
        ∀ prior ∈ merges.take index, ∃ done ∈ events, done.merges prior.mergeID = true) :
    ReportsInOrder merges (events ++ [event]) := by
  intro earlier entry later report split reports
  rcases split_append_singleton split with ⟨rfl, rfl, rfl⟩ | ⟨rest, rfl, old⟩
  · exact next report reports
  · exact ordered earlier entry rest report old reports

theorem SettledIn.append {later : List DomainEvent} (settled : SettledIn later report) :
    SettledIn (later ++ [event]) report := by
  obtain ⟨settling, member, rest⟩ := settled
  exact ⟨settling, List.mem_append.mpr (.inl member), rest⟩

end Reports

namespace ReleasePlanSnapshot

variable {plan : ReleasePlanCreatePayload} {events : List DomainEvent}
  {before moved next : ReleasePlanSnapshot} {event : DomainEvent} (snapshot : ReleasePlanSnapshot)

def askedRounds : Nat :=
  match snapshot.state with
  | .executing | .reconciling | .failed => snapshot.nextRound
  | _ => snapshot.nextRound - 1

/-- The report is the unknown outcome that the plan is reconciling. -/
def Reconciling (report : ReleaseReport) : Prop :=
  snapshot.state = .reconciling ∧ ∃ attempt prior, snapshot.activeAttempt = some attempt ∧
    attempt.mergeID = report.mergeID ∧ attempt.attemptID = report.attemptID ∧
    snapshot.results.lookup report.mergeID = some prior ∧
    prior.resultEventID = report.resultEventID

/-- How a plan stands to the events that led to it. -/
structure Follows (events : List DomainEvent) (snapshot : ReleasePlanSnapshot) : Prop where
  active : ∀ attempt, snapshot.activeAttempt = some attempt →
    attempt.round = snapshot.nextRound ∧ ∃ merge,
      snapshot.plan.orderedMerges[snapshot.nextMergeIndex]? = some merge ∧
        attempt.mergeID = merge.mergeID
  merged : ∀ index merge, snapshot.plan.orderedMerges[index]? = some merge →
    index < snapshot.nextMergeIndex → ∃ event ∈ events, event.merges merge.mergeID = true ∧
      snapshot.effectiveResultEventID merge = some event.eventID
  ordered : ReportsInOrder snapshot.plan.orderedMerges events
  rounds : ∀ index merge, snapshot.plan.orderedMerges[index]? = some merge → ∃ rounds,
    requestedRounds events merge.mergeID = List.range' 1 rounds ∧
      (index < snapshot.nextMergeIndex → rounds ≤ snapshot.plan.executionRoundLimit) ∧
      (index = snapshot.nextMergeIndex → rounds = snapshot.askedRounds) ∧
      (snapshot.nextMergeIndex < index → rounds = 0)
  unknown : ∀ earlier event later report, events = earlier ++ event :: later →
    event.releaseReport = some report → report.outcome = .unknown →
    SettledIn later report ∨ snapshot.Reconciling report

theorem Follows.created {payload : ReleasePlanCreatePayload} {eventID : UUIDv7}
    (made : payload.snapshot eventID = some before) : Follows [] before := by
  simp only [snapshot, tests_iff] at made
  obtain ⟨_, rfl⟩ := made
  refine ⟨by simp, by simp, ?_, fun _ _ _ => ⟨0, rfl, by simp, fun _ => rfl, fun _ => rfl⟩, ?_⟩
  · intro earlier event later report split
    simp at split
  · intro earlier event later report split
    simp at split

theorem Follows.unknown_append (follows : Follows events before)
    (fresh : ∀ report, event.releaseReport = some report → report.outcome = .unknown →
      moved.Reconciling report)
    (pending : ∀ report, before.Reconciling report → SettledIn [event] report ∨
      moved.Reconciling report) :
    ∀ earlier entry later report, events ++ [event] = earlier ++ entry :: later →
      entry.releaseReport = some report → report.outcome = .unknown →
      SettledIn later report ∨ moved.Reconciling report := by
  intro earlier entry later report split reports unknown
  rcases split_append_singleton split with ⟨rfl, rfl, rfl⟩ | ⟨rest, rfl, old⟩
  · exact .inr (fresh report reports unknown)
  · rcases follows.unknown earlier entry rest report old reports unknown with settled | open_
    · exact .inl settled.append
    · rcases pending report open_ with ⟨settling, member, settled⟩ | still
      · exact .inl ⟨settling, List.mem_append.mpr (.inr member), settled⟩
      · exact .inr still

theorem Follows.unmoved (follows : Follows events before) (silent : event.releaseReport = none)
    (unasked : ∀ mergeID, event.requestedRound mergeID = none)
    (calm : before.state ≠ .reconciling) (plan : moved.plan = before.plan)
    (results : moved.results = before.results)
    (attempt : moved.activeAttempt = before.activeAttempt)
    (index : moved.nextMergeIndex = before.nextMergeIndex)
    (round : moved.nextRound = before.nextRound)
    (asked : moved.askedRounds = before.askedRounds) : Follows (events ++ [event]) moved where
  active := by simpa only [plan, attempt, index, round] using follows.active
  merged := fun place merge found past => by
    rw [plan] at found
    rw [index] at past
    obtain ⟨done, logged, reported, effective⟩ := follows.merged place merge found past
    refine ⟨done, List.mem_append.mpr (.inl logged), reported, ?_⟩
    simpa only [effectiveResultEventID, results] using effective
  ordered := plan ▸ follows.ordered.append (by simp [silent])
  rounds := by simpa only [requestedRounds_append, unasked, Option.toList_none, List.append_nil,
    plan, index, asked] using follows.rounds
  unknown := follows.unknown_append (by simp [silent]) (by simp [Reconciling, calm])

theorem merges_distinct (code : before.plan.validCode = true) {index other : Nat}
    {merge same : ReleaseMergePlan} (found : before.plan.orderedMerges[index]? = some merge)
    (also : before.plan.orderedMerges[other]? = some same) (differs : other ≠ index) :
    merge.mergeID ≠ same.mergeID := by
  simp only [validCode, tests_iff] at code
  intro equal
  refine differs ((List.getElem?_inj (l := before.plan.orderedMerges.map (·.mergeID)) ?_
    code.2).mp ?_)
  · simpa using (List.getElem?_eq_some_iff.mp also).1
  · simp [found, also, equal]

theorem Follows.requested {attempt : ReleaseAttempt} {merge : ReleaseMergePlan}
    (follows : Follows events before) (code : before.plan.validCode = true)
    (positive : 0 < before.nextRound) (silent : event.releaseReport = none)
    (asked : ∀ mergeID, event.requestedRound mergeID =
      if merge.mergeID = mergeID then some before.nextRound else none)
    (state : before.state = .qualified)
    (found : before.plan.orderedMerges[before.nextMergeIndex]? = some merge)
    (same : attempt.mergeID = merge.mergeID) (round : attempt.round = before.nextRound) :
    Follows (events ++ [event]) { before with
      state := .executing
      activeAttempt := some attempt } where
  active := by
    rintro _ ⟨⟩
    exact ⟨round, merge, found, same⟩
  merged := fun index merge found past => by
    obtain ⟨done, logged, rest⟩ := follows.merged index merge found past
    exact ⟨done, List.mem_append.mpr (.inl logged), rest⟩
  ordered := follows.ordered.append (by simp [silent])
  rounds := fun index other also => by
    obtain ⟨rounds, requested, past, now, later⟩ := follows.rounds index other also
    rcases eq_or_ne index before.nextMergeIndex with rfl | apart
    · cases found.symm.trans also
      have unasked := now rfl
      simp only [askedRounds, state] at unasked
      refine ⟨before.nextRound, ?_, by simp, fun _ => rfl, by simp⟩
      obtain ⟨round, rounds⟩ := Nat.exists_eq_add_of_lt positive
      simp [requested, asked, unasked, rounds, List.range'_1_concat, Nat.add_comm]
    · refine ⟨rounds, ?_, past, fun same => absurd same apart, later⟩
      simp [requested, asked, merges_distinct code found also apart]
  unknown := follows.unknown_append (by simp [silent]) (by simp [Reconciling, state])

section Reported

variable {report : ReleaseReport} {attempt : ReleaseAttempt} {merge : ReleaseMergePlan}
  {result : ReleaseResult} (follows : Follows events before)
  (code : before.plan.validCode = true)
  (accepted : report.Accepted event before attempt merge result)
  (results : moved.results = before.results.insert report.mergeID result)

include accepted

theorem askedRounds_reported : before.askedRounds = before.nextRound := by
  have state := accepted.state
  split at state
  · simp [askedRounds, state.1]
  · simp [askedRounds, state]

include code results in
theorem effective_past {other : ReleaseMergePlan}
    {index : Nat} (found : before.plan.orderedMerges[index]? = some other)
    (past : index < before.nextMergeIndex) :
    moved.effectiveResultEventID other = before.effectiveResultEventID other := by
  have apart := merges_distinct code accepted.next found past.ne
  rw [effectiveResultEventID, results, accepted.same, AList.lookup_insert_ne apart.symm]
  rfl

include follows

include results in
theorem Follows.reconciling_reported
    (unknown : report.outcome = .unknown →
      moved.state = .reconciling ∧ moved.activeAttempt = some attempt)
    (open_ : ReleaseReport) (pending : before.Reconciling open_) :
    SettledIn [event] open_ ∨ moved.Reconciling open_ := by
  obtain ⟨reconciling, attempt', prior, active, merged, attempted, found, identified⟩ := pending
  cases active.symm.trans accepted.active
  obtain ⟨_, merge', next, named⟩ := follows.active attempt active
  cases next.symm.trans accepted.next
  have same : report.mergeID = open_.mergeID := by rw [accepted.same, ← named, merged]
  have state := accepted.state
  split at state
  · next reconciles =>
    obtain ⟨_, prior', found', identified'⟩ := state
    rw [same] at found'
    cases found'.symm.trans found
    by_cases outcome : report.outcome = .unknown
    · refine .inr ⟨(unknown outcome).1, attempt, result, (unknown outcome).2, merged,
        attempted, ?_, ?_⟩
      · rw [results, same, AList.lookup_insert]
      · rw [accepted.identified, ← identified', identified]
    · refine .inl ⟨event, List.mem_singleton.mpr rfl, report, accepted.reports, reconciles, ?_,
        same, ?_, outcome⟩
      · rw [← identified', identified]
      · rw [← accepted.attempted, attempted]
  · simp [reconciling] at state

include results in
theorem reconciling_unknown (state : moved.state = .reconciling)
    (active : moved.activeAttempt = some attempt) : moved.Reconciling report := by
  obtain ⟨_, merge', next, named⟩ := follows.active attempt accepted.active
  cases next.symm.trans accepted.next
  refine ⟨state, attempt, result, active, named.trans accepted.same.symm, accepted.attempted, ?_,
    accepted.identified⟩
  rw [results, AList.lookup_insert]

theorem Follows.ordered_reported :
    ReportsInOrder before.plan.orderedMerges (events ++ [event]) := by
  refine follows.ordered.append fun report' reports => ?_
  cases reports.symm.trans accepted.reports
  refine ⟨before.nextMergeIndex, merge, accepted.next, accepted.same.symm, fun prior past => ?_⟩
  obtain ⟨index, bound, rfl⟩ := List.mem_take_iff_getElem.mp past
  obtain ⟨done, logged, merges, _⟩ := follows.merged index _
    (List.getElem?_eq_getElem (by omega)) (by omega)
  exact ⟨done, logged, merges⟩

include code

include results in
theorem Follows.open_reported (plan : moved.plan = before.plan)
    (index : moved.nextMergeIndex = before.nextMergeIndex)
    (asked : moved.askedRounds = before.nextRound)
    (active : moved.activeAttempt = none ∨
      moved.activeAttempt = some attempt ∧ moved.nextRound = before.nextRound)
    (unknown : report.outcome = .unknown →
      moved.state = .reconciling ∧ moved.activeAttempt = some attempt) :
    Follows (events ++ [event]) moved where
  active := fun attempt' found => by
    rcases active with absent | ⟨same, round⟩
    · simp [absent] at found
    · cases found.symm.trans same
      simpa only [plan, index, round] using follows.active attempt accepted.active
  merged := fun place other found past => by
    rw [plan] at found
    rw [index] at past
    obtain ⟨done, logged, merges, effective⟩ := follows.merged place other found past
    exact ⟨done, List.mem_append.mpr (.inl logged), merges,
      (effective_past code accepted results found past).trans effective⟩
  ordered := plan ▸ follows.ordered_reported accepted
  rounds := by
    rw [plan, index, asked, ← askedRounds_reported accepted]
    simpa only [requestedRounds_append, accepted.unasked, Option.toList_none, List.append_nil]
      using follows.rounds
  unknown := by
    refine follows.unknown_append (fun report' reports outcome => ?_)
      (follows.reconciling_reported accepted results unknown)
    cases reports.symm.trans accepted.reports
    exact reconciling_unknown follows accepted results (unknown outcome).1 (unknown outcome).2

theorem Follows.merged_reported (bounded : before.nextRound ≤ before.plan.executionRoundLimit)
    (through : report.outcome.isMerged = true) :
    Follows (events ++ [event]) { before with
      results := before.results.insert report.mergeID result
      state := .qualified
      providerTreeDigest := result.observedTree
      nextMergeIndex := before.nextMergeIndex + 1
      nextRound := 1
      activeAttempt := none } := by
  have known : report.outcome ≠ .unknown := by
    intro unknown
    simp [unknown, ReleaseOutcome.isMerged] at through
  constructor
  case active => simp
  case merged =>
    intro index other found past
    rcases Nat.lt_succ_iff_lt_or_eq.mp past with past | rfl
    · obtain ⟨done, logged, merges, effective⟩ := follows.merged index other found past
      exact ⟨done, List.mem_append.mpr (.inl logged), merges,
        (effective_past code accepted rfl found past).trans effective⟩
    · cases found.symm.trans accepted.next
      refine ⟨event, by simp, ?_, ?_⟩
      · simp [DomainEvent.merges, accepted.reports, accepted.same, through]
      · simp [effectiveResultEventID, accepted.same, accepted.outcome, through, accepted.effective]
  case ordered => exact follows.ordered_reported accepted
  case rounds =>
    intro index other found
    obtain ⟨rounds, requested, past, now, later⟩ := follows.rounds index other found
    rw [askedRounds_reported accepted] at now
    refine ⟨rounds, by simpa [accepted.unasked] using requested, ?_, ?_, ?_⟩
    · intro before
      rcases Nat.lt_succ_iff_lt_or_eq.mp before with before | same
      · exact past before
      · exact now same ▸ bounded
    · rintro rfl
      exact later (Nat.lt_succ_self _)
    · exact fun after => later (Nat.lt_of_succ_lt after)
  case unknown =>
    refine follows.unknown_append (fun report' reports outcome => ?_)
      (follows.reconciling_reported accepted rfl fun unknown => absurd unknown known)
    cases reports.symm.trans accepted.reports
    exact absurd outcome known

theorem Follows.reported (bounded : before.nextRound ≤ before.plan.executionRoundLimit) :
    Follows (events ++ [event]) ({ before with
      results := before.results.insert report.mergeID result }.applyReleaseOutcome result
        attempt.round) := by
  have round := (follows.active attempt accepted.active).1
  have outcome := accepted.outcome
  unfold applyReleaseOutcome
  split
  · exact follows.open_reported code accepted rfl rfl rfl rfl (.inr ⟨accepted.active, rfl⟩)
      fun _ => ⟨rfl, accepted.active⟩
  · next merged =>
    exact follows.merged_reported code accepted bounded (by simp [← outcome, merged]; rfl)
  · next merged =>
    exact follows.merged_reported code accepted bounded (by simp [← outcome, merged]; rfl)
  · next failed =>
    have known : report.outcome ≠ .unknown := by simp [← outcome, failed]
    split
    · exact follows.open_reported code accepted rfl rfl rfl rfl (.inl rfl)
        fun unknown => absurd unknown known
    · exact follows.open_reported code accepted rfl rfl rfl round (.inl rfl)
        fun unknown => absurd unknown known
  · next other =>
    have known := accepted.known
    simp [← outcome, other, ReleaseOutcome.known] at known

end Reported

theorem Follows.step (follows : Follows events before) (code : before.plan.mode = .code)
    (applied : before.applyReleaseEvent event = some next) :
    Follows (events ++ [event]) next := by
  obtain ⟨valid, _, _, moved, moves, rfl⟩ := applyReleaseEvent_ok applied
  obtain ⟨planned, _, positive, bounded, _⟩ := valid_code valid code
  suffices moved : Follows (events ++ [event]) moved from
    ⟨moved.active, moved.merged, moved.ordered, moved.rounds, moved.unknown⟩
  cases transition_move code moves with
  | qualified silent unasked state =>
    exact follows.unmoved silent unasked (by simp [state]) rfl rfl rfl rfl rfl
      (by simp [askedRounds, state])
  | requested silent asked state found same round =>
    exact follows.requested planned positive silent asked state found same round
  | reported accepted => exact follows.reported planned accepted bounded
  | finalized silent unasked state _ =>
    exact follows.unmoved silent unasked (by simp [state]) rfl rfl rfl rfl rfl
      (by simp [askedRounds, state])

def applyReleaseEvents (events : List DomainEvent) :
    Option ReleasePlanSnapshot :=
  events.foldlM applyReleaseEvent snapshot

theorem applyReleaseEvents_append {created : ReleasePlanSnapshot}
    (applied : created.applyReleaseEvents (events ++ [event]) = some next) :
    ∃ before, created.applyReleaseEvents events = some before ∧
      before.applyReleaseEvent event = some next := by
  simpa [applyReleaseEvents, List.foldlM_append, Option.bind_eq_some_iff] using applied

theorem Follows.run {created : ReleasePlanSnapshot} (valid : created.valid = true)
    (follows : Follows [] created) (code : created.plan.mode = .code)
    (applied : created.applyReleaseEvents events = some next) :
    next.valid = true ∧ next.plan = created.plan ∧ Follows events next := by
  induction events using List.reverseRecOn generalizing next with
  | nil =>
    cases applied
    exact ⟨valid, rfl, follows⟩
  | append_singleton events event induction =>
    obtain ⟨before, earlier, last⟩ := applyReleaseEvents_append applied
    obtain ⟨_, same, followed⟩ := induction earlier
    refine ⟨(applyReleaseEvent_ok last).2.2.1, (applyReleaseEvent_plan last).1.trans same,
      followed.step ?_ last⟩
    rw [same, code]

end ReleasePlanSnapshot

open ReleasePlanSnapshot

/-- After any sequence of accepted events that leads a created code plan to
`READY_FOR_ACCEPTANCE`, every merge went through in plan order, the provider's tree is the
qualified one, every unknown outcome was reconciled and every merge took its rounds one after
another within the limit. -/
theorem verified_release {payload : ReleasePlanCreatePayload} {eventID : UUIDv7}
    {created final : ReleasePlanSnapshot} {events : List DomainEvent}
    (made : payload.snapshot eventID = some created) (code : payload.mode = .code)
    (applied : created.applyReleaseEvents events = some final)
    (ready : final.state = .readyForAcceptance) :
    (∀ merge ∈ payload.orderedMerges, ∃ event ∈ events,
        event.merges merge.mergeID = true ∧
          final.effectiveResultEventID merge = some event.eventID) ∧
      ReportsInOrder payload.orderedMerges events ∧
      final.providerTreeDigest = payload.expectedQualifiedTree ∧
      (∀ earlier event later report, events = earlier ++ event :: later →
        event.releaseReport = some report → report.outcome = .unknown → SettledIn later report) ∧
      ∀ merge ∈ payload.orderedMerges, ∃ rounds ≤ payload.executionRoundLimit,
        requestedRounds events merge.mergeID = List.range' 1 rounds := by
  obtain ⟨valid, planned⟩ : created.valid = true ∧ created.plan = payload := by
    simp only [snapshot, tests_iff] at made
    obtain ⟨valid, rfl⟩ := made
    exact ⟨valid, rfl⟩
  obtain ⟨validFinal, same, follows⟩ :=
    Follows.run valid (Follows.created made) (planned ▸ code) applied
  obtain rfl : final.plan = payload := same.trans planned
  have state := (valid_code validFinal code).2.2.2.2
  simp only [validState, ready, tests_iff] at state
  obtain ⟨⟨⟨_, complete⟩, _⟩, tree⟩ := state
  have each : ∀ merge ∈ final.plan.orderedMerges, ∃ index < final.nextMergeIndex,
      final.plan.orderedMerges[index]? = some merge := by
    intro merge member
    obtain ⟨index, bound, rfl⟩ := List.mem_iff_getElem.mp member
    exact ⟨index, complete ▸ bound, List.getElem?_eq_getElem bound⟩
  refine ⟨fun merge member => ?_, follows.ordered, tree, ?_, fun merge member => ?_⟩
  · obtain ⟨index, past, found⟩ := each merge member
    exact follows.merged index merge found past
  rotate_left
  · obtain ⟨index, past, found⟩ := each merge member
    obtain ⟨rounds, requested, bounded, _⟩ := follows.rounds index merge found
    exact ⟨rounds, bounded past, requested⟩
  intro earlier event later report split reports unknown
  rcases follows.unknown earlier event later report split reports unknown with settled | pending
  · exact settled
  · simp [Reconciling, ready] at pending

namespace Sample

def twoMerges : ReleasePlanCreatePayload :=
  { storyOnly with
    mode := .code
    noReleaseReason := ""
    repositoryURL := "u"
    baseRef := "r"
    baseCommit := "b"
    orderedMerges := [⟨.number 21, "c", "h1", "m"⟩, ⟨.number 22, "c", "h2", "m"⟩]
    mergeStrategy := "FF_ONLY_ORDERED"
    gitVersion := "g"
    conflictPolicy := "FAIL_NO_IMPROVISATION"
    contractManifest := contractIdentity
    manifestSHA256 := .number 0
    requiredProfiles := ["p"]
    expectedQualifiedTree := "t"
    executionRoundLimit := 2 }

def requestRound (revision : Nat) (mergeID attemptID : UUIDv7) (round : Nat) : DomainEvent :=
  releaseEvent .releasePlanExecutionRequested revision
    (.releaseAttempt ⟨.number 9, revision - 1, .number 0, mergeID, attemptID, round, "k",
      [.number 1]⟩)

/-- A report about one attempt; the observed identities of a merge are those of the plan. -/
def reportRound (eventType : EventType) (revision : Nat) (mergeID attemptID : UUIDv7)
    (outcome : ReleaseOutcome) (head tree : String) (supersedes : UUIDv7)
    (provider : ReleaseProviderState) : DomainEvent :=
  releaseEvent eventType revision (.releaseResult {
    releasePlanID := .number 9
    expectedRevision := revision - 1
    planDigest := .number 0
    mergeID, attemptID, outcome
    evidenceIDs := [.number 1]
    supersedesResultEventID := supersedes
    reconciliationID := supersedes
    providerState := provider
    observedBase := if outcome.isMerged then "b" else ""
    observedHead := head
    observedTree := tree })

/-- The first merge fails once and is then found merged by a reconciliation; the second merge
goes through at once. -/
def releaseEvents : List DomainEvent :=
  [releaseEvent .releasePlanQualificationRecorded 2
      (.releaseQualification ⟨1, .number 0, .number 30, "b", ["h1", "h2"], "t", .number 0,
        .number 0, .number 0, [.number 0], [.number 1], contractIdentity, .number 0, ["p"]⟩),
    requestRound 3 (.number 21) (.number 41) 1,
    reportRound .releasePlanResultRecorded 4 (.number 21) (.number 41) .failed "" "" (.text "")
      (.other ""),
    requestRound 5 (.number 21) (.number 42) 2,
    reportRound .releasePlanResultRecorded 6 (.number 21) (.number 42) .unknown "" "" (.text "")
      (.other ""),
    reportRound .releasePlanReconciliationRecorded 7 (.number 21) (.number 42) .merged "h1" "s"
      (.number 6) .merged,
    requestRound 8 (.number 22) (.number 43) 1,
    reportRound .releasePlanResultRecorded 9 (.number 22) (.number 43) .merged "h2" "t"
      (.text "") (.other ""),
    releaseEvent .releasePlanFinalized 10
      (.releaseFinalize ⟨.number 9, 9, .number 0, .code, .readyForAcceptance, [.number 1], "t", "t",
        .number 2, [.number 7, .number 9]⟩)]

theorem verified_release_twoMerges :
    ∃ created final, twoMerges.snapshot (.number 1) = some created ∧
      created.applyReleaseEvents releaseEvents = some final ∧
      final.state = .readyForAcceptance ∧
      (∀ merge ∈ twoMerges.orderedMerges, ∃ event ∈ releaseEvents,
        event.merges merge.mergeID = true ∧
          final.effectiveResultEventID merge = some event.eventID) ∧
      ReportsInOrder twoMerges.orderedMerges releaseEvents ∧
      final.providerTreeDigest = twoMerges.expectedQualifiedTree ∧
      (∀ earlier event later report, releaseEvents = earlier ++ event :: later →
        event.releaseReport = some report → report.outcome = .unknown → SettledIn later report) ∧
      ∀ merge ∈ twoMerges.orderedMerges, ∃ rounds ≤ twoMerges.executionRoundLimit,
        requestedRounds releaseEvents merge.mergeID = List.range' 1 rounds := by
  have run : ((twoMerges.snapshot (.number 1)).bind fun created =>
      (created.applyReleaseEvents releaseEvents).map (·.state)) =
      some .readyForAcceptance := by decide
  obtain ⟨created, made, run⟩ := Option.bind_eq_some_iff.mp run
  obtain ⟨final, applied, ready⟩ := Option.map_eq_some_iff.mp run
  exact ⟨created, final, made, applied, ready, verified_release made rfl applied ready⟩

end Sample

end Tekroo.Kernel
