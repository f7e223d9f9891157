import Tekroo.Kernel.Fingerprint

namespace Tekroo.Wire

open Lib

section

variable {Digest : Type} (encoding : Encoding Digest)

/-! # Commands with the same fingerprint

A payload that is not JSON is digested as an object, and that object may itself be a payload.
-/

theorem DagParent.key_injective : Function.Injective DagParent.key := by
  rintro ⟨⟩ ⟨⟩ same
  simpa [key, and_comm] using same

theorem EvidenceRef.key_injective : Function.Injective EvidenceRef.key := by
  rintro ⟨⟩ ⟨⟩ same
  simpa [key] using same

theorem sort_eq_iff {α : Type} {key : α → String ×ₗ String} (slice : SliceSort notAfter key)
    (injective : Function.Injective key) {left right : List α} :
    slice.sort left = slice.sort right ↔ left.Perm right := by
  refine ⟨slice.perm_of_sort_eq, fun perm => slice.sort_eq_of_perm perm ?_⟩
  intro first _ second _ before after
  simp only [notAfter, decide_eq_true_eq] at before after
  exact injective (le_antisymm before after)

theorem AggregatePrecondition.tied_iff {first second : AggregatePrecondition} :
    (notAfter first.key second.key = true → notAfter second.key first.key = true →
      first = second) ↔ (first.aggregate = second.aggregate → first = second) := by
  have keys : first.key = second.key ↔ first.aggregate = second.aggregate := by
    rcases first with ⟨⟨_, _⟩, _⟩
    rcases second with ⟨⟨_, _⟩, _⟩
    simp [key]
  simp only [notAfter, decide_eq_true_eq, ← keys]
  exact ⟨fun determined same => determined same.le same.ge,
    fun determined before after => determined (le_antisymm before after)⟩

theorem digitChar_inj : ∀ {left right : Nat}, left < 16 → right < 16 →
    Nat.digitChar left = Nat.digitChar right → left = right := by
  have digits : ∀ left right : Fin 16,
      Nat.digitChar left = Nat.digitChar right → left = right := by decide
  intro left right small below same
  exact congrArg Fin.val (digits ⟨left, small⟩ ⟨right, below⟩ same)

theorem rawHex_injective : Function.Injective rawHex := by
  intro left right same
  simp only [rawHex, hexText, Json.object.injEq, List.cons.injEq, Prod.mk.injEq, true_and,
    and_true, Json.string.injEq, String.ofList_inj] at same
  induction left generalizing right with
  | nil => cases right <;> simp_all
  | cons first rest ih =>
    cases right with
    | nil => simp at same
    | cons second others =>
      simp only [List.flatMap_cons, List.cons_append, List.nil_append, List.cons.injEq] at same
      obtain ⟨high, low, same⟩ := same
      have small := first.toNat_lt
      have below := second.toNat_lt
      have high := digitChar_inj (by omega) (by omega) high
      have low := digitChar_inj (by omega) (by omega) low
      have byte : first = second := UInt8.toNat_inj.mp (by omega)
      rw [byte, ih same]

namespace Encoding

variable (left right : List UInt8)

/-- The same JSON value, or the same bytes when they are not JSON. -/
def SamePayload : Prop :=
  encoding.decode left = encoding.decode right ∧ (encoding.decode left = none → left = right)

/-- The payload `left` is the object that stands for `right`, which is not JSON. -/
def StandsFor : Prop := encoding.decode right = none ∧ encoding.decode left = some (rawHex right)

variable {encoding left right}

theorem payload_eq_iff : encoding.payload left = encoding.payload right ↔
    encoding.SamePayload left right ∨ encoding.StandsFor left right ∨
      encoding.StandsFor right left := by
  unfold payload SamePayload StandsFor
  cases first : encoding.decode left <;> cases second : encoding.decode right
  · simp [rawHex_injective.eq_iff]
  · simp [eq_comm]
  · simp
  · simp

end Encoding

variable (left right : KernelCommand)

/-- The commands agree on every field that is digested. -/
structure Agree : Prop where
  header : left.toCommandHeader = right.toCommandHeader
  causation : ∀ parent, parent ∈ left.causation ↔ parent ∈ right.causation
  evidenceRefs : ∀ evidence, evidence ∈ left.evidenceRefs ↔ evidence ∈ right.evidenceRefs
  preconditions : ∀ value, value ∈ left.preconditions ↔ value ∈ right.preconditions
  payload : encoding.SamePayload left.payload right.payload

/-- Neither command lists an entry more often than the other. -/
structure ListedEqually : Prop where
  causation : left.causation.Perm right.causation
  evidenceRefs : left.evidenceRefs.Perm right.evidenceRefs
  preconditions : left.preconditions.Perm right.preconditions

/-- Moreover the preconditions stand in one order, unless no aggregate has two. -/
structure ListedAlike : Prop extends ListedEqually left right where
  ordered : left.preconditions = right.preconditions ∨
    ∀ first ∈ left.preconditions, ∀ second ∈ left.preconditions,
      first.aggregate = second.aggregate → first = second

/-- The commands differ only in that the payload of one stands for that of the other. -/
structure Confused : Prop where
  header : left.toCommandHeader = right.toCommandHeader
  listed : ListedEqually left right
  payload : encoding.StandsFor left.payload right.payload ∨
    encoding.StandsFor right.payload left.payload

variable {encoding left right}

theorem commandFingerprint_eq_iff {sorting : Sorting} :
    commandFingerprint encoding sorting left = commandFingerprint encoding sorting right ↔
      sorting.canonicalPreconditions.sort left.preconditions =
          sorting.canonicalPreconditions.sort right.preconditions ∧
        (Agree encoding left right ∧ ListedEqually left right ∨ Confused encoding left right) := by
  rw [commandFingerprint, commandFingerprint, encoding.digest_injective.eq_iff, semantic_eq_iff,
    sort_eq_iff _ DagParent.key_injective, sort_eq_iff _ EvidenceRef.key_injective,
    Encoding.payload_eq_iff]
  constructor
  · rintro ⟨header, causation, evidence, preconditions, payload⟩
    have listed : ListedEqually left right :=
      ⟨causation, evidence, SliceSort.perm_of_sort_eq _ preconditions⟩
    refine ⟨preconditions, payload.imp (fun same => ⟨?_, listed⟩) (⟨header, listed, ·⟩)⟩
    exact ⟨header, fun _ => causation.mem_iff, fun _ => evidence.mem_iff,
      fun _ => listed.preconditions.mem_iff, same⟩
  · rintro ⟨preconditions, ⟨agree, listed⟩ | ⟨header, listed, stands⟩⟩
    · exact ⟨agree.header, listed.causation, listed.evidenceRefs, preconditions,
        .inl agree.payload⟩
    · exact ⟨header, listed.causation, listed.evidenceRefs, preconditions, .inr stands⟩

theorem forall_canonicalPreconditions_eq_iff :
    (∀ sorting : Sorting, sorting.canonicalPreconditions.sort left.preconditions =
        sorting.canonicalPreconditions.sort right.preconditions) ↔
      left.preconditions.Perm right.preconditions ∧
        (left.preconditions = right.preconditions ∨
          ∀ first ∈ left.preconditions, ∀ second ∈ left.preconditions,
            first.aggregate = second.aggregate → first = second) := by
  simp only [← AggregatePrecondition.tied_iff]
  rw [← SliceSort.forall_sort_eq_iff notAfter_total notAfter_trans]
  exact ⟨fun all slice => all { canonicalPreconditions := slice },
    fun all sorting => all sorting.canonicalPreconditions⟩

theorem Confused.disagree (confused : Confused encoding left right) :
    ¬Agree encoding left right := by
  intro agree
  have same := agree.payload.1
  rcases confused.payload with ⟨raw, json⟩ | ⟨raw, json⟩ <;> simp [raw, json] at same

/-- However the sort arranges what it need not order, equal fingerprints mean that the commands
agree, except for commands one of which has the object for the other's payload, and for commands
that agree but list an entry more often, or the preconditions on one aggregate in another order. -/
theorem fingerprint_identifies_iff :
    (∀ sorting,
      commandFingerprint encoding sorting left = commandFingerprint encoding sorting right ↔
        Agree encoding left right) ↔
    ¬Confused encoding left right ∧ (Agree encoding left right → ListedAlike left right) := by
  simp only [commandFingerprint_eq_iff]
  constructor
  · intro identifies
    constructor
    · intro confused
      obtain ⟨slice, same⟩ :=
        SliceSort.exists_sort_eq notAfter_total notAfter_trans confused.listed.preconditions
      exact confused.disagree
        ((identifies { canonicalPreconditions := slice }).mp ⟨same, .inr confused⟩)
    · intro agree
      have all sorting := (identifies sorting).mpr agree
      have ordered := (forall_canonicalPreconditions_eq_iff.mp fun sorting => (all sorting).1).2
      rcases (all {}).2 with ⟨_, listed⟩ | confused
      · exact ⟨listed, ordered⟩
      · exact ⟨confused.listed, ordered⟩
  · rintro ⟨apart, listed⟩ sorting
    constructor
    · rintro ⟨_, ⟨agree, _⟩ | confused⟩
      · exact agree
      · exact absurd confused apart
    · intro agree
      have alike := listed agree
      exact ⟨forall_canonicalPreconditions_eq_iff.mpr ⟨alike.preconditions, alike.ordered⟩ sorting,
        .inl ⟨agree, alike.toListedEqually⟩⟩

end

namespace Sample

/-- The bytes of the object whose `raw_hex` is `78`. -/
def object : List UInt8 :=
  [123, 34, 114, 97, 119, 95, 104, 101, 120, 34, 58, 34, 55, 56, 34, 125]

def encoding : Encoding Json where
  decode bytes := if bytes = object then some (rawHex [120]) else none
  digest := id
  digest_injective := Function.injective_id
  decode_letter := rfl
  decode_object := rfl

def command (payload : List UInt8) : KernelCommand where
  contractManifest := "tekroo.kernel"
  commandType := "tekroo.command.story.create"
  commandVersion := "1.0.0"
  target := ⟨"STORY", "00000000-0000-7000-8000-000000000001"⟩
  authority := ⟨"HUMAN", "operator"⟩
  actorFQN := none
  execution := none
  expectedRevision := ⟨true, 0⟩
  expectedLifecycleEpoch := none
  expectedPolicyRevision := 1
  expectedCatalogueRevision := 1
  commandID := "00000000-0000-7000-8000-000000000002"
  preconditions := [⟨⟨"CELL", "north"⟩, ⟨false, 2⟩⟩, ⟨⟨"CELL", "south"⟩, ⟨false, 3⟩⟩]
  idempotencyKey := "create"
  correlationID := "00000000-0000-7000-8000-000000000003"
  causation := []
  issuedAt := none
  payload
  evidenceRefs := [⟨"plan", "aa"⟩, ⟨"report", "bb"⟩]

/-- The lists in another order are the same command. -/
theorem reversed_identified : ∀ sorting, commandFingerprint encoding sorting (command object) =
    commandFingerprint encoding sorting { command object with
      preconditions := (command object).preconditions.reverse
      evidenceRefs := (command object).evidenceRefs.reverse } := by
  have agree : Agree encoding (command object) { command object with
      preconditions := (command object).preconditions.reverse
      evidenceRefs := (command object).evidenceRefs.reverse } :=
    ⟨rfl, fun _ => Iff.rfl, fun _ => by simp, fun _ => by simp, rfl, fun _ => rfl⟩
  refine fun sorting => (fingerprint_identifies_iff.mpr ⟨fun confused => confused.disagree agree,
    fun _ => ⟨⟨.refl _, ?_, ?_⟩, .inr ?_⟩⟩ sorting).mpr agree
  · exact (List.reverse_perm _).symm
  · exact (List.reverse_perm _).symm
  · simp [command]

/-- Under no encoding does the fingerprint tell the payload `x`, which is not JSON, from the JSON
object that spells its hexadecimal digits. -/
theorem letter_confused : ¬∃ (Digest : Type) (encoding : Encoding Digest) (sorting : Sorting),
    (commandFingerprint encoding sorting (command [120]) =
      commandFingerprint encoding sorting (command object) ↔
        Agree encoding (command [120]) (command object)) := by
  rintro ⟨Digest, encoding, sorting, identifies⟩
  have confused : Confused encoding (command [120]) (command object) :=
    ⟨rfl, ⟨.refl _, .refl _, .refl _⟩, .inr ⟨encoding.decode_letter, encoding.decode_object⟩⟩
  exact confused.disagree
    (identifies.mp (commandFingerprint_eq_iff.mpr ⟨rfl, .inr confused⟩))

end Sample

end Tekroo.Wire
