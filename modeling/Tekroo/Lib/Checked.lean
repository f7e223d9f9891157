import Mathlib.Tactic.Common

/-! # Chains of checks

The inversion lemmas turn "the chain succeeded" into the facts that its checks established, so a
proof about a guarded function never splits on its checks.
-/

namespace Tekroo

/-- The library's rules that turn a test into the proposition it decides, as one rule. -/
theorem tests_iff : type_of% Bool.and_eq_true ∧ type_of% Bool.or_eq_true ∧
    type_of% @Bool.or_eq_false_iff ∧ type_of% Bool.not_eq_true' ∧ type_of% Bool.not_eq_false' ∧
    type_of% @decide_eq_true_eq ∧ type_of% @beq_iff_eq.{0} ∧ type_of% @bne_iff_ne.{0} ∧
    type_of% @bne_eq_false_iff_eq.{0} ∧ type_of% @List.all_eq_true.{0} ∧
    type_of% @Option.ite_none_right_eq_some.{0} ∧ type_of% @Option.some.injEq.{0} :=
  ⟨Bool.and_eq_true, Bool.or_eq_true, Bool.or_eq_false_iff, Bool.not_eq_true', Bool.not_eq_false',
    decide_eq_true_eq, beq_iff_eq, bne_iff_ne, bne_eq_false_iff_eq, List.all_eq_true,
    Option.ite_none_right_eq_some, Option.some.injEq⟩

namespace Checked

variable {ε α β : Type} {items : List α}

def refuse (condition : Bool) (reason : ε) : Except ε Unit :=
  if condition then .error reason else .ok ()

def demand (found : Option α) (reason : ε) : Except ε α :=
  match found with
  | some value => .ok value
  | none => .error reason

/-- Every value is valid and none repeats; the first one that fails decides the reason. -/
def distinct [BEq α] (valid : α → Bool) (invalid duplicate : ε) (seen : List α) :
    List α → Except ε Unit
  | [] => .ok ()
  | value :: rest => do
    refuse (!valid value) invalid
    refuse (seen.contains value) duplicate
    distinct valid invalid duplicate (value :: seen) rest

@[simp] theorem refuse_ok (condition : Bool) (reason : ε) (result : Unit) :
    refuse condition reason = .ok result ↔ condition = false := by
  cases condition <;> simp [refuse]

theorem refuse_or (first second : Bool) (reason : ε) :
    (do refuse first reason; refuse second reason) = refuse (first || second) reason := by
  cases first <;> rfl

@[simp] theorem demand_ok (found : Option α) (reason : ε) (result : α) :
    demand found reason = .ok result ↔ found = some result := by
  cases found <;> simp [demand]

@[simp] theorem bind_ok (value : Except ε α) (next : α → Except ε β) (result : β) :
    (value >>= next) = .ok result ↔ ∃ input, value = .ok input ∧ next input = .ok result := by
  cases value <;> simp [bind, Except.bind]

@[simp] theorem map_ok (value : Except ε α) (change : α → β) (result : β) :
    (change <$> value) = .ok result ↔ ∃ input, value = .ok input ∧ change input = result := by
  cases value <;> simp [Functor.map, Except.map]

@[simp] theorem pure_ok (value result : α) :
    (pure value : Except ε α) = .ok result ↔ value = result := by
  simp [pure, Except.pure]

theorem mapM_ok {convert : α → Except ε β} {passes : α → Prop} {make : α → β}
    (converts : ∀ item result, convert item = .ok result ↔ passes item ∧ make item = result)
    {results : List β} :
    items.mapM convert = .ok results ↔
      (∀ item ∈ items, passes item) ∧ items.map make = results := by
  induction items generalizing results with
  | nil => simp
  | cons item rest induction =>
    simp only [List.mapM_cons, bind_ok, pure_ok, induction, converts, List.forall_mem_cons,
      List.map_cons]
    constructor
    · rintro ⟨_, ⟨first, rfl⟩, _, ⟨others, rfl⟩, rfl⟩
      exact ⟨⟨first, others⟩, rfl⟩
    · rintro ⟨⟨first, others⟩, rfl⟩
      exact ⟨_, ⟨first, rfl⟩, _, ⟨others, rfl⟩, rfl⟩

theorem foldlM_holds {σ : Type} {step : σ → α → Except ε σ} (Holds : σ → Prop)
    (keeps : ∀ before item after, Holds before → step before item = .ok after → Holds after)
    {first last : σ} (folded : items.foldlM step first = .ok last) (holds : Holds first) :
    Holds last := by
  induction items generalizing first with
  | nil => exact (pure_ok _ _).mp folded ▸ holds
  | cons item rest induction =>
    rw [List.foldlM_cons, bind_ok] at folded
    obtain ⟨middle, step, others⟩ := folded
    exact induction others (keeps first item middle holds step)

variable {valid : α → Bool} {invalid duplicate : ε} {seen values : List α}

theorem distinct_ok [BEq α] [LawfulBEq α] :
    distinct valid invalid duplicate seen values = .ok () ↔
      (∀ value ∈ values, valid value = true) ∧ values.Nodup ∧ ∀ value ∈ values, value ∉ seen := by
  induction values generalizing seen with
  | nil => simp [distinct]
  | cons first rest induction =>
    simp [distinct, bind_ok, induction, imp_and, forall_and]
    grind

@[simp] theorem exists_unit (statement : Unit → Prop) :
    (∃ result, statement result) ↔ statement () :=
  ⟨fun ⟨_, holds⟩ => holds, fun holds => ⟨(), holds⟩⟩

/-- What each step of a chain that succeeds has established, as one rule. -/
theorem chain_ok : type_of% @bind_ok ∧ type_of% @refuse_ok ∧ type_of% @demand_ok ∧
    type_of% @pure_ok ∧ type_of% exists_unit :=
  ⟨bind_ok, refuse_ok, demand_ok, pure_ok, exists_unit⟩

theorem nodup_of_sorted {relation : α → α → Prop} (sorted : values.Pairwise relation)
    (differ : values.IsChain (· ≠ ·))
    (antisymm : ∀ left ∈ values, ∀ right ∈ values,
      relation left right → relation right left → left = right) : values.Nodup := by
  induction values with
  | nil => exact .nil
  | cons first rest induction =>
    cases rest with
    | nil => simp
    | cons second rest =>
      obtain ⟨before, sorted⟩ := List.pairwise_cons.mp sorted
      obtain ⟨other, differ⟩ := List.isChain_cons_cons.mp differ
      refine List.nodup_cons.mpr ⟨fun member => ?_, induction sorted differ fun left within =>
        fun right also => antisymm left (.tail _ within) right (.tail _ also)⟩
      rcases List.mem_cons.mp member with same | later
      · exact other same
      · exact other (antisymm first (by simp) second (by simp) (before second (by simp))
          ((List.pairwise_cons.mp sorted).1 first later))

end Checked

end Tekroo
