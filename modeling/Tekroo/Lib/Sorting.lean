import Mathlib.Data.List.Pairwise
import Mathlib.Data.List.Sort

namespace Tekroo.Lib

/-! # Sorts that need not be stable -/

variable {α κ : Type} {le : κ → κ → Bool} {key : α → κ}

/-- A sort by keys that says nothing of the order of values with equal keys, as `sort.Slice`. -/
structure SliceSort (le : κ → κ → Bool) (key : α → κ) where
  sort : List α → List α
  perm (values : List α) : (sort values).Perm values
  sorted (values : List α) :
    (sort values).Pairwise fun left right => le (key left) (key right) = true

namespace SliceSort

def insertion (total : ∀ left right, le left right = true ∨ le right left = true)
    (trans : ∀ {left middle right}, le left middle = true → le middle right = true →
      le left right = true) (key : α → κ) : SliceSort le key where
  sort values := values.insertionSort fun left right => le (key left) (key right)
  perm values := List.perm_insertionSort _ values
  sorted values :=
    have : Std.Total fun left right => le (key left) (key right) = true := ⟨fun _ _ => total _ _⟩
    have : IsTrans α fun left right => le (key left) (key right) = true := ⟨fun _ _ _ => trans⟩
    List.pairwise_insertionSort _ values

variable (slice : SliceSort le key) {left right : List α}

@[simp] theorem mem_sort {value : α} : value ∈ slice.sort left ↔ value ∈ left :=
  (slice.perm left).mem_iff

theorem perm_of_sort_eq (same : slice.sort left = slice.sort right) : left.Perm right :=
  (slice.perm left).symm.trans (same ▸ slice.perm right)

/-- Where values with equal keys are equal, the arrangement depends on the values alone. -/
theorem sort_eq_of_perm (perm : left.Perm right)
    (determined : ∀ first ∈ left, ∀ second ∈ left, le (key first) (key second) = true →
      le (key second) (key first) = true → first = second) :
    slice.sort left = slice.sort right := by
  refine List.Perm.eq_of_pairwise (fun first second member also before after => ?_)
    (slice.sorted left) (slice.sorted right)
    ((slice.perm left).trans (perm.trans (slice.perm right).symm))
  exact determined first (slice.mem_sort.mp member) second
    (perm.mem_iff.mpr (slice.mem_sort.mp also)) before after

/-- Another arrangement of one list. -/
def override [DecidableEq α] {arranged : List α} (perm : arranged.Perm left)
    (sorted : arranged.Pairwise fun first second => le (key first) (key second) = true) :
    SliceSort le key where
  sort values := if values = left then arranged else slice.sort values
  perm values := by
    split
    · next same => exact same ▸ perm
    · exact slice.perm values
  sorted values := by
    split
    · exact sorted
    · exact slice.sorted values

section Ties

variable (total : ∀ left right, le left right = true ∨ le right left = true)
  (trans : ∀ {left middle right}, le left middle = true → le middle right = true →
    le left right = true)

include total trans

/-- Some arrangement has, among values with equal keys, those that pass a test last. -/
theorem exists_arranged (last : α → Bool) (values : List α) :
    ∃ arranged : List α, arranged.Perm values ∧ arranged.Pairwise fun first second =>
      le (key first) (key second) = true ∧
        (le (key second) (key first) = true → last first = true → last second = true) := by
  let within (first second : κ × Bool) : Bool :=
    le first.1 second.1 && (!le second.1 first.1 || !first.2 || second.2)
  have both : ∀ first second, within first second = true ∨ within second first = true := by
    intro first second
    have := total first.1 second.1
    grind
  have chained : ∀ {first middle second}, within first middle = true →
      within middle second = true → within first second = true := by
    intro first middle second before after
    have := @trans first.1 middle.1 second.1
    have := @trans second.1 first.1 middle.1
    have := @trans middle.1 second.1 first.1
    grind
  refine ⟨_, (insertion both chained fun value => (key value, last value)).perm values,
    ((insertion both chained fun value => (key value, last value)).sorted values).imp ?_⟩
  intro first second arranged
  grind

variable [DecidableEq α]

/-- All sorts arrange two lists alike exactly when the lists are the same, or have the same values
and these differ in their keys. -/
theorem forall_sort_eq_iff :
    (∀ slice : SliceSort le key, slice.sort left = slice.sort right) ↔
      left.Perm right ∧ (left = right ∨ ∀ first ∈ left, ∀ second ∈ left,
        le (key first) (key second) = true → le (key second) (key first) = true →
          first = second) := by
  constructor
  · intro alike
    let base : SliceSort le key := insertion total trans key
    refine ⟨base.perm_of_sort_eq (alike base), or_iff_not_imp_left.mpr fun differ => ?_⟩
    intro first member second also before after
    by_contra other
    obtain ⟨late, perm, arranged⟩ := exists_arranged total trans (· == first) left
    obtain ⟨early, permEarly, arrangedEarly⟩ :=
      exists_arranged total trans (· != first) left
    have same : ∀ {arranged : List α} (perm : arranged.Perm left)
        (sorted : arranged.Pairwise fun first second => le (key first) (key second) = true),
        arranged = base.sort right := by
      intro arranged perm sorted
      simpa [override, Ne.symm differ] using alike (base.override perm sorted)
    have one : late = early := (same perm (arranged.imp And.left)).trans
      (same permEarly (arrangedEarly.imp And.left)).symm
    subst one
    have tied : late.Pairwise fun one another => le (key one) (key another) = true →
        le (key another) (key one) = true → (one = first ↔ another = first) := by
      refine (arranged.and arrangedEarly).imp ?_
      grind
    have : Std.Symm fun one another => le (key one) (key another) = true →
        le (key another) (key one) = true → (one = first ↔ another = first) :=
      ⟨fun _ _ holds before after => (holds after before).symm⟩
    have all := tied.forall_of_forall (fun _ _ _ _ => Iff.rfl)
      (perm.mem_iff.mpr member) (perm.mem_iff.mpr also) before after
    exact other (all.mp rfl).symm
  · rintro ⟨perm, rfl | determined⟩ slice
    · rfl
    · exact slice.sort_eq_of_perm perm determined

theorem exists_sort_eq (perm : left.Perm right) :
    ∃ slice : SliceSort le key, slice.sort left = slice.sort right := by
  let base : SliceSort le key := insertion total trans key
  refine ⟨base.override ((base.perm right).trans perm.symm) (base.sorted right), ?_⟩
  simp [override]

end Ties

end SliceSort

end Tekroo.Lib
