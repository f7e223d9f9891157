import Mathlib.Data.List.Chain
import Mathlib.Tactic.Common

/-! # Lines of succession

A list in which the first item begins a line and every other item follows the one before it.
-/

namespace Tekroo.Lib

variable {α : Type} {Begins : α → Prop} {Follows : α → α → Prop} {items : List α} {item : α}

structure Lineage (Begins : α → Prop) (Follows : α → α → Prop) (items : List α) : Prop where
  first : ∀ item, items.head? = some item → Begins item
  chain : items.IsChain Follows

def Succeeds (Begins : α → Prop) (Follows : α → α → Prop) (items : List α) (item : α) : Prop :=
  match items.getLast? with
  | none => Begins item
  | some last => Follows last item

namespace Lineage

theorem nil : Lineage Begins Follows [] where
  first := by simp
  chain := .nil

theorem append (lineage : Lineage Begins Follows items)
    (next : Succeeds Begins Follows items item) : Lineage Begins Follows (items ++ [item]) := by
  unfold Succeeds at next
  cases items with
  | nil => exact ⟨by simpa using next, by simp⟩
  | cons first rest =>
    constructor
    · intro found same
      exact lineage.first found (by simpa using same)
    · refine lineage.chain.append (by simp) fun last ended found started => ?_
      cases started
      rwa [Option.mem_def.mp ended] at next

variable {place : Nat}

theorem follows (lineage : Lineage Begins Follows items) (found : items[place + 1]? = some item) :
    ∃ prior, items[place]? = some prior ∧ Follows prior item := by
  obtain ⟨bound, rfl⟩ := List.getElem?_eq_some_iff.mp found
  exact ⟨items[place], List.getElem?_eq_getElem _,
    List.isChain_iff_getElem.mp lineage.chain _ bound⟩

variable (number : α → Nat) (lineage : Lineage Begins Follows items)
  (begins : ∀ {item}, Begins item → number item = 1)
  (counts : ∀ {prior item}, Follows prior item → number item = number prior + 1)

include lineage begins counts

theorem number_of_place (found : items[place]? = some item) :
    number item = place + 1 := by
  induction place generalizing item with
  | zero =>
    refine begins (lineage.first item ?_)
    rwa [List.head?_eq_getElem?]
  | succ place induction =>
    obtain ⟨prior, before, follows⟩ := lineage.follows found
    rw [counts follows, induction before]

theorem numbered : items.map number = List.range' 1 items.length := by
  refine List.ext_getElem (by simp) fun place inside _ => ?_
  rw [List.length_map] at inside
  have placed := lineage.number_of_place number begins counts (List.getElem?_eq_getElem inside)
  simpa [Nat.add_comm 1] using placed

theorem last_of_highest (member : item ∈ items)
    (highest : ∀ other ∈ items, number other ≤ number item) :
    items.getLast? = some item := by
  obtain ⟨place, found⟩ := List.getElem?_of_mem member
  obtain ⟨bound, rfl⟩ := List.getElem?_eq_some_iff.mp found
  have end_ : items.length - 1 < items.length := by omega
  have own := lineage.number_of_place number begins counts found
  have last := lineage.number_of_place number begins counts (List.getElem?_eq_getElem end_)
  have below := highest _ (List.getElem_mem end_)
  have same : place = items.length - 1 := by omega
  rwa [List.getLast?_eq_getElem?, ← same]

end Lineage

end Tekroo.Lib
