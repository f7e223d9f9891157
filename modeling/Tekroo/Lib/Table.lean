import Mathlib.Data.List.AList
import Mathlib.Data.List.Induction

/-! # Finite maps: inserting several entries, and lists as maps -/

namespace Tekroo.Lib

variable {κ ν : Type} [DecidableEq κ]

def insertAll (table : AList fun _ : κ => ν) (entries : List (κ × ν)) : AList fun _ : κ => ν :=
  entries.foldl (fun table entry => table.insert entry.1 entry.2) table

variable (table : AList fun _ : κ => ν)

@[simp] theorem insertAll_nil : insertAll table [] = table := rfl

@[simp] theorem insertAll_cons (entry : κ × ν) (rest : List (κ × ν)) :
    insertAll table (entry :: rest) = insertAll (table.insert entry.1 entry.2) rest := rfl

theorem lookup_insert_eq_ite (key other : κ) (value : ν) :
    (table.insert key value).lookup other =
      if other = key then some value else table.lookup other := by
  split
  · next same => subst same; simp
  · next different => simp [AList.lookup_insert_ne different]

variable {key : κ} {value : ν} {entries : List (κ × ν)}

theorem lookup_insertAll_of_notMem (absent : ∀ entry ∈ entries, entry.1 ≠ key) :
    (insertAll table entries).lookup key = table.lookup key := by
  induction entries generalizing table with
  | nil => rfl
  | cons entry rest induction =>
    rw [insertAll_cons, induction _ fun other member => absent other (by simp [member]),
      lookup_insert_eq_ite, if_neg (absent entry (by simp)).symm]

theorem lookup_insertAll_map {α : Type} (key : α → κ) (value : κ → ν) (items : List α)
    (wanted : κ) :
    (insertAll table (items.map fun item => (key item, value (key item)))).lookup wanted =
      if ∃ item ∈ items, key item = wanted then some (value wanted) else table.lookup wanted := by
  induction items generalizing table with
  | nil => simp
  | cons item rest induction =>
    simp only [List.map_cons, insertAll_cons, induction, lookup_insert_eq_ite,
      List.exists_mem_cons_iff]
    by_cases later : ∃ item ∈ rest, key item = wanted
    · simp only [later, or_true, if_true]
    · by_cases same : wanted = key item
      · simp [same]
      · simp [later, same, Ne.symm same]

theorem mem_insertAll :
    key ∈ insertAll table entries ↔ key ∈ table ∨ ∃ entry ∈ entries, entry.1 = key := by
  induction entries generalizing table with
  | nil => simp
  | cons entry rest induction =>
    rw [insertAll_cons, induction, AList.mem_insert, List.exists_mem_cons_iff,
      or_comm (a := key = _), or_assoc, eq_comm (a := key)]

theorem lookup_insertAll_toList (key wanted : κ) (value : Option ν) :
    (insertAll table (value.toList.map (key, ·))).lookup wanted =
      if wanted = key then value.or (table.lookup wanted) else table.lookup wanted := by
  cases value <;> simp [lookup_insert_eq_ite]

variable {table}

theorem lookup_insertAll_some
    (found : (insertAll table entries).lookup key = some value) :
    table.lookup key = some value ∨ (key, value) ∈ entries := by
  induction entries generalizing table with
  | nil => exact .inl found
  | cons entry rest induction =>
    rcases induction found with before | listed
    · rw [lookup_insert_eq_ite] at before
      split at before
      · next same =>
        cases before
        exact .inr (List.mem_cons.mpr (.inl (by rw [same])))
      · exact .inl before
    · exact .inr (List.mem_cons_of_mem _ listed)

theorem lookup_insertAll_bind {σ : Type} {part : σ → Option (κ × ν)} {change : Option σ}
    (found : (insertAll table (change.bind part).toList).lookup key = some value) :
    table.lookup key = some value ∨
      ∃ written, change = some written ∧ part written = some (key, value) :=
  (lookup_insertAll_some found).imp_right fun listed =>
    Option.bind_eq_some_iff.mp (Option.mem_toList.mp listed)

variable {α : Type} (view : ν → α)

theorem entries_insert_new (absent : table.lookup key = none) :
    ((table.insert key value).entries.map fun entry => view entry.2) =
      view value :: table.entries.map fun entry => view entry.2 := by
  rw [AList.entries_insert_of_notMem (AList.lookup_eq_none.mp absent), List.map_cons]

theorem entries_insert_found (found : table.lookup key = some value) :
    (table.insert key value).entries.Perm table.entries := by
  refine List.lookup_ext (AList.nodupKeys _) table.nodupKeys fun other value => ?_
  change value ∈ (table.insert key _).lookup other ↔ value ∈ table.lookup other
  rw [lookup_insert_eq_ite]
  split
  · next equal => rw [equal, found]
  · rfl

variable {before after : ν}

theorem entries_insert_same (found : table.lookup key = some before)
    (same : view after = view before) :
    ((table.insert key after).entries.map fun entry => view entry.2).Perm
      (table.entries.map fun entry => view entry.2) := by
  refine .trans (.of_eq ?_) ((entries_insert_found found).map fun entry => view entry.2)
  rw [AList.entries_insert, AList.entries_insert, List.map_cons, List.map_cons, same]

def count (table : AList fun _ : κ => ν) (test : ν → Bool) : Nat :=
  table.entries.countP fun entry => test entry.2

variable {test : ν → Bool}

theorem count_insert_new (absent : table.lookup key = none) :
    count (table.insert key after) test = count table test + if test after then 1 else 0 := by
  rw [count, AList.entries_insert_of_notMem (AList.lookup_eq_none.mp absent), List.countP_cons,
    count]

theorem count_insert_le (found : table.lookup key = some before)
    (steady : test after = true → test before = true) :
    count (table.insert key after) test ≤ count table test := by
  rw [count, count, ← (entries_insert_found found).countP_eq, AList.entries_insert,
    AList.entries_insert, List.countP_cons, List.countP_cons]
  split
  · next passes => rw [if_pos (steady passes)]
  · omega

variable {key : α → κ} {items : List α} (distinct : (items.map key).Nodup) {wanted : κ}

include distinct

theorem find?_key_iff {item : α} :
    items.find? (fun item => key item == wanted) = some item ↔
      item ∈ items ∧ key item = wanted := by
  constructor
  · intro found
    exact ⟨List.mem_of_find?_eq_some found, by simpa using List.find?_some found⟩
  · rintro ⟨member, rfl⟩
    obtain ⟨other, found⟩ :
        ∃ other, items.find? (fun other => key other == key item) = some other :=
      Option.isSome_iff_exists.mp (List.find?_isSome.mpr ⟨item, member, by simp⟩)
    have same : key other = key item := by simpa using List.find?_some found
    rw [found, List.inj_on_of_nodup_map distinct (List.mem_of_find?_eq_some found) member same]

theorem countP_le_succ_of_key {before after : α → Bool}
    (kept : ∀ item ∈ items, key item ≠ wanted → after item = true → before item = true) :
    items.countP after ≤ items.countP before + 1 := by
  induction items with
  | nil => simp
  | cons head rest induction =>
    rw [List.map_cons, List.nodup_cons] at distinct
    have tail := induction distinct.2 fun item member => kept item (List.mem_cons_of_mem _ member)
    by_cases same : key head = wanted
    · -- Nothing behind the head has its key.
      have others : rest.countP after ≤ rest.countP before :=
        List.countP_mono_left fun item member => kept item (List.mem_cons_of_mem _ member)
          fun also => distinct.1 (List.mem_map.mpr ⟨item, member, also.trans same.symm⟩)
      rw [List.countP_cons, List.countP_cons]
      split <;> split <;> omega
    · have first := kept head List.mem_cons_self same
      rw [List.countP_cons, List.countP_cons]
      split
      · next counts => rw [if_pos (first counts)]; omega
      · omega

end Tekroo.Lib
