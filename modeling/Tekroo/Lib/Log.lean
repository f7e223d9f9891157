import Mathlib.Data.List.Count
import Mathlib.Data.List.TakeWhile
import Mathlib.Tactic.Common
import Tekroo.Lib.Table

/-! # Append-only logs

The entries of a log belong to keys; the entries of each key are numbered on their own.
-/

namespace Tekroo.Lib

variable {ε κ : Type} {entry : ε} {log : List ε} {place : Nat} {start : ε → Bool}

section Numbering

variable [DecidableEq κ] (key : ε → κ) (number : ε → Nat)

def entriesOf (log : List ε) (wanted : κ) : List ε := log.filter fun entry => key entry == wanted

/-- The entries of every key are numbered 1, 2, 3 and so on. -/
def Numbered (log : List ε) : Prop :=
  ∀ wanted, (entriesOf key log wanted).map number =
    List.range' 1 (entriesOf key log wanted).length

variable {key number} {log : List ε} {entry : ε}

theorem entriesOf_append (wanted : κ) :
    entriesOf key (log ++ [entry]) wanted =
      if key entry = wanted then entriesOf key log wanted ++ [entry]
      else entriesOf key log wanted := by
  by_cases same : key entry = wanted <;> simp [entriesOf, same]

theorem Numbered.append (numbered : Numbered key number log)
    (next : number entry = (entriesOf key log (key entry)).length + 1) :
    Numbered key number (log ++ [entry]) := by
  intro wanted
  rw [entriesOf_append]
  split
  · next same =>
    subst same
    rw [List.map_append, numbered (key entry), List.length_append, List.length_singleton,
      List.range'_1_concat, List.map_singleton, next, Nat.add_comm 1]
  · exact numbered wanted

end Numbering

theorem find?_append_of_some {p : ε → Bool} {more : List ε} (found : log.find? p = some entry) :
    (log ++ more).find? p = some entry := by
  simp [found]

theorem split_append_singleton {before after : List ε} {last : ε}
    (split : log ++ [last] = before ++ entry :: after) :
    (before = log ∧ entry = last ∧ after = []) ∨
      ∃ rest, after = rest ++ [last] ∧ log = before ++ entry :: rest := by
  rcases after.eq_nil_or_concat' with rfl | ⟨rest, final, rfl⟩
  · obtain ⟨same, ends⟩ := List.append_inj' split rfl
    exact .inl ⟨same.symm, (List.singleton_inj.mp ends).symm, rfl⟩
  · rw [← List.cons_append, ← List.append_assoc] at split
    obtain ⟨same, ends⟩ := List.append_inj' split rfl
    obtain rfl := List.singleton_inj.mp ends
    exact .inr ⟨rest, rfl, same⟩

/-- The part of the log after the first entry that `start` accepts. -/
def since (start : ε → Bool) (log : List ε) : List ε :=
  (log.dropWhile fun entry => !start entry).tail

theorem since_append (more : List ε) (started : ∃ entry ∈ log, start entry = true) :
    since start (log ++ more) = since start log ++ more := by
  induction log with
  | nil => simp at started
  | cons entry rest induction =>
    by_cases here : start entry = true
    · simp [since, here]
    · have later : ∃ entry ∈ rest, start entry = true := by simpa [here] using started
      simpa [since, List.dropWhile_cons, here] using induction later

theorem since_append_start (unstarted : ∀ entry ∈ log, start entry = false)
    (here : start entry = true) :
    since start (log ++ [entry]) = [] := by
  have dropped : log.dropWhile (fun entry => !start entry) = [] := by
    simpa [List.dropWhile_eq_nil_iff] using unstarted
  simp [since, List.dropWhile_append, dropped, here]

/-- The table holds the value of every entry under the entry's key, and no two entries share
a key. -/
structure Indexes {ν : Type} [DecidableEq κ] (key : ε → κ) (value : ε → ν) (log : List ε)
    (table : AList fun _ : κ => ν) : Prop where
  distinct : (log.map key).Nodup
  lookup : ∀ wanted found, table.lookup wanted = some found ↔
    ∃ entry ∈ log, key entry = wanted ∧ value entry = found

namespace Indexes

variable {ν : Type} [DecidableEq κ] {key : ε → κ} {value : ε → ν} {log : List ε}
  {table : AList fun _ : κ => ν} {entry other : ε}

theorem empty : Indexes key value [] ∅ := ⟨.nil, by simp⟩

variable (indexes : Indexes key value log table)

include indexes

theorem of_mem (member : entry ∈ log) :
    table.lookup (key entry) = some (value entry) :=
  (indexes.lookup _ _).mpr ⟨entry, member, rfl, rfl⟩

theorem unique (left : entry ∈ log) (right : other ∈ log) (same : key entry = key other) :
    entry = other :=
  List.inj_on_of_nodup_map indexes.distinct left right same

theorem append (absent : table.lookup (key entry) = none) :
    Indexes key value (log ++ [entry]) (table.insert (key entry) (value entry)) := by
  have new : ∀ old ∈ log, key old ≠ key entry := fun old member same => by
    rw [← same, indexes.of_mem member] at absent
    cases absent
  constructor
  · rw [List.map_append, List.map_singleton, List.nodup_append]
    simpa [indexes.distinct] using new
  · intro wanted found
    rw [lookup_insert_eq_ite]
    simp only [List.mem_append, List.mem_singleton, or_and_right, exists_or, exists_eq_left]
    split
    · next same =>
      subst same
      have fresh : ¬ ∃ old ∈ log, key old = key entry ∧ value old = found :=
        fun ⟨old, member, same, _⟩ => new old member same
      simp [fresh]
    · next different => simp [indexes.lookup, Ne.symm different]

end Indexes

/-- Every value of the table keeps account of the entries of its key, and every entry has one. -/
def Accounted {ν : Type} [DecidableEq κ] (key : ε → κ) (Keeps : κ → ν → List ε → Prop)
    (table : AList fun _ : κ => ν) (log : List ε) : Prop :=
  ∀ wanted, match table.lookup wanted with
    | none => entriesOf key log wanted = []
    | some value => Keeps wanted value (entriesOf key log wanted)

namespace Accounted

variable {ν : Type} [DecidableEq κ] {key : ε → κ} {Keeps : κ → ν → List ε → Prop} {log : List ε}
  {table : AList fun _ : κ => ν} {entry : ε} {wanted : κ} {value next : ν}
  (accounted : Accounted key Keeps table log)

include accounted

theorem get (found : table.lookup wanted = some value) :
    Keeps wanted value (entriesOf key log wanted) := by
  simpa only [found] using accounted wanted

theorem write (kept : Keeps wanted value (entriesOf key log wanted)) :
    Accounted key Keeps (table.insert wanted value) log := by
  intro other
  rw [lookup_insert_eq_ite]
  by_cases same : other = wanted
  · subst same
    simpa using kept
  · rw [if_neg same]
    exact accounted other

theorem charge (found : table.lookup (key entry) = some value)
    (charged : Keeps (key entry) value (entriesOf key log (key entry)) →
      Keeps (key entry) next (entriesOf key log (key entry) ++ [entry])) :
    Accounted key Keeps (table.insert (key entry) next) (log ++ [entry]) := by
  intro wanted
  rw [lookup_insert_eq_ite, entriesOf_append]
  by_cases same : wanted = key entry
  · subst same
    simpa using charged (accounted.get found)
  · rw [if_neg same, if_neg (Ne.symm same)]
    exact accounted wanted

end Accounted

/-! ## Counters of a growing list

A list of items is counted as a whole and per category.
-/

variable {α γ : Type} [DecidableEq γ] {category : α → γ} {items : List α} {total : Nat}
  {per : γ → Nat}

structure Tally (category : α → γ) (items : List α) (total : Nat) (per : γ → Nat) : Prop where
  total : total = items.length
  per : ∀ wanted, per wanted = items.countP fun item => category item == wanted

theorem Tally.nil (zero : ∀ wanted, per wanted = 0) : Tally category [] 0 per where
  total := rfl
  per := zero

theorem Tally.append {item : α} {next : γ → Nat} (tally : Tally category items total per)
    (counted : ∀ wanted, next wanted =
      if wanted = category item then per wanted + 1 else per wanted) :
    Tally category (items ++ [item]) (total + 1) next where
  total := by simp [tally.total]
  per := fun wanted => by
    rw [counted, List.countP_append, List.countP_singleton, ← tally.per]
    by_cases same : wanted = category item
    · simp [same]
    · simp [same, Ne.symm same]

end Tekroo.Lib
