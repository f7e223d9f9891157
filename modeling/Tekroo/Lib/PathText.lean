import Mathlib.Algebra.GroupWithZero.Nat
import Mathlib.Data.List.Basic
import Mathlib.Tactic.Common

/-! # Path texts -/

namespace Tekroo.Lib

/-- The part of a path between two slashes. -/
abbrev Name := String

/-- The text of a path cut at its slashes: `a/b` is `["a", "b"]`, `/a` is `["", "a"]` and the
empty text is `[""]`. -/
abbrev PathText := List Name

/-- The names on the way from the root of a tree to an entry. -/
abbrev Location := List Name

def Name.proper (name : Name) : Bool := name != "" && name != "." && name != ".."

/-- From the last dot on. -/
def Name.extension (name : Name) : String :=
  if '.' ∈ name.toList then
    String.ofList ('.' :: (name.toList.reverse.takeWhile (· ≠ '.')).reverse)
  else ""

theorem Name.proper_of {name : Name} (filled : ¬(name = "" ∨ name = ".")) (down : name ≠ "..") :
    Name.proper name = true := by
  simp only [not_or] at filled
  simp [Name.proper, filled, down]

def PathText.Proper (names : List Name) : Prop := ∀ name ∈ names, Name.proper name = true

namespace PathText

/-- `IsAbs`: the text begins with a slash. -/
def absolute : PathText → Bool
  | "" :: _ :: _ => true
  | _ => false

variable (path : PathText)

def text : String := "/".intercalate path

def size : Nat := (path.map String.utf8ByteSize).sum + (path.length - 1)

def push (rooted : Bool) (kept : List Name) (name : Name) : List Name :=
  if name = "" ∨ name = "." then kept
  else if name = ".." then
    match kept.getLast? with
    | none => if rooted then [] else [".."]
    | some last => if last = ".." then kept ++ [".."] else kept.dropLast
  else kept ++ [name]

def elements : List Name := path.foldl (push path.absolute) []

def clean : PathText :=
  match path.absolute, path.elements with
  | true, [] => ["", ""]
  | true, names => "" :: names
  | false, [] => ["."]
  | false, names => names

/-- `filepath.Dir`: all but the last part, cleaned. -/
def dir : PathText := clean (path.dropLast ++ [""])

/-- `filepath.Base`: the last part, trailing slashes apart. -/
def base : Name :=
  match path.reverse.dropWhile (· = "") with
  | name :: _ => name
  | [] => if path = [""] then "." else "/"

def ext : String := Name.extension (path.getLastD "")

end PathText

namespace Location

def text : Location → PathText
  | [] => ["", ""]
  | names => "" :: names

/-- `filepath.Join` of a location and a path. -/
def join (place : Location) (path : PathText) : PathText := PathText.clean (place.text ++ path)

/-- `filepath.Rel` between two locations. -/
def relative : Location → Location → PathText
  | first :: rest, name :: below =>
    if first = name then relative rest below
    else List.replicate (rest.length + 1) ".." ++ name :: below
  | [], [] => ["."]
  | [], below => below
  | above, [] => List.replicate above.length ".."

end Location

namespace PathText

variable {names path : PathText} {name : Name} {rooted : Bool} {kept : List Name} {front : PathText}

theorem Proper.append {first second : PathText} (left : Proper first) (right : Proper second) :
    Proper (first ++ second) :=
  List.forall_mem_append.mpr ⟨left, right⟩

theorem Proper.concat (proper : Proper names) (last : Name.proper name = true) :
    Proper (names ++ [name]) :=
  proper.append (List.forall_mem_singleton.mpr last)

theorem Proper.dropLast (proper : Proper names) : Proper names.dropLast :=
  fun name member => proper name (List.dropLast_subset names member)

theorem push_proper (proper : Name.proper name = true) :
    push rooted kept name = kept ++ [name] := by
  simp only [Name.proper, Bool.and_eq_true, bne_iff_ne] at proper
  obtain ⟨⟨filled, moves⟩, down⟩ := proper
  rw [push, if_neg (not_or.mpr ⟨filled, moves⟩), if_neg down]

theorem foldl_push_proper (proper : Proper names) :
    names.foldl (push rooted) kept = kept ++ names := by
  induction names generalizing kept with
  | nil => exact (List.append_nil kept).symm
  | cons name rest induction =>
    obtain ⟨first, later⟩ := List.forall_mem_cons.mp proper
    rw [List.foldl_cons, push_proper first, induction later, List.append_assoc]
    rfl

theorem base_proper (proper : Name.proper name = true) :
    base (front ++ [name]) = name := by
  simp only [Name.proper, Bool.and_eq_true, bne_iff_ne] at proper
  simp [base, proper.1.1]

theorem dir_proper (proper : Proper front) :
    dir (front ++ [name]) = if front = [] then ["."] else front := by
  unfold dir
  rw [List.dropLast_concat]
  cases front with
  | nil => rfl
  | cons first rest =>
    have relative : absolute (first :: rest ++ [""]) = false := by
      have := proper first (List.mem_cons_self ..)
      unfold absolute
      split
      · next same =>
        obtain ⟨rfl, _⟩ := List.cons.inj same
        cases this
      · rfl
    have kept : elements (first :: rest ++ [""]) = first :: rest := by
      rw [elements, relative, List.foldl_append, foldl_push_proper proper]
      rfl
    unfold clean
    rw [relative, kept]
    rfl

/-- What cleaning keeps: steps up, then proper names. -/
def Tidy (kept : List Name) : Prop :=
  ∃ (up : Nat) (names : List Name), kept = List.replicate up ".." ++ names ∧ Proper names

theorem Tidy.push (tidy : Tidy kept) : Tidy (push rooted kept name) := by
  obtain ⟨up, names, rfl, proper⟩ := tidy
  unfold PathText.push
  split
  · exact ⟨up, names, rfl, proper⟩
  · next filled =>
    split
    · rcases List.eq_nil_or_concat names with rfl | ⟨front, last, rfl⟩
      · rw [List.append_nil]
        cases up with
        | zero =>
          cases rooted with
          | true => exact ⟨0, [], rfl, nofun⟩
          | false => exact ⟨1, [], rfl, nofun⟩
        | succ up =>
          rw [List.getLast?_replicate, if_neg up.succ_ne_zero]
          refine ⟨up + 2, [], ?_, nofun⟩
          simp [← List.replicate_succ']
      · rw [List.concat_eq_append] at proper ⊢
        have down : last ≠ ".." := by
          rintro rfl
          have := proper ".." (by simp)
          cases this
        simp only [← List.append_assoc, List.getLast?_concat, down, if_false, List.dropLast_concat]
        exact ⟨up, front, rfl, fun other member => proper other (by simp [member])⟩
    · next down =>
      rw [List.append_assoc]
      exact ⟨up, names ++ [name], rfl, proper.concat (Name.proper_of filled down)⟩

theorem tidy_elements (path : PathText) : Tidy path.elements := by
  suffices ∀ kept, Tidy kept → Tidy (path.foldl (push path.absolute) kept) from
    this [] ⟨0, [], rfl, nofun⟩
  generalize path.absolute = rooted
  induction path with
  | nil => exact fun _ tidy => tidy
  | cons name rest induction => exact fun _ tidy => induction _ tidy.push

end PathText

namespace Location

variable {place : Location} {names : PathText}

theorem text_concat (place : Location) (name : Name) :
    (place ++ [name]).text = ("" :: place) ++ [name] := by
  cases place with
  | nil => rfl
  | cons => rfl

theorem text_absolute (place : Location) (names : PathText) :
    PathText.absolute (place.text ++ names) = true := by
  cases place with
  | nil => rfl
  | cons => rfl

theorem elements_text (proper : PathText.Proper (place ++ names)) :
    PathText.elements (place.text ++ names) = place ++ names := by
  cases place with
  | nil | cons => exact PathText.foldl_push_proper proper

theorem join_proper (proper : PathText.Proper (place ++ names)) :
    place.join names = (place ++ names).text := by
  unfold join PathText.clean
  rw [text_absolute, elements_text proper]
  cases place ++ names with
  | nil => rfl
  | cons => rfl

theorem prefix_of_relative {target : Location}
    (inside : (place.relative target).head? ≠ some "..") :
    place <+: target := by
  induction place generalizing target with
  | nil => exact List.nil_prefix
  | cons first rest induction =>
    cases target with
    | nil => exact absurd rfl inside
    | cons name below =>
      rw [relative] at inside
      split at inside
      · next same =>
        subst same
        exact (List.prefix_cons_inj first).mpr (induction inside)
      · exact absurd rfl inside

end Location

end Tekroo.Lib
