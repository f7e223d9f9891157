import Mathlib.Data.List.Dedup
import Tekroo.Lib.PathText

/-! # Directory trees with symbolic links

A path is followed from a directory name by name; a link on the way is replaced by the path that it
holds.
-/

namespace Tekroo.Lib

inductive FileTree (φ : Type) where
  | file (data : φ)
  | link (target : PathText)
  | directory (entries : List (Name × FileTree φ))
  | special

inductive PathFault where
  | notExist | notDirectory | tooManyLinks

namespace FileTree

variable {φ : Type} (entries : List (Name × FileTree φ))

def isDirectory : FileTree φ → Bool
  | .directory _ => true
  | _ => false

def isLink : FileTree φ → Bool
  | .link _ => true
  | _ => false

def entry (tree : FileTree φ) (name : Name) : Option (FileTree φ) :=
  match tree with
  | .directory entries => entries.lookup name
  | _ => none

def get (tree : FileTree φ) : Location → Option (FileTree φ)
  | [] => some tree
  | name :: rest => (tree.entry name).bind (·.get rest)

/-- Along a path up to its first link, which hands the path that is left over to `through`. -/
def pass (tree : FileTree φ) (through : PathText → Location → Except PathFault Location) :
    PathText → Location → Except PathFault Location
  | [], place => .ok place
  | name :: rest, place =>
    if name = "" ∨ name = "." then tree.pass through rest place
    else if name = ".." then tree.pass through rest place.dropLast
    else
      match tree.get (place ++ [name]) with
      | none => .error .notExist
      | some (.directory _) => tree.pass through rest (place ++ [name])
      | some (.link target) =>
        through (target ++ rest) (if PathText.absolute target then [] else place)
      | some _ => if rest = [] then .ok (place ++ [name]) else .error .notDirectory

/-- Along a path through at most so many links. -/
def follow (tree : FileTree φ) : Nat → PathText → Location → Except PathFault Location
  | 0 => tree.pass fun _ _ => .error .tooManyLinks
  | links + 1 => tree.pass (tree.follow links)

/-- The location of the entry that a path names; a link there is not followed. -/
def locate (tree : FileTree φ) (links : Nat) (path : PathText) : Except PathFault Location :=
  match path.getLast? with
  | none => .error .notExist
  | some name =>
    if Name.proper name then
      match tree.follow links path.dropLast [] with
      | .error fault => .error fault
      | .ok parent =>
        match tree.get parent with
        | some (.directory _) => .ok (parent ++ [name])
        | _ => .error .notDirectory
    else tree.follow links path []

/-- What `readdir` answers: the entries in the order of their names. -/
def listing : List (Name × FileTree φ) :=
  let names := (entries.map (·.1)).dedup.filter Name.proper
  let listed := names.filterMap fun name => (entries.lookup name).map fun node => (name, node)
  listed.mergeSort fun first second => decide (first.1 ≤ second.1)

/-- The entries of a directory with one name bound anew, or to nothing. -/
def rebind (name : Name) :
    Option (FileTree φ) → List (Name × FileTree φ)
  | some node => (name, node) :: entries.filter fun entry => entry.1 != name
  | none => entries.filter fun entry => entry.1 != name

/-- The tree with another entry at a location, or with none; its directory must be there. -/
def put (tree : FileTree φ) (node : Option (FileTree φ)) : Location → FileTree φ
  | [] => tree
  | name :: rest =>
    match tree with
    | .directory entries =>
      .directory (rebind entries name
        (if rest = [] then node else (entries.lookup name).map (·.put node rest)))
    | tree => tree

theorem get_append (tree : FileTree φ) (first second : Location) :
    tree.get (first ++ second) = (tree.get first).bind (·.get second) := by
  induction first generalizing tree with
  | nil => rfl
  | cons name rest induction =>
    simp only [List.cons_append, get, Option.bind_assoc]
    exact Option.bind_congr fun child _ => induction child

/-- A directory, reached along directories. -/
structure Stands (tree : FileTree φ) (place : Location) : Prop where
  directory : ∃ entries, tree.get place = some (.directory entries)
  proper : PathText.Proper place

/-- An entry that is no link, reached along directories. -/
structure Found (tree : FileTree φ) (place : Location) : Prop where
  node : ∃ node, tree.get place = some node ∧ node.isLink = false
  proper : PathText.Proper place

variable {tree : FileTree φ} {place reached : Location} {path : PathText} {name : Name}
  {node : FileTree φ}

theorem Stands.found (stands : tree.Stands place) : tree.Found place := by
  obtain ⟨entries, found⟩ := stands.directory
  exact ⟨⟨_, found, rfl⟩, stands.proper⟩

theorem get_parent (found : tree.get (place ++ [name]) = some node) :
    ∃ entries, tree.get place = some (.directory entries) := by
  rw [get_append] at found
  obtain ⟨parent, same, below⟩ := Option.bind_eq_some_iff.mp found
  cases parent with
  | directory entries => exact ⟨entries, same⟩
  | file | link | special => cases below

theorem Stands.dropLast (stands : tree.Stands place) : tree.Stands place.dropLast := by
  rcases List.eq_nil_or_concat place with rfl | ⟨parent, name, rfl⟩
  · exact stands
  · obtain ⟨entries, found⟩ := stands.directory
    rw [List.concat_eq_append] at found
    refine ⟨?_, stands.proper.dropLast⟩
    rw [List.concat_eq_append, List.dropLast_concat]
    exact get_parent found

theorem Stands.root (stands : tree.Stands place) : tree.Stands [] := by
  refine ⟨?_, nofun⟩
  obtain ⟨entries, found⟩ := stands.directory
  cases place with
  | nil => exact ⟨entries, found⟩
  | cons name rest =>
    cases tree with
    | directory entries => exact ⟨entries, rfl⟩
    | file | link | special => cases found

section Pass

variable {through : PathText → Location → Except PathFault Location}

theorem pass_found
    (passes : ∀ {path place}, tree.Stands place → through path place = .ok reached →
      tree.Found reached)
    (stands : tree.Stands place) (passed : tree.pass through path place = .ok reached) :
    tree.Found reached := by
  induction path generalizing place with
  | nil =>
    cases passed
    exact stands.found
  | cons name rest induction =>
    unfold pass at passed
    split at passed
    · exact induction stands passed
    · next filled =>
      split at passed
      · exact induction stands.dropLast passed
      · next down =>
        have proper := stands.proper.concat (Name.proper_of filled down)
        split at passed
        · cases passed
        · next entries found => exact induction ⟨⟨entries, found⟩, proper⟩ passed
        · refine passes ?_ passed
          split
          · exact stands.root
          · exact stands
        · next node _ unlinked found =>
          split at passed
          · cases passed
            refine ⟨⟨node, found, ?_⟩, proper⟩
            cases node with
            | link target => exact absurd rfl (unlinked target)
            | file | directory | special => rfl
          · cases passed

end Pass

theorem follow_found {links : Nat} (stands : tree.Stands place)
    (followed : tree.follow links path place = .ok reached) : tree.Found reached := by
  induction links generalizing path place with
  | zero => exact pass_found (fun _ failed => by cases failed) stands followed
  | succ links induction => exact pass_found induction stands followed

theorem pass_self {names : Location}
    {through : PathText → Location → Except PathFault Location}
    (found : tree.Found (place ++ names)) :
    tree.pass through names place = .ok (place ++ names) := by
  induction names generalizing place with
  | nil => rw [pass, List.append_nil]
  | cons name rest induction =>
    have proper : Name.proper name = true := found.proper name (by simp)
    simp only [Name.proper, Bool.and_eq_true, bne_iff_ne] at proper
    obtain ⟨⟨filled, moves⟩, down⟩ := proper
    have further : place ++ name :: rest = (place ++ [name]) ++ rest := by simp
    rw [further] at found ⊢
    rw [pass, if_neg (not_or.mpr ⟨filled, moves⟩), if_neg down]
    obtain ⟨node, same, unlinked⟩ := found.node
    have reached := same
    rw [get_append] at reached
    obtain ⟨child, here, below⟩ := Option.bind_eq_some_iff.mp reached
    simp only [here]
    cases child with
    | directory entries => exact induction found
    | link target =>
      cases rest with
      | nil =>
        cases below
        cases unlinked
      | cons => cases below
    | file | special =>
      cases rest with
      | nil => rw [if_pos rfl, List.append_nil]
      | cons => cases below

variable (links : Nat)

theorem follow_slash (path : PathText) :
    tree.follow links ("" :: path) place = tree.follow links path place := by
  cases links with
  | zero | succ => rw [follow, pass, if_pos (Or.inl rfl)]

theorem follow_text (names : Location) :
    tree.follow links names.text place = tree.follow links names place := by
  cases names with
  | nil => rw [Location.text, follow_slash, follow_slash]
  | cons name rest => exact follow_slash links (name :: rest)

theorem follow_names (found : tree.Found place) : tree.follow links place [] = .ok place := by
  cases links with
  | zero | succ => exact pass_self found

theorem follow_self (found : tree.Found place) : tree.follow links place.text [] = .ok place := by
  rw [follow_text, follow_names links found]

theorem follow_top : tree.follow links (Location.text []) [] = .ok [] := by
  cases links with
  | zero => rfl
  | succ => rfl

theorem locate_self (stands : tree.Stands place) (proper : Name.proper name = true) :
    tree.locate links (place ++ [name]).text = .ok (place ++ [name]) := by
  obtain ⟨entries, found⟩ := stands.directory
  unfold locate
  simp only [Location.text_concat, List.getLast?_concat, proper, if_true, List.dropLast_concat,
    follow_slash, follow_names links stands.found, found]

theorem Found.parent (found : tree.Found (place ++ [name])) : tree.Stands place := by
  obtain ⟨node, same, _⟩ := found.node
  have proper := found.proper.dropLast
  rw [List.dropLast_concat] at proper
  exact ⟨get_parent same, proper⟩

theorem locate_found (found : tree.Found place) : tree.locate links place.text = .ok place := by
  rcases List.eq_nil_or_concat place with rfl | ⟨parent, name, rfl⟩
  · exact follow_self links found
  · rw [List.concat_eq_append] at found ⊢
    exact locate_self links found.parent (found.proper name (by simp))

theorem follow_root {links : Nat} (bare : tree.isDirectory = false)
    (followed : tree.follow links path [] = .ok reached) : reached = [] := by
  have nothing : ∀ name, tree.get ([] ++ [name]) = none := by
    intro name
    cases tree with
    | directory entries => cases bare
    | file | link | special => rfl
  have passes : ∀ {path : PathText} {through : PathText → Location → Except PathFault Location},
      tree.pass through path [] = .ok reached → reached = [] := by
    intro path through passed
    induction path with
    | nil =>
      cases passed
      rfl
    | cons name rest induction =>
      rw [pass] at passed
      split at passed
      · exact induction passed
      · split at passed
        · exact induction passed
        · rw [nothing] at passed
          cases passed
  cases links with
  | zero | succ => exact passes followed

theorem mem_listing {entries : List (Name × FileTree φ)} :
    (name, node) ∈ listing entries ↔ Name.proper name = true ∧ entries.lookup name = some node := by
  have named : entries.lookup name = some node → name ∈ entries.map (·.1) := by
    intro found
    obtain ⟨first, second, rfl, _⟩ := List.lookup_eq_some_iff.mp found
    simp
  simp only [listing, List.mem_mergeSort, List.mem_filterMap, List.mem_filter, List.mem_dedup,
    Option.map_eq_some_iff, Prod.mk.injEq]
  constructor
  · rintro ⟨_, ⟨_, proper⟩, _, found, rfl, rfl⟩
    exact ⟨proper, found⟩
  · rintro ⟨proper, found⟩
    exact ⟨name, ⟨named found, proper⟩, node, found, rfl, rfl⟩

theorem lookup_rebind_self (node : Option (FileTree φ)) :
    (rebind entries name node).lookup name = node := by
  cases node with
  | some node => exact List.lookup_cons_self
  | none =>
    refine List.lookup_eq_none_iff.mpr fun entry member => ?_
    have kept := (List.mem_filter.mp member).2
    rwa [bne_comm]

section Put

variable {node : Option (FileTree φ)}

theorem Stands.put (stands : tree.Stands place) :
    (tree.put node (place ++ [name])).Stands place := by
  refine ⟨?_, stands.proper⟩
  obtain ⟨entries, found⟩ := stands.directory
  clear stands
  induction place generalizing tree with
  | nil =>
    cases found
    exact ⟨_, rfl⟩
  | cons first rest induction =>
    obtain ⟨child, here, below⟩ := Option.bind_eq_some_iff.mp found
    cases tree with
    | directory all =>
      have bound : all.lookup first = some child := here
      simp only [List.cons_append, FileTree.put, get, entry, lookup_rebind_self, bound,
        List.append_eq_nil_iff, List.cons_ne_self, and_false, if_false, Option.map_some,
        Option.bind_some]
      exact induction below
    | file | link | special => cases here

end Put

end FileTree

end Tekroo.Lib
