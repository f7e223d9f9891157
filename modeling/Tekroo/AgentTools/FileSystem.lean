import Mathlib
import Tekroo.Lib.FileTree
import Tekroo.Lib.Program

/-! # The file system under the agent tools

Paths are resolved as POSIX has it.  Any call may fail, and some of those that change the tree may
do so after the change.
-/

namespace Tekroo.AgentTools

open Lib

structure FileData where
  mode : Nat
  content : ByteArray

abbrev Tree := FileTree FileData

inductive FileKind where
  | regular | directory | symlink | other
deriving DecidableEq

structure FileInfo where
  kind : FileKind
  permissions : Nat
  size : Nat

def kindOf : Tree → FileKind
  | .file _ => .regular
  | .directory _ => .directory
  | .link _ => .symlink
  | .special => .other

def infoOf (node : Tree) : FileInfo :=
  match node with
  | .file data => ⟨.regular, data.mode, data.content.size⟩
  | node => ⟨kindOf node, 0, 0⟩

inductive Reason where
  | notExist | notDirectory | tooManyLinks | exist | isDirectory | notEmpty
  | other (text : String)
deriving DecidableEq

def Reason.ofFault : PathFault → Reason
  | .notExist => .notExist
  | .notDirectory => .notDirectory
  | .tooManyLinks => .tooManyLinks

inductive FileCall where
  | evalSymlinks (path : PathText)
  | stat (path : PathText)
  | lstat (path : PathText)
  | readFile (path : PathText)
  | readDir (path : PathText)
  | createTemp (directory : PathText) (pattern : String)
  | write (file : PathText) (content : ByteArray)
  | chmod (file : PathText) (mode : Nat)
  | sync (file : PathText)
  | close (file : PathText)
  | rename (old new : PathText)
  | remove (path : PathText)
  | contextErr

namespace FileCall

def Value : FileCall → Type
  | .evalSymlinks _ => Location
  | .stat _ | .lstat _ => FileInfo
  | .readFile _ => ByteArray
  | .readDir _ => List (Name × FileKind)
  | .createTemp .. => PathText
  | .write .. | .chmod .. | .sync _ | .close _ | .rename .. | .remove _ | .contextErr => Unit

def operation : FileCall → String
  | .evalSymlinks _ | .lstat _ => "lstat"
  | .stat _ => "stat"
  | .readFile _ | .readDir _ | .createTemp .. => "open"
  | .write .. => "write"
  | .chmod .. => "chmod"
  | .sync _ => "sync"
  | .close _ => "close"
  | .rename .. => "rename"
  | .remove _ => "remove"
  | .contextErr => "context"

def path : FileCall → PathText
  | .evalSymlinks path | .stat path | .lstat path | .readFile path | .readDir path
  | .createTemp path _ | .write path _ | .chmod path _ | .sync path | .close path
  | .rename _ path | .remove path => path
  | .contextErr => []

def reads : FileCall → Bool
  | .evalSymlinks _ | .stat _ | .lstat _ | .readFile _ | .readDir _ | .sync _ | .close _
  | .contextErr => true
  | .createTemp .. | .write .. | .chmod .. | .rename .. | .remove _ => false

def touches : FileCall → Bool
  | .readFile _ | .readDir _ | .createTemp .. | .write .. | .chmod .. | .rename .. | .remove _ =>
    true
  | .evalSymlinks _ | .stat _ | .lstat _ | .sync _ | .close _ | .contextErr => false

end FileCall

structure SystemError where
  operation : String
  path : PathText
  reason : Reason
deriving DecidableEq

abbrev FileCall.Answer (call : FileCall) : Type := Except SystemError call.Value

/-- What happens to one call: it may fail although it took effect, a failing write may have
written a part, and `CreateTemp` draws a number. -/
structure Interference where
  fault : Option Reason := none
  applied : Bool := false
  portion : Nat := 0
  random : Nat := 0

/-- `Name` of a file in a directory, as `CreateTemp` writes it. -/
def childPath (directory : PathText) (name : Name) : PathText :=
  if directory.getLast? = some "" then directory.dropLast ++ [name] else directory ++ [name]

variable (limit : Nat) (tree : Tree) (path : PathText)

/-- `limit` is the number of links that the system follows in one path. -/
def resolve : Except Reason Tree :=
  match tree.follow limit path [] with
  | .error fault => .error (.ofFault fault)
  | .ok place =>
    match tree.get place with
    | some node => .ok node
    | none => .error .notExist

def entryAt : Except Reason (Location × Option Tree) :=
  match tree.locate limit path with
  | .error fault => .error (.ofFault fault)
  | .ok place => .ok (place, tree.get place)

def changeFile (change : FileData → FileData) : Tree :=
  match entryAt limit tree path with
  | .ok (place, some (.file data)) => tree.put (some (.file (change data))) place
  | _ => tree

def createTemp (directory : PathText) (name : Name) : Tree × Except Reason PathText :=
  match tree.follow limit directory [] with
  | .error fault => (tree, .error (.ofFault fault))
  | .ok place =>
    match tree.get place, tree.get (place ++ [name]) with
    | some (.directory _), none =>
      (tree.put (some (.file ⟨0o600, .empty⟩)) (place ++ [name]),
        .ok (childPath directory name))
    | some (.directory _), some _ => (tree, .error .exist)
    | _, _ => (tree, .error .notDirectory)

def rename (old new : PathText) : Tree × Except Reason Unit :=
  match entryAt limit tree old, entryAt limit tree new with
  | .ok (_, none), _ => (tree, .error .notExist)
  | .ok (_, some _), .ok (_, some (.directory _)) => (tree, .error .isDirectory)
  | .ok (source, some node), .ok (target, _) =>
    if source = target then (tree, .ok ())
    else ((tree.put none source).put (some node) target, .ok ())
  | .error reason, _ | _, .error reason => (tree, .error reason)

def remove : Tree × Except Reason Unit :=
  match entryAt limit tree path with
  | .error reason => (tree, .error reason)
  | .ok (_, none) => (tree, .error .notExist)
  | .ok (_, some (.directory (_ :: _))) => (tree, .error .notEmpty)
  | .ok (place, some _) => (tree.put none place, .ok ())

/-- The call as it goes when nothing fails, but for a write that is cut short. -/
def perform (input : Interference) :
    (call : FileCall) → Tree × Except Reason call.Value
  | .evalSymlinks path => (tree, (tree.follow 255 path []).mapError .ofFault)
  | .stat path => (tree, (resolve limit tree path).map infoOf)
  | .lstat path =>
    (tree, match entryAt limit tree path with
      | .error reason => .error reason
      | .ok (_, none) => .error .notExist
      | .ok (_, some node) => .ok (infoOf node))
  | .readFile path =>
    (tree, match resolve limit tree path with
      | .ok (.file data) => .ok data.content
      | .ok (.directory _) => .error .isDirectory
      | .ok _ => .error (.other "resource temporarily unavailable")
      | .error reason => .error reason)
  | .readDir path =>
    (tree, match resolve limit tree path with
      | .ok (.directory entries) =>
        .ok ((FileTree.listing entries).map fun entry => (entry.1, kindOf entry.2))
      | .ok _ => .error .notDirectory
      | .error reason => .error reason)
  | .createTemp directory pattern =>
    createTemp limit tree directory (pattern ++ toString input.random)
  | .write path content =>
    let written := if input.fault.isSome then content.extract 0 input.portion else content
    (changeFile limit tree path fun data => { data with content := written }, .ok ())
  | .chmod path mode => (changeFile limit tree path fun data => { data with mode }, .ok ())
  | .sync _ | .close _ | .contextErr => (tree, .ok ())
  | .rename old new => rename limit tree old new
  | .remove path => remove limit tree path

def serveFile (call : FileCall) (input : Interference) : Tree × call.Answer :=
  let performed := perform limit tree input call
  match input.fault with
  | none => (performed.1, performed.2.mapError fun reason => ⟨call.operation, call.path, reason⟩)
  | some reason =>
    (if input.applied then performed.1 else tree, .error ⟨call.operation, call.path, reason⟩)

section Serve

variable {limit : Nat} {tree : Tree} {input : Interference} {call : FileCall} {path : PathText}
  {place parent : Location} {name : Name} {info : FileInfo}

theorem perform_reads (reads : call.reads = true) : (perform limit tree input call).1 = tree := by
  cases call <;> first | rfl | cases reads

theorem serveFile_reads (reads : call.reads = true) :
    (serveFile limit tree call input).1 = tree := by
  unfold serveFile
  split
  · exact perform_reads reads
  · simp only [perform_reads reads, ite_self]

theorem serveFile_ok {value : call.Value}
    (answered : (serveFile limit tree call input).2 = .ok value) :
    input.fault = none ∧ (perform limit tree input call).2 = .ok value ∧
      (serveFile limit tree call input).1 = (perform limit tree input call).1 := by
  unfold serveFile at answered ⊢
  split at answered
  · next unharmed =>
    refine ⟨unharmed, ?_, rfl⟩
    cases done : (perform limit tree input call).2 with
    | ok found =>
      simp only [done] at answered
      exact congrArg Except.ok (Except.ok.inj answered)
    | error reason =>
      simp only [done] at answered
      cases answered
  · cases answered

theorem serveFile_tree : (serveFile limit tree call input).1 = (perform limit tree input call).1 ∨
    (serveFile limit tree call input).1 = tree := by
  unfold serveFile
  split
  · exact .inl rfl
  · split
    · exact .inl rfl
    · exact .inr rfl

theorem evalSymlinks_ok
    (answered : (serveFile limit tree (.evalSymlinks path) input).2 = .ok place) :
    tree.follow 255 path [] = .ok place := by
  obtain ⟨_, performed, _⟩ := serveFile_ok answered
  simp only [perform] at performed
  cases followed : tree.follow 255 path [] with
  | ok reached =>
    rw [followed] at performed
    exact congrArg Except.ok (Except.ok.inj performed)
  | error fault =>
    rw [followed] at performed
    cases performed

theorem resolve_self {node : Tree} (found : tree.Found place) (here : tree.get place = some node) :
    resolve limit tree place.text = .ok node := by
  simp only [resolve, FileTree.follow_self limit found, here]

theorem stat_ok (found : tree.Found place)
    (answered : (serveFile limit tree (.stat place.text) input).2 = .ok info) :
    ∃ node, tree.get place = some node ∧ infoOf node = info := by
  obtain ⟨node, here, _⟩ := found.node
  obtain ⟨_, performed, _⟩ := serveFile_ok answered
  simp only [perform, resolve_self found here] at performed
  exact ⟨node, here, Except.ok.inj performed⟩

theorem entryAt_found (found : tree.Found place) :
    entryAt limit tree place.text = .ok (place, tree.get place) := by
  simp only [entryAt, FileTree.locate_found limit found]

theorem entryAt_self (stands : tree.Stands parent) (proper : Name.proper name = true) :
    entryAt limit tree (parent ++ [name]).text =
      .ok (parent ++ [name], tree.get (parent ++ [name])) :=
  by simp only [entryAt, FileTree.locate_self limit stands proper]

theorem kindOf_infoOf (node : Tree) : (infoOf node).kind = kindOf node := by
  cases node <;> rfl

theorem lstat_of_entryAt (entry : entryAt limit tree path = .ok (place, tree.get place))
    (answered : (serveFile limit tree (.lstat path) input).2 = .ok info) :
    ∃ node, tree.get place = some node ∧ infoOf node = info := by
  obtain ⟨_, performed, _⟩ := serveFile_ok answered
  cases here : tree.get place with
  | none =>
    simp only [perform, entry, here] at performed
    cases performed
  | some node =>
    simp only [perform, entry, here] at performed
    exact ⟨node, rfl, Except.ok.inj performed⟩

theorem readDir_ok {entries : List (Name × FileKind)} (found : tree.Found place)
    (answered : (serveFile limit tree (.readDir place.text) input).2 = .ok entries) :
    ∀ entry ∈ entries, Name.proper entry.1 = true ∧
      ∃ node, tree.get (place ++ [entry.1]) = some node ∧ kindOf node = entry.2 := by
  obtain ⟨node, here, _⟩ := found.node
  obtain ⟨_, performed, _⟩ := serveFile_ok answered
  simp only [perform, resolve_self found here] at performed
  cases node with
  | directory all =>
    have listed := Except.ok.inj performed
    rintro ⟨name, kind⟩ member
    rw [← listed] at member
    obtain ⟨⟨_, child⟩, inside, same⟩ := List.mem_map.mp member
    cases same
    obtain ⟨proper, bound⟩ := FileTree.mem_listing.mp inside
    refine ⟨proper, child, ?_, rfl⟩
    rw [FileTree.get_append, here, Option.bind_some]
    exact Option.bind_eq_some_iff.mpr ⟨child, bound, rfl⟩
  | file | link | special => cases performed

def FileCall.WorksIn (parent : Location) : FileCall → Prop
  | .createTemp directory _ => directory = parent.text
  | .write file _ | .chmod file _ | .remove file =>
    ∃ name, Name.proper name = true ∧ file = (parent ++ [name]).text
  | .rename old new =>
    (∃ name, Name.proper name = true ∧ old = (parent ++ [name]).text) ∧
      ∃ name, Name.proper name = true ∧ new = (parent ++ [name]).text
  | .readFile _ | .readDir _ => False
  | .evalSymlinks _ | .stat _ | .lstat _ | .sync _ | .close _ | .contextErr => True

theorem childPath_text (proper : PathText.Proper place) :
    childPath place.text name = (place ++ [name]).text := by
  rcases List.eq_nil_or_concat place with rfl | ⟨front, last, rfl⟩
  · rfl
  · rw [List.concat_eq_append] at proper ⊢
    have filled : last ≠ "" := by
      rintro rfl
      have := proper "" (by simp)
      cases this
    rw [childPath, Location.text_concat, List.getLast?_concat,
      if_neg fun blank => filled (Option.some.inj blank), Location.text_concat]
    rfl

theorem changeFile_stands {change : FileData → FileData} (stands : tree.Stands parent)
    (proper : Name.proper name = true) :
    (changeFile limit tree (parent ++ [name]).text change).Stands parent := by
  rw [changeFile, entryAt_self stands proper]
  split
  · next place data same =>
    obtain ⟨rfl, _⟩ := Prod.mk.inj (Except.ok.inj same)
    exact stands.put
  · exact stands

theorem perform_stands (stands : tree.Stands parent) (works : call.WorksIn parent) :
    (perform limit tree input call).1.Stands parent := by
  cases call with
  | createTemp directory pattern =>
    obtain rfl : directory = parent.text := works
    obtain ⟨entries, here⟩ := stands.directory
    simp only [perform, createTemp, FileTree.follow_self limit stands.found, here]
    split
    · exact stands.put
    · exact stands
    · exact stands
  | write file content =>
    obtain ⟨name, proper, rfl⟩ := works
    exact changeFile_stands stands proper
  | chmod file mode =>
    obtain ⟨name, proper, rfl⟩ := works
    exact changeFile_stands stands proper
  | rename old new =>
    obtain ⟨⟨first, proper, rfl⟩, second, proper', rfl⟩ := works
    simp only [perform, rename, entryAt_self stands proper, entryAt_self stands proper']
    cases tree.get (parent ++ [first]) with
    | none => exact stands
    | some node =>
      have moved : (if parent ++ [first] = parent ++ [second] then (tree, .ok ()) else
          ((tree.put none (parent ++ [first])).put (some node) (parent ++ [second]), .ok ()) :
          Tree × Except Reason Unit).1.Stands parent := by
        split
        · exact stands
        · exact stands.put.put
      cases tree.get (parent ++ [second]) with
      | none => exact moved
      | some other =>
        cases other with
        | directory => exact stands
        | file | link | special => exact moved
  | remove file =>
    obtain ⟨name, proper, rfl⟩ := works
    simp only [perform, remove, entryAt_self stands proper]
    cases tree.get (parent ++ [name]) with
    | none => exact stands
    | some node =>
      cases node with
      | directory entries =>
        cases entries with
        | nil => exact stands.put
        | cons => exact stands
      | file | link | special => exact stands.put
  | evalSymlinks | stat | lstat | readFile | readDir | sync | close | contextErr => exact stands

theorem serveFile_stands (stands : tree.Stands parent) (works : call.WorksIn parent) :
    (serveFile limit tree call input).1.Stands parent := by
  rcases @serveFile_tree limit tree input call with same | same
  · rw [same]
    exact perform_stands stands works
  · rwa [same]

end Serve

end Tekroo.AgentTools
