import Tekroo.AgentTools.Conduct
import Tekroo.AgentTools.Host

/-! # Tools stay inside the workspace -/

namespace Tekroo.AgentTools

open Lib Program

section

variable {limit : Nat} {root : Location} {tree : Tree} {allowed : Tree → FileCall → Prop}
  {library : Library} {depth : Nat} (shows : Shows allowed root tree) (stands : tree.Stands root)

/-- A file that is read and a directory that is listed lie at or below the root, once all links
are followed; an entry that is changed lies in a directory that does. -/
def FileCall.Contained (limit : Nat) (root : Location) (tree : Tree) : FileCall → Prop
  | .readFile path | .readDir path | .createTemp path _ =>
    ∀ place, tree.follow limit path [] = .ok place → root <+: place
  | .write path _ | .chmod path _ | .remove path =>
    ∀ place, tree.locate limit path = .ok place → root <+: place ∧ place ≠ root
  | .rename old new =>
    (∀ place, tree.locate limit old = .ok place → root <+: place ∧ place ≠ root) ∧
      ∀ place, tree.locate limit new = .ok place → root <+: place ∧ place ≠ root
  | .evalSymlinks _ | .stat _ | .lstat _ | .sync _ | .close _ | .contextErr => True

section Tools

section Files

variable (relative : PathText)

include shows stands

theorem boundedContent_looks : Looks limit allowed tree Any (boundedContent root relative) := by
  refine (existingPath_looks shows stands relative).bind fun place found => ?_
  refine Looks.answered rfl (shows.silent rfl) (fun _ => .throw _) fun _ info _ => ?_
  refine .guard fun _ => .guard fun _ => ?_
  exact Looks.require rfl (shows.file found.1) fun _ _ _ => trivial

theorem readFile_looks (start stop : Int) :
    Looks limit allowed tree Any (readFile library root relative start stop) := by
  refine (boundedContent_looks shows stands relative).bind fun content _ => ?_
  split
  · exact .throw _
  · exact .checked fun _ _ => trivial

theorem checkGoFormat_looks (paths seen : List PathText) :
    Looks limit allowed tree Any (checkGoFormat library root seen paths) := by
  induction paths generalizing seen with
  | nil => exact .pure trivial
  | cons relative rest induction =>
    unfold checkGoFormat
    refine .guard fun _ => ?_
    refine (boundedContent_looks shows stands relative).bind fun content _ => ?_
    split
    · exact .throw _
    · exact (induction _).bind fun _ _ => .pure trivial

theorem listFiles_looks (startAfter : String) (count : Nat) :
    Looks limit allowed tree Any (listFiles root relative startAfter count) := by
  refine (existingPath_looks shows stands relative).bind fun place found => ?_
  have listed : Looks limit allowed tree Any (require (.readDir place.text)) :=
    .require rfl (shows.directory found.1) fun _ _ _ => trivial
  exact listed.bind fun _ _ => .pure trivial

theorem searchDirectory_looks :
    Looks limit allowed tree (Inside root tree) (searchDirectory root relative) := by
  refine (existingPath_looks shows stands relative).bind fun place found => ?_
  refine Looks.answered rfl (shows.silent rfl) (fun _ => .throw _) fun _ info _ => ?_
  simp only []
  split
  · exact .pure found.1
  · exact .throw _

end Files

variable {ω : Type} {visit : Visit ω} {place : Location}

/-- A visit looks at most at the file that it is called on. -/
def Discreet (limit : Nat) (allowed : Tree → FileCall → Prop) (root : Location) (tree : Tree)
    (visit : Visit ω) : Prop :=
  ∀ kept place relative, Inside root tree place →
    Sees limit allowed tree Any (visit kept place relative)

theorem visitRegular_sees (discreet : Discreet limit allowed root tree visit) (walked : Walked ω)
    (inside : Inside root tree place) :
    Sees limit allowed tree Any (visitRegular root visit walked place) := by
  unfold visitRegular
  simp only []
  split
  · exact .pure trivial
  · split
    · exact .pure trivial
    · exact Sees.bind (discreet _ _ _ inside) fun _ _ => .pure trivial

theorem walkEntries_sees
    {enter : Walked ω → Location → FileKind → FileProgram (Walked ω × Option Fault)}
    {directory : Location} {entries : List (Name × FileKind)}
    (enters : ∀ walked, ∀ entry ∈ entries,
      Sees limit allowed tree Any (enter walked (directory ++ [entry.1]) entry.2))
    (walked : Walked ω) :
    Sees limit allowed tree Any (walkEntries enter directory walked entries) := by
  induction entries generalizing walked with
  | nil => exact .pure trivial
  | cons entry rest induction =>
    refine Sees.bind (enters walked entry (by simp)) ?_
    rintro ⟨walked, stopped⟩ _
    cases stopped with
    | some fault => exact .pure trivial
    | none =>
      exact induction (fun walked entry member => enters walked entry (by simp [member])) _

include shows

theorem walkEntry_sees (discreet : Discreet limit allowed root tree visit) (walked : Walked ω)
    {kind : FileKind} (visited : Visited root tree place kind) :
    Sees limit allowed tree Any (walkEntry root visit depth walked place kind) := by
  induction depth generalizing walked place kind with
  | zero =>
    unfold walkEntry
    refine .answered rfl (shows.silent rfl) (fun _ => .pure trivial) fun _ _ _ => ?_
    cases kind with
    | regular => exact visitRegular_sees discreet walked (visited.inside nofun)
    | directory | symlink | other => exact .pure trivial
  | succ depth induction =>
    unfold walkEntry
    refine .answered rfl (shows.silent rfl) (fun _ => .pure trivial) fun _ _ _ => ?_
    cases kind with
    | regular => exact visitRegular_sees discreet walked (visited.inside nofun)
    | directory =>
      simp only []
      split
      · exact .pure trivial
      · have inside := visited.inside nofun
        refine .answered rfl (shows.directory inside) (fun _ => .pure trivial)
          fun _ entries answered => walkEntries_sees (fun walked entry member => ?_) walked
        obtain ⟨proper, node⟩ := readDir_ok inside.found answered entry member
        exact induction walked ⟨node, visited.proper.concat proper,
          visited.below.trans (List.prefix_append ..)⟩
    | symlink | other => exact .pure trivial

theorem walkWorkspaceFiles_sees (discreet : Discreet limit allowed root tree visit) (kept : ω)
    (inside : Inside root tree place) :
    Sees limit allowed tree Any (walkWorkspaceFiles root visit depth place kept) := by
  refine .answered rfl (shows.silent rfl) (fun _ => .pure trivial) fun _ info answered => ?_
  obtain ⟨node, here, same⟩ := lstat_of_entryAt (entryAt_found inside.found) answered
  have visited : Visited root tree place info.kind :=
    ⟨⟨node, here, by rw [← same, kindOf_infoOf]⟩, inside.found.proper, inside.below⟩
  exact Sees.bind (walkEntry_sees shows discreet _ visited) fun _ _ => .pure trivial

theorem findFiles_looks (stands : tree.Stands root) (directory pattern : PathText)
    (startAfter : String) (count : Nat) :
    Looks limit allowed tree Any
      (findFiles library depth root directory pattern startAfter count) := by
  have checked : Looks limit allowed tree Any
      (ExceptT.mk (pure (validateFilenameGlob library pattern))) := .checked fun _ _ => trivial
  refine checked.bind fun _ _ => ?_
  refine (searchDirectory_looks shows stands directory).bind fun place inside => ?_
  refine Keeps.bind (Looks.lift (walkWorkspaceFiles_sees shows ?_ [] inside)) fun result _ => ?_
  · exact fun _ _ _ _ => .pure trivial
  · obtain ⟨files, stopped⟩ := result
    cases stopped with
    | some fault => exact .throw _
    | none =>
      simp only []
      split
      · exact .pure trivial
      · exact .pure trivial

theorem searchFile_discreet (query : ContentSearchQuery) (mode : ResultMode)
    (isMatch : String → Bool) :
    Discreet limit allowed root tree (searchFile query mode isMatch library) := by
  intro search place relative inside
  unfold searchFile
  split
  · exact .pure trivial
  · refine .answered rfl (shows.silent rfl) (fun _ => .pure trivial) fun _ info _ => ?_
    simp only []
    split
    · exact .pure trivial
    · split
      · exact .pure trivial
      · refine .answered rfl (shows.file inside) (fun _ => .pure trivial) fun _ content _ => ?_
        simp only []
        split
        · exact .pure trivial
        · split
          · exact .pure trivial
          · split
            · exact .pure trivial
            · exact .pure trivial

theorem searchFileContents_looks (stands : tree.Stands root) (query : ContentSearchQuery) :
    Looks limit allowed tree Any (searchFileContents library depth root query) := by
  have checked : Looks limit allowed tree Any
      (ExceptT.mk (pure (query.prepare library))) := .checked fun _ _ => trivial
  refine checked.bind ?_
  rintro ⟨mode, isMatch⟩ _
  refine (existingPath_looks shows stands query.path).bind fun place found => ?_
  refine Looks.answered rfl (shows.silent rfl) (fun _ => .throw _) fun _ info _ => ?_
  refine .guard fun _ => ?_
  have discreet : Discreet limit allowed root tree (searchFile query mode isMatch library) :=
    searchFile_discreet shows query mode isMatch
  refine Keeps.bind (Looks.lift (?_ : Sees limit allowed tree Any _)) ?_
  · split
    · exact walkWorkspaceFiles_sees shows discreet _ found.1
    · exact .answered rfl (shows.silent rfl) (fun _ => .pure trivial)
        fun _ _ _ => discreet _ _ _ found.1
  · rintro ⟨search, stopped⟩ _
    simp only []
    split
    · exact .pure trivial
    · exact .pure trivial
    · exact .throw _

end Tools

section Contained

variable {root parent : Location} {call : FileCall}

theorem FileCall.WorksIn.contained (works : call.WorksIn parent) (below : root <+: parent)
    (stands : tree.Stands parent) : call.Contained limit root tree := by
  have entry : ∀ {file : PathText},
      (∃ name, Name.proper name = true ∧ file = (parent ++ [name]).text) →
        ∀ place, tree.locate limit file = .ok place → root <+: place ∧ place ≠ root := by
    rintro _ ⟨name, proper, rfl⟩ place located
    rw [FileTree.locate_self limit stands proper] at located
    cases located
    refine ⟨below.trans (List.prefix_append ..), fun same => ?_⟩
    have shorter := below.length_le
    rw [← same, List.length_append, List.length_singleton] at shorter
    omega
  cases call with
  | createTemp directory pattern =>
    obtain rfl : directory = parent.text := works
    intro place followed
    rw [FileTree.follow_self limit stands.found] at followed
    cases followed
    exact below
  | write | chmod | remove => exact entry works
  | rename => exact ⟨entry works.1, entry works.2⟩
  | readFile | readDir => exact works.elim
  | evalSymlinks | stat | lstat | sync | close | contextErr => trivial

theorem Inside.contained {place : Location} (inside : Inside root tree place) :
    ∀ reached, tree.follow limit place.text [] = .ok reached → root <+: reached := by
  intro reached followed
  rw [FileTree.follow_self limit inside.found] at followed
  cases followed
  exact inside.below

theorem contained_shows : Shows (FileCall.Contained limit root) root tree where
  silent := by
    intro call silent
    cases call with
    | readFile | readDir | createTemp | write | chmod | remove | rename => cases silent
    | evalSymlinks | stat | lstat | sync | close | contextErr => trivial
  file := Inside.contained
  directory := Inside.contained

end Contained

section Host

variable {codec : Codec}

theorem bounded_looks (given : Option Int) (least most default : Int) :
    Looks limit allowed tree Any (ExceptT.mk (pure (bounded given least most default))) :=
  .checked fun _ _ => trivial

section Looking

variable (raw : ByteArray)

include shows stands

theorem runReadFile_looks :
    Looks limit allowed tree Any (Host.runReadFile library codec root raw) := by
  unfold Host.runReadFile
  split
  · exact .throw _
  · refine .guard fun _ => ?_
    exact (readFile_looks shows stands _ _ _).bind fun _ _ => .pure trivial

theorem runCheckGoFormat_looks :
    Looks limit allowed tree Any (Host.runCheckGoFormat library codec root raw) := by
  unfold Host.runCheckGoFormat
  split
  · exact .throw _
  · refine .guard fun _ => ?_
    exact (checkGoFormat_looks shows stands _ _).bind fun _ _ => .pure trivial

theorem runListFiles_looks : Looks limit allowed tree Any (Host.runListFiles codec root raw) := by
  unfold Host.runListFiles
  split
  · exact .throw _
  · refine (bounded_looks _ _ _ _).bind fun _ _ => ?_
    exact (listFiles_looks shows stands _ _ _).bind fun _ _ => .pure trivial

theorem runFindFiles_looks :
    Looks limit allowed tree Any (Host.runFindFiles library codec depth root raw) := by
  unfold Host.runFindFiles
  split
  · exact .throw _
  · refine (bounded_looks _ _ _ _).bind fun _ _ => ?_
    exact (findFiles_looks shows stands _ _ _ _).bind fun _ _ => .pure trivial

theorem runSearchFileContents_looks :
    Looks limit allowed tree Any (Host.runSearchFileContents library codec depth root raw) := by
  unfold Host.runSearchFileContents
  split
  · exact .throw _
  · refine (bounded_looks _ _ _ _).bind fun _ _ => (bounded_looks _ _ _ _).bind fun _ _ => ?_
    exact (searchFileContents_looks shows stands _).bind fun _ _ => .pure trivial

end Looking

theorem runWriteFile_stays (stands : tree.Stands root) (raw : ByteArray) :
    Stays limit (FileCall.Contained limit root) tree
      (Host.runWriteFile library codec root raw) := by
  unfold Host.runWriteFile
  split
  · exact .throw _
  · refine .guard fun _ => ?_
    refine (writeFile_stays contained_shows stands _ _ _ ?_).bind fun _ => trivial
    intro parent front name _ below _ tree call stands works
    exact works.contained below stands

theorem runTool_stays (stands : tree.Stands root) (call : Call) :
    Stays limit (FileCall.Contained limit root) tree
      (Host.runTool library codec depth root call) := by
  unfold Host.runTool
  split
  · exact (runReadFile_looks contained_shows stands _).stays rfl
  · exact (runCheckGoFormat_looks contained_shows stands _).stays rfl
  · exact (runListFiles_looks contained_shows stands _).stays rfl
  · exact (runFindFiles_looks contained_shows stands _).stays rfl
  · exact (runSearchFileContents_looks contained_shows stands _).stays rfl
  · exact runWriteFile_stays stands _

theorem Stays.permit {α : Type} {wider : Tree → FileCall → Prop} {program : Attempt α}
    (permits : ∀ {tree call}, allowed tree call → wider tree call)
    (stays : Stays limit allowed tree program) : Stays limit wider tree program :=
  Makes.permit permits stays

/-- The call is made inside the directory that a text led to at first. -/
def FileCall.Confined (limit : Nat) (first : Tree) (text : PathText) (tree : Tree)
    (call : FileCall) : Prop :=
  call.touches = true →
    ∃ root, first.follow 255 text [] = .ok root ∧ call.Contained limit root tree

/-- Whatever the tree and its links are, whatever the call asks for and whichever calls of the
system fail: what a tool reads, lists, creates or replaces lies below the resolved root. -/
theorem tools_stay_inside (library : Library) (codec : Codec) (depth limit : Nat) (host : Host)
    (authority : Authority) (call : Call) (tree : Tree) (inputs : List Interference) :
    ∀ step ∈ Program.calls (serveFile limit)
        (host.execute library codec depth authority call).run inputs tree,
      step.2.Confined limit tree authority.workspaceRoot step.1 := by
  suffices stays : Stays limit
      (fun now step => step.Confined limit tree authority.workspaceRoot now) tree
      (host.execute library codec depth authority call) from Makes.calls stays inputs
  unfold Host.execute
  refine .guard fun _ => .guard fun _ => ?_
  have rooted : Looks limit
      (fun now step => step.Confined limit tree authority.workspaceRoot now) tree
      (fun root => tree.follow 255 authority.workspaceRoot [] = .ok root ∧ tree.Stands root)
      (canonicalRoot authority.workspaceRoot) :=
    canonicalRoot_looks (fun step silent touches => nomatch silent ▸ touches) _
  refine Looks.before rooted.caught fun result known => ?_
  cases result with
  | error fault => exact .throw _
  | ok root =>
    obtain ⟨followed, stands⟩ := known root rfl
    refine .guard fun _ => ?_
    exact (runTool_stays stands call).permit fun contained _ => ⟨root, followed, contained⟩

end Host

end

namespace Sample

def library : Library where
  sha256 := fun _ => ""
  quote := id
  format := .ok
  compile := fun _ => none
  matchSegment := fun _ _ => none

def codec : Codec where
  read := fun _ => some ⟨["notes"], none, none⟩
  format := fun _ => none
  list := fun _ => none
  find := fun _ => none
  search := fun _ => none
  write := fun _ => none
  marshal := fun _ => .empty

def workspace : Tree :=
  .directory [("work", .directory
    [("notes", .link ["pages"]), ("pages", .file ⟨0o600, "text".toUTF8⟩)])]

def authority : Authority := ⟨["", "work"], ["repository.read"], .implementation, .number 1⟩

theorem read_stays_inside :
    (FileCall.readFile ["", "work", "pages"]).Confined 40 workspace ["", "work"] workspace :=
  tools_stay_inside library codec 0 40 ⟨1⟩ authority ⟨.readFile, "{}".toUTF8⟩ workspace
    (List.replicate 8 {}) (workspace, .readFile ["", "work", "pages"])
    (List.mem_of_getElem? (i := 4) rfl)

end Sample

end Tekroo.AgentTools
