import Tekroo.AgentTools.Files

/-! # What the file code does to the tree -/

namespace Tekroo.AgentTools

open Lib Program

variable {α β : Type} {limit : Nat} {allowed : Tree → FileCall → Prop} {tree : Tree}
  {post : α → Prop} {after : β → Prop} {call : FileCall} {program : Attempt α} {library : Library}

abbrev Any {α : Type} : α → Prop := fun _ => True

/-- The part keeps what holds of the tree, every call of it is allowed, and `post` holds of what it
returns. -/
def Keeps {α : Type} (limit : Nat) (allowed : Tree → FileCall → Prop) (kept : Tree → Prop)
    (post : α → Prop) (program : Attempt α) : Prop :=
  ∀ tree, kept tree → Tries (serveFile limit) allowed (fun now value => kept now ∧ post value)
    (fun now _ => kept now) program tree

/-- The part only looks: it leaves the tree as it is. -/
abbrev Looks {α : Type} (limit : Nat) (allowed : Tree → FileCall → Prop) (tree : Tree)
    (post : α → Prop) (program : Attempt α) : Prop :=
  Keeps limit allowed (· = tree) post program

/-- `Looks` for a part that returns no error. -/
def Sees {α : Type} (limit : Nat) (allowed : Tree → FileCall → Prop) (tree : Tree) (post : α → Prop)
    (program : FileProgram α) : Prop :=
  program.Makes (serveFile limit) allowed
    (fun now value => now = tree ∧ post value) tree

section Rules

variable {value : α} {fault : Fault} {refused : Prop}

theorem Sees.pure (holds : post value) :
    Sees limit allowed tree post (Pure.pure value) := ⟨rfl, holds⟩

theorem Sees.bind {program : FileProgram α} {rest : α → FileProgram β}
    (first : Sees limit allowed tree post program)
    (second : ∀ value, post value → Sees limit allowed tree after (rest value)) :
    Sees limit allowed tree after (program >>= rest) := by
  refine Makes.bind first ?_
  rintro now value ⟨rfl, holds⟩
  exact second value holds

section Keeps

variable {kept : Tree → Prop}

theorem Keeps.pure (holds : post value) : Keeps limit allowed kept post (Pure.pure value) :=
  fun _ held => Tries.pure ⟨held, holds⟩

theorem Keeps.throw (fault : Fault) : Keeps limit allowed kept post (MonadExcept.throw fault) :=
  fun _ held => Tries.throw held

theorem Keeps.bind {rest : α → Attempt β} (first : Keeps limit allowed kept post program)
    (second : ∀ value, post value → Keeps limit allowed kept after (rest value)) :
    Keeps limit allowed kept after (program >>= rest) := by
  intro tree held
  refine Tries.bind (first tree held) ?_
  rintro now value ⟨held, holds⟩
  exact second value holds now held

theorem Keeps.guard [Decidable refused] {rest : Unit → Attempt β}
    (continues : ¬refused → Keeps limit allowed kept after (rest ())) :
    Keeps limit allowed kept after
      (if refused then MonadExcept.throw fault >>= rest else rest ()) := by
  split
  · exact .throw fault
  · next passed => exact continues passed

theorem Keeps.checked {result : Except Fault α} (holds : ∀ value, result = .ok value → post value) :
    Keeps limit allowed kept post (ExceptT.mk (Pure.pure result)) := fun _ held =>
  Tries.checked (fun value same => ⟨held, holds value same⟩) fun _ _ => held

theorem Keeps.caught (keeps : Keeps limit allowed kept post program) :
    Keeps limit allowed kept (fun result => ∀ value, result = .ok value → post value)
      (ExceptT.lift program.run) := by
  intro tree held
  refine Tries.caught (keeps tree held) ?_ fun held => ⟨held, nofun⟩
  rintro now value ⟨held, holds⟩
  exact ⟨held, fun _ same => Except.ok.inj same ▸ holds⟩

theorem Keeps.ask {post : call.Answer → Prop} (may : ∀ tree, kept tree → allowed tree call)
    (stays : ∀ {tree input}, kept tree → kept (serveFile limit tree call input).1)
    (holds : ∀ tree input, kept tree → post (serveFile limit tree call input).2) :
    Keeps limit allowed kept post (ask call) := fun tree held =>
  Tries.lift <| Makes.request (may tree held) fun input => ⟨stays held, holds tree input held⟩

end Keeps

theorem Looks.lift {program : FileProgram α} (sees : Sees limit allowed tree post program) :
    Looks limit allowed tree post (ExceptT.lift program) := by
  rintro _ rfl
  exact Tries.lift sees

def Stays {α : Type} (limit : Nat) (allowed : Tree → FileCall → Prop) (tree : Tree)
    (program : Attempt α) : Prop :=
  Tries (serveFile limit) allowed (fun _ _ => True) (fun _ _ => True) program tree

theorem Keeps.stays {kept : Tree → Prop} (keeps : Keeps limit allowed kept post program)
    (held : kept tree) : Stays limit allowed tree program :=
  Tries.weaken (fun _ => trivial) (fun _ => trivial) (keeps tree held)

theorem Looks.before {rest : α → Attempt β} (first : Looks limit allowed tree post program)
    (second : ∀ value, post value → Stays limit allowed tree (rest value)) :
    Stays limit allowed tree (program >>= rest) := by
  refine Tries.bind ((first tree rfl).weaken (fun holds => holds) fun _ => trivial) ?_
  rintro now value ⟨rfl, holds⟩
  exact second value holds

theorem Stays.throw (fault : Fault) :
    Stays limit allowed tree (MonadExcept.throw fault : Attempt α) := Tries.throw trivial

theorem Stays.guard [Decidable refused] {rest : Unit → Attempt β}
    (continues : ¬refused → Stays limit allowed tree (rest ())) :
    Stays limit allowed tree (if refused then MonadExcept.throw fault >>= rest else rest ()) := by
  split
  · exact Stays.throw fault
  · next passed => exact continues passed

section Calls

variable (reads : call.reads = true) (may : allowed tree call)

include reads may

theorem Sees.issue {post : call.Answer → Prop}
    (holds : ∀ input, post (serveFile limit tree call input).2) :
    Sees limit allowed tree post (issue call) :=
  Makes.request may fun input => ⟨serveFile_reads reads, holds input⟩

theorem Sees.answered {rest : call.Answer → FileProgram β}
    (failed : ∀ error, Sees limit allowed tree after (rest (.error error)))
    (next : ∀ input value, (serveFile limit tree call input).2 = .ok value →
      Sees limit allowed tree after (rest (.ok value))) :
    Sees limit allowed tree after (AgentTools.issue call >>= rest) := by
  have asked : Sees limit allowed tree
      (fun answer => ∃ input, (serveFile limit tree call input).2 = answer)
      (AgentTools.issue call) := .issue reads may fun input => ⟨input, rfl⟩
  refine asked.bind fun answer ⟨input, given⟩ => ?_
  cases answer with
  | error error => exact failed error
  | ok value => exact next input value given

theorem Looks.ask {post : call.Answer → Prop}
    (holds : ∀ input, post (serveFile limit tree call input).2) :
    Looks limit allowed tree post (ask call) :=
  .lift (.issue reads may holds)

theorem Looks.answered {rest : call.Answer → Attempt β}
    (failed : ∀ error, Looks limit allowed tree after (rest (.error error)))
    (next : ∀ input value, (serveFile limit tree call input).2 = .ok value →
      Looks limit allowed tree after (rest (.ok value))) :
    Looks limit allowed tree after (AgentTools.ask call >>= rest) := by
  have asked : Looks limit allowed tree
      (fun answer => ∃ input, (serveFile limit tree call input).2 = answer)
      (AgentTools.ask call) := .ask reads may fun input => ⟨input, rfl⟩
  refine asked.bind fun answer ⟨input, given⟩ => ?_
  cases answer with
  | error error => exact failed error
  | ok value => exact next input value given

theorem Looks.require {post : call.Value → Prop}
    (holds : ∀ input value, (serveFile limit tree call input).2 = .ok value → post value) :
    Looks limit allowed tree post (require call) :=
  Looks.answered reads may (fun _ => .throw _) fun input value given =>
    .pure (holds input value given)

end Calls

end Rules

section Paths

variable {root : Location} {depth : Nat} {place : Location} {info : FileInfo} {input : Interference}

structure Inside (root : Location) (tree : Tree) (place : Location) : Prop where
  found : tree.Found place
  below : root <+: place

/-- Calls that touch nothing are allowed, and so is reading at a place of the workspace. -/
structure Shows (allowed : Tree → FileCall → Prop) (root : Location) (tree : Tree) : Prop where
  silent : ∀ {call : FileCall}, call.touches = false → allowed tree call
  file : ∀ {place}, Inside root tree place → allowed tree (.readFile place.text)
  directory : ∀ {place}, Inside root tree place → allowed tree (.readDir place.text)

/-- Where `existingPath` leads: the root for the two texts that stand for it, or else where the
joined path does. -/
def Leads (root : Location) (tree : Tree) (relative : PathText) (place : Location) : Prop :=
  (relative = [""] ∨ relative = ["."]) ∧ place = root ∨
    PathText.Proper relative ∧ tree.follow 255 (root.join relative) [] = .ok place

theorem existingPath_looks (shows : Shows allowed root tree) (stands : tree.Stands root)
    (relative : PathText) :
    Looks limit allowed tree (fun place => Inside root tree place ∧ Leads root tree relative place)
      (existingPath root relative) := by
  unfold existingPath
  split
  · next dotted => exact .pure ⟨⟨stands.found, List.prefix_rfl⟩, .inl ⟨dotted, rfl⟩⟩
  · have checked : Looks limit allowed tree
        (fun taken => taken = relative ∧ PathText.Proper relative)
        (ExceptT.mk (pure (relativePath relative))) := by
      refine .checked fun taken accepted => ?_
      obtain ⟨same, _, proper⟩ := relativePath_ok accepted
      exact ⟨same, proper⟩
    refine checked.bind ?_
    rintro taken ⟨rfl, proper⟩
    have resolved : Looks limit allowed tree
        (fun place => tree.follow 255 (root.join taken) [] = .ok place)
        (require (.evalSymlinks (root.join taken))) :=
      .require rfl (shows.silent rfl) fun _ _ answered => evalSymlinks_ok answered
    refine resolved.bind fun place followed => ?_
    split
    · next within =>
      exact .pure ⟨⟨FileTree.follow_found stands.root followed, withinRoot_prefix within⟩,
        .inr ⟨proper, followed⟩⟩
    · exact .throw _

structure Visited (root : Location) (tree : Tree) (place : Location) (kind : FileKind) : Prop where
  node : ∃ node, tree.get place = some node ∧ kindOf node = kind
  proper : PathText.Proper place
  below : root <+: place

theorem Visited.inside {kind : FileKind} (visited : Visited root tree place kind)
    (real : kind ≠ .symlink) : Inside root tree place := by
  obtain ⟨node, here, same⟩ := visited.node
  refine ⟨⟨⟨node, here, ?_⟩, visited.proper⟩, visited.below⟩
  cases node with
  | link target => exact absurd same.symm real
  | file | directory | special => rfl

theorem stands_of_found (found : tree.Found place)
    (answered : (serveFile limit tree (.stat place.text) input).2 = .ok info)
    (directory : info.kind = .directory) : tree.Stands place := by
  obtain ⟨node, here, same⟩ := stat_ok found answered
  rw [← same, kindOf_infoOf] at directory
  refine ⟨?_, found.proper⟩
  cases node with
  | directory entries => exact ⟨entries, here⟩
  | file | link | special => cases directory

theorem stands_of_stat {path : PathText} (followed : tree.follow 255 path [] = .ok root)
    (answered : (serveFile limit tree (.stat root.text) input).2 = .ok info)
    (directory : info.kind = .directory) : tree.Stands root := by
  cases top : tree.isDirectory with
  | true =>
    have stands : tree.Stands [] := by
      refine ⟨?_, nofun⟩
      cases tree with
      | directory entries => exact ⟨entries, rfl⟩
      | file | link | special => cases top
    exact stands_of_found (FileTree.follow_found stands followed) answered directory
  | false =>
    -- the whole tree is one entry, and no directory
    obtain rfl := FileTree.follow_root top followed
    obtain ⟨_, performed, _⟩ := serveFile_ok answered
    simp only [perform, resolve, FileTree.follow_top, FileTree.get] at performed
    rw [← Except.ok.inj performed, kindOf_infoOf] at directory
    cases tree with
    | directory entries => cases top
    | file | link | special => cases directory

theorem canonicalRoot_looks (silent : ∀ call : FileCall, call.touches = false → allowed tree call)
    (path : PathText) :
    Looks limit allowed tree
      (fun root => tree.follow 255 path [] = .ok root ∧ tree.Stands root) (canonicalRoot path) := by
  unfold canonicalRoot
  refine .guard fun _ => ?_
  have resolved : Looks limit allowed tree (fun root => tree.follow 255 path [] = .ok root)
      (require (.evalSymlinks path)) :=
    .require rfl (silent _ rfl) fun _ _ answered => evalSymlinks_ok answered
  refine resolved.bind fun root followed => ?_
  refine Looks.answered rfl (silent _ rfl) (fun _ => .throw _) fun _ info answered => ?_
  simp only []
  split
  · next directory => exact .pure ⟨followed, stands_of_stat followed answered directory⟩
  · exact .throw _

end Paths

abbrev Works {α : Type} (limit : Nat) (allowed : Tree → FileCall → Prop) (parent : Location)
    (post : α → Prop) (program : Attempt α) : Prop :=
  Keeps limit allowed (·.Stands parent) post program

def Grants (allowed : Tree → FileCall → Prop) (parent : Location) : Prop :=
  ∀ {tree : Tree} {call : FileCall}, tree.Stands parent → call.WorksIn parent → allowed tree call

section Writing

variable {root parent : Location} {temporary path : PathText} {name : Name}
  {told : call.Answer → Prop} {given : call.Value → Prop} (grants : Grants allowed parent)
  (works : call.WorksIn parent)

include grants works in
theorem Works.ask
    (holds : ∀ (tree : Tree) input, tree.Stands parent → told (serveFile limit tree call input).2) :
    Works limit allowed parent told (ask call) :=
  Keeps.ask (fun _ stands => grants stands works) (serveFile_stands · works) holds

include grants works in
theorem Works.require
    (holds : ∀ (tree : Tree) input value, tree.Stands parent →
      (serveFile limit tree call input).2 = .ok value → given value) :
    Works limit allowed parent given (require call) := by
  have asked : Works limit allowed parent
      (fun answer => ∀ value, answer = .ok value → given value) (AgentTools.ask call) :=
    .ask grants works fun tree input stands value => holds tree input value stands
  refine asked.bind fun answer known => ?_
  cases answer with
  | ok value => exact .pure (known value rfl)
  | error error => exact .throw _

include grants works in
theorem orClose_works : Works limit allowed parent Any (orClose temporary call) := by
  have asked : Works limit allowed parent Any (ask call) := .ask grants works fun _ _ _ => trivial
  refine asked.bind fun answer _ => ?_
  cases answer with
  | ok value => exact .pure trivial
  | error error =>
    have closed : Works limit allowed parent Any (ask (.close temporary)) :=
      .ask grants trivial fun _ _ _ => trivial
    exact closed.bind fun _ _ => .throw _

def Names (parent : Location) (path : PathText) : Prop :=
  ∃ name, Name.proper name = true ∧ path = (parent ++ [name]).text

include grants in
theorem replaceFile_works (first : Names parent temporary) (second : Names parent path)
    (content : ByteArray) (mode : Nat) :
    Works limit allowed parent Any (replaceFile temporary path content mode) := by
  have step : ∀ call : FileCall, call.WorksIn parent →
      Works limit allowed parent Any (require call) := fun _ works =>
    .require grants works fun _ _ _ _ _ => trivial
  have careful : ∀ call : FileCall, call.WorksIn parent →
      Works limit allowed parent Any (orClose temporary call) := fun _ works =>
    orClose_works grants works
  refine (careful (.write temporary content) first).bind fun _ _ => ?_
  refine (careful (.chmod temporary mode) first).bind fun _ _ => ?_
  refine (careful (.sync temporary) trivial).bind fun _ _ => ?_
  refine (step (.close temporary) trivial).bind fun _ _ => ?_
  exact (step (.rename temporary path) ⟨first, second⟩).bind fun _ _ => .pure trivial

theorem temporaryName_proper (suffix : String) :
    Name.proper (".tekroo-write-" ++ suffix) = true := by
  have long : ∀ short : String, short.length < 14 → ".tekroo-write-" ++ suffix ≠ short := by
    intro short bound same
    have length := congrArg String.length same
    rw [String.length_append] at length
    have fixed : ".tekroo-write-".length = 14 := by decide
    omega
  simp [Name.proper, long "" (by decide), long "." (by decide), long ".." (by decide)]

include grants in
theorem createTemp_works :
    Works limit allowed parent (Names parent)
      (require (.createTemp parent.text ".tekroo-write-")) := by
  refine .require grants rfl fun tree input temporary stands answered => ?_
  obtain ⟨_, performed, _⟩ := serveFile_ok answered
  obtain ⟨entries, here⟩ := stands.directory
  simp only [perform, createTemp, FileTree.follow_self limit stands.found, here] at performed
  refine ⟨_, temporaryName_proper (toString input.random), ?_⟩
  split at performed
  · cases performed
    exact childPath_text stands.proper
  · cases performed
  · cases performed

theorem checkCurrent_looks (shows : Shows allowed root tree) (below : root <+: parent)
    (stands : tree.Stands parent) (proper : Name.proper name = true) (relative : PathText)
    (expectedSHA : String) :
    Looks limit allowed tree Any
      (checkCurrent library relative (parent ++ [name]).text expectedSHA) := by
  refine Looks.answered rfl (shows.silent rfl)
    (fun _ => .guard fun _ => .guard fun _ => .pure trivial) fun _ info answered => ?_
  obtain ⟨node, here, same⟩ := lstat_of_entryAt (entryAt_self stands proper) answered
  have visited : Visited root tree (parent ++ [name]) info.kind :=
    ⟨⟨node, here, by rw [← same, kindOf_infoOf]⟩, stands.proper.concat proper,
      below.trans (List.prefix_append ..)⟩
  refine .guard fun regular => .guard fun _ => ?_
  have inside := visited.inside (by rw [Decidable.not_not.mp regular]; nofun)
  have read : Looks limit allowed tree Any (require (.readFile (parent ++ [name]).text)) :=
    .require rfl (shows.file inside) fun _ _ _ => trivial
  exact read.bind fun _ _ => .guard fun _ => .pure trivial

theorem relativePath_split {relative : PathText} (accepted : relativePath path = .ok relative) :
    ∃ front name, relative = front ++ [name] ∧ PathText.Proper front ∧ Name.proper name = true := by
  obtain ⟨rfl, filled, proper⟩ := relativePath_ok accepted
  rcases List.eq_nil_or_concat relative with rfl | ⟨front, name, rfl⟩
  · exact absurd rfl filled
  · rw [List.concat_eq_append] at proper ⊢
    exact ⟨front, name, rfl, fun other member => proper other (by simp [member]),
      proper name (by simp)⟩

theorem leads_dir {front : PathText} {place : Location} (stands : tree.Stands root)
    (proper : PathText.Proper front)
    (leads : Leads root tree (PathText.dir (front ++ [name])) place) :
    tree.follow 255 (root ++ front) [] = .ok place := by
  rw [PathText.dir_proper proper] at leads
  cases front with
  | nil =>
    rcases leads with ⟨_, rfl⟩ | ⟨dotted, _⟩
    · rw [List.append_nil, FileTree.follow_names 255 stands.found]
    · have := dotted "." (List.mem_singleton_self _)
      cases this
  | cons first rest =>
    rw [if_neg (List.cons_ne_nil first rest)] at leads
    rcases leads with ⟨dotted, _⟩ | ⟨_, followed⟩
    · have := proper first (List.mem_cons_self ..)
      rcases dotted with same | same
      · obtain ⟨rfl, _⟩ := List.cons.inj same
        cases this
      · obtain ⟨rfl, _⟩ := List.cons.inj same
        cases this
    · rw [Location.join_proper (stands.proper.append proper)] at followed
      rw [← followed, FileTree.follow_text]

theorem writeFile_stays (shows : Shows allowed root tree) (stands : tree.Stands root)
    (relative : PathText) (content : ByteArray) (expectedSHA : String)
    (grants : ∀ {parent : Location} {front : PathText} {name : Name}, relative = front ++ [name] →
      root <+: parent → tree.follow 255 (root ++ front) [] = .ok parent → Grants allowed parent) :
    Stays limit allowed tree (writeFile library root relative content expectedSHA) := by
  have checked : Looks limit allowed tree (fun taken => taken = relative ∧
      ∃ front name, relative = front ++ [name] ∧ PathText.Proper front ∧ Name.proper name = true)
      (ExceptT.mk (pure (relativePath relative))) := by
    refine .checked fun taken accepted => ?_
    obtain ⟨front, name, rfl, proper⟩ := relativePath_split accepted
    obtain ⟨rfl, _⟩ := relativePath_ok accepted
    exact ⟨rfl, front, name, rfl, proper⟩
  refine checked.before ?_
  rintro _ ⟨rfl, front, name, rfl, fronted, proper⟩
  refine (existingPath_looks shows stands _).before fun parent found => ?_
  obtain ⟨inside, leads⟩ := found
  have granted : Grants allowed parent := grants rfl inside.below (leads_dir stands fronted leads)
  have asked : Looks limit allowed tree (fun answer => ∀ info : FileInfo, answer = .ok info →
      info.kind = .directory → tree.Stands parent) (ask (.stat parent.text)) :=
    .ask rfl (shows.silent rfl) fun _ _ => stands_of_found inside.found
  refine asked.before fun answer known => ?_
  cases answer with
  | error error => exact .throw _
  | ok info =>
    refine .guard fun directory => ?_
    have stands := known info rfl (Decidable.not_not.mp directory)
    have joined : parent.join [PathText.base (front ++ [name])] = (parent ++ [name]).text := by
      rw [PathText.base_proper proper, Location.join_proper (stands.proper.concat proper)]
    rw [joined]
    refine (checkCurrent_looks shows inside.below stands proper _ expectedSHA).before
      fun mode _ => ?_
    refine Keeps.stays (?_ : Works limit allowed parent Any _) stands
    refine (createTemp_works granted).bind fun temporary named => ?_
    have replaced : Works limit allowed parent Any
        (replaceFile temporary (parent ++ [name]).text content mode) :=
      replaceFile_works granted named ⟨name, proper, rfl⟩ content mode
    refine replaced.caught.bind fun outcome _ => ?_
    have removed : Works limit allowed parent Any (ask (.remove temporary)) :=
      .ask granted named fun _ _ _ => trivial
    refine removed.bind fun _ _ => ?_
    have passed : Works limit allowed parent Any (ExceptT.mk (pure outcome)) :=
      .checked fun _ _ => trivial
    exact passed.bind fun _ _ => .pure trivial

end Writing

end Tekroo.AgentTools
