import Tekroo.AgentTools.FileSystem

/-! # Workspace files

Every path that a tool is given is taken relative to the root of the workspace, resolved, and
refused when it leads out.
-/

namespace Tekroo.AgentTools

open Lib

/-- What the tools take from Go's library and from SHA-256. -/
structure Library where
  /-- `hex.EncodeToString` of `sha256.Sum256`. -/
  sha256 : ByteArray → String
  /-- The verb `%q`. -/
  quote : String → String
  /-- `format.Source`, or the text of its error. -/
  format : ByteArray → Except String ByteArray
  /-- `regexp.Compile` and `MatchString`. -/
  compile : String → Option (String → Bool)
  /-- `path.Match` for a pattern without slashes; a bad pattern has no answer. -/
  matchSegment : String → Name → Option Bool

inductive Fault where
  | invalidCall
  | badRange (path : PathText)
  | forbidden
  | boundary
  | tooLarge
  | precondition (path : PathText) (expected current : String) (found : Bool)
  | format (path : PathText) (text : String)
  | system (error : SystemError)
  | searchLimit
deriving DecidableEq

abbrev FileProgram := Program FileCall FileCall.Answer

abbrev Attempt := ExceptT Fault FileProgram

variable (call : FileCall) (library : Library) (root : Location) (relative : PathText)

def issue : FileProgram call.Answer := Program.request call

def ask : Attempt call.Answer := ExceptT.lift (issue call)

def require : Attempt call.Value := do
  match ← ask call with
  | .ok value => pure value
  | .error error => throw (.system error)

def canonicalRoot (path : PathText) : Attempt Location := do
  if path.absolute = false then throw .boundary
  let root ← require (.evalSymlinks path)
  match ← ask (.stat root.text) with
  | .error _ => throw .boundary
  | .ok info => if info.kind = .directory then pure root else throw .boundary

def climbs : PathText → Bool
  | ".." :: _ :: _ => true
  | _ => false

def relativePath (path : PathText) : Except Fault PathText :=
  if path.absolute || path = [""] || path = ["."] || path.clean ≠ path || path = [".."] ||
      climbs path then
    .error .boundary
  else .ok path

theorem relativePath_ok {path relative : PathText} (accepted : relativePath path = .ok relative) :
    relative = path ∧ path ≠ [] ∧ PathText.Proper path := by
  unfold relativePath at accepted
  split at accepted
  · cases accepted
  · next passed =>
    simp only [Bool.or_eq_true, decide_eq_true_eq, not_or, ne_eq, Decidable.not_not,
      Bool.not_eq_true] at passed
    obtain ⟨⟨⟨⟨⟨relative, _⟩, dot⟩, cleaned⟩, up⟩, below⟩ := passed
    refine ⟨(Except.ok.inj accepted).symm, ?_⟩
    obtain ⟨ups, names, split, proper⟩ := path.tidy_elements
    have kept : path.elements = path ∧ path ≠ [] := by
      unfold PathText.clean at cleaned
      rw [relative] at cleaned
      cases elements : path.elements with
      | nil =>
        rw [elements] at cleaned
        exact absurd cleaned.symm dot
      | cons first rest =>
        rw [elements] at cleaned
        exact ⟨cleaned, cleaned ▸ List.cons_ne_nil first rest⟩
    obtain ⟨same, filled⟩ := kept
    rw [same] at split
    cases ups with
    | zero =>
      obtain rfl : path = names := split
      exact ⟨filled, proper⟩
    | succ ups =>
      -- the text would be `..` or begin with `../`
      rw [split, List.replicate_succ, List.cons_append] at up below
      cases remaining : List.replicate ups ".." ++ names with
      | nil => exact absurd (congrArg _ remaining) up
      | cons => rw [remaining] at below; cases below

def withinRoot (root path : Location) : Bool :=
  let relative := root.relative path
  relative ≠ [".."] && !climbs relative && !PathText.absolute relative

theorem withinRoot_prefix {root path : Location} (within : withinRoot root path = true) :
    root <+: path := by
  refine Location.prefix_of_relative fun up => ?_
  simp only [withinRoot, Bool.and_eq_true, decide_eq_true_eq, Bool.not_eq_true'] at within
  obtain ⟨⟨single, climbing⟩, _⟩ := within
  cases way : root.relative path with
  | nil => rw [way] at up; cases up
  | cons first rest =>
    rw [way] at up single climbing
    obtain rfl : first = ".." := Option.some.inj up
    cases rest with
    | nil => exact single rfl
    | cons => cases climbing

def existingPath : Attempt Location := do
  if relative = [""] ∨ relative = ["."] then return root
  let relative ← ExceptT.mk (pure (relativePath relative))
  let resolved ← require (.evalSymlinks (root.join relative))
  if withinRoot root resolved then pure resolved else throw .boundary

def maxReadFileLines : Int := 400

def boundedContent : Attempt ByteArray := do
  let path ← existingPath root relative
  match ← ask (.stat path.text) with
  | .error _ => throw .invalidCall
  | .ok info =>
    if info.kind ≠ .regular then throw .invalidCall
    if info.size > 1 <<< 20 then throw .tooLarge
    require (.readFile path.text)

/-- `strings.Split(strings.TrimSuffix(text, "\n"), "\n")`. -/
def linesOf (text : String) : List String :=
  let characters := text.toList
  let trimmed := if characters.getLast? = some '\n' then characters.dropLast else characters
  (trimmed.splitOn '\n').map String.ofList

def selectLines (content : ByteArray) (text : String) (start stop : Int) :
    Except Fault (String × String × Int) :=
  let digest := library.sha256 content
  if content.size = 0 then
    if stop ≠ 0 ∧ stop < start then .error .invalidCall else .ok ("", digest, 0)
  else
    let lines := linesOf text
    let count : Int := lines.length
    let start := if start = 0 then 1 else start
    let stop := if stop = 0 then min count (start + maxReadFileLines - 1) else stop
    if start < 1 ∨ stop < start ∨ maxReadFileLines ≤ stop - start then .error (.badRange relative)
    else if count < start then .ok ("", digest, count)
    else
      let stop := min stop count
      let selected := "\n".intercalate ((lines.take stop.toNat).drop (start - 1).toNat)
      if selected.utf8ByteSize > 64 <<< 10 then .error .tooLarge else .ok (selected, digest, count)

def readFile (start stop : Int) : Attempt (String × String × Int) := do
  let content ← boundedContent root relative
  match String.fromUTF8? content with
  | none => throw .invalidCall
  | some text => ExceptT.mk (pure (selectLines library relative content text start stop))

/-- The files that are not in gofmt's form; `seen` are those that were checked before. -/
def checkGoFormat (library : Library) (root : Location) (seen : List PathText) :
    List PathText → Attempt (List String)
  | [] => pure []
  | relative :: rest => do
    if relative ∈ seen ∨ relative.ext ≠ ".go" then throw .invalidCall
    let content ← boundedContent root relative
    match library.format content with
    | .error text => throw (.format relative text)
    | .ok formatted =>
      let unformatted ← checkGoFormat library root (relative :: seen) rest
      pure (if content = formatted then unformatted else relative.text :: unformatted)

def page (startAfter : String) (limit : Nat) :
    List (Name × FileKind) → List String → Name → List String × Bool × String
  | [], files, _ => (files, false, "")
  | (name, kind) :: rest, files, lastName =>
    if name ≤ startAfter then page startAfter limit rest files lastName
    else if files.length = limit then (files, true, lastName)
    else
      let shown := if kind = .directory then name ++ "/" else name
      page startAfter limit rest (files ++ [shown]) name

def listFiles (startAfter : String) (limit : Nat) : Attempt (List String × Bool × String) := do
  let path ← existingPath root relative
  let entries ← require (.readDir path.text)
  pure (page startAfter limit entries [] "")

def validExpectedSHA (value : String) : Bool :=
  value = "" ||
    value.utf8ByteSize = 64 &&
      value.toList.all fun digit => ('0' ≤ digit ∧ digit ≤ '9') ∨ ('a' ≤ digit ∧ digit ≤ 'f')

def checkCurrent (relative path : PathText) (expectedSHA : String) : Attempt Nat := do
  match ← ask (.lstat path) with
  | .ok current =>
    if current.kind ≠ .regular then throw .boundary
    if current.size > 1 <<< 20 then throw .tooLarge
    let old ← require (.readFile path)
    let actual := library.sha256 old
    if expectedSHA ≠ actual then throw (.precondition relative expectedSHA actual true)
    pure current.permissions
  | .error error =>
    if error.reason ≠ .notExist then throw (.system error)
    if expectedSHA ≠ "" then throw (.precondition relative expectedSHA "" false)
    pure 0o644

def orClose (temporary : PathText) (call : FileCall) : Attempt Unit := do
  match ← ask call with
  | .ok _ => pure ()
  | .error error =>
    let _ ← ask (.close temporary)
    throw (.system error)

/-- From the first write to the rename. -/
def replaceFile (temporary path : PathText) (content : ByteArray) (mode : Nat) : Attempt Unit := do
  orClose temporary (.write temporary content)
  orClose temporary (.chmod temporary mode)
  orClose temporary (.sync temporary)
  let _ ← require (.close temporary)
  let _ ← require (.rename temporary path)

def writeFile (content : ByteArray) (expectedSHA : String) : Attempt String := do
  let relative ← ExceptT.mk (pure (relativePath relative))
  let parent ← existingPath root relative.dir
  match ← ask (.stat parent.text) with
  | .error _ => throw .boundary
  | .ok info =>
    if info.kind ≠ .directory then throw .boundary
    let path := parent.join [relative.base]
    let mode ← checkCurrent library relative path expectedSHA
    let temporary ← require (.createTemp parent.text ".tekroo-write-")
    let outcome ← ExceptT.lift (replaceFile temporary path content mode).run
    -- the deferred removal, whether the rename took place or not
    let _ ← ask (.remove temporary)
    let _ ← ExceptT.mk (pure outcome)
    pure (library.sha256 content)

end Tekroo.AgentTools
