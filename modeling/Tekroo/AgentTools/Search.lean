import Mathlib.Data.List.Forall2
import Mathlib.Data.Nat.Choose.Central
import Tekroo.AgentTools.Files

/-! # Searching the workspace

The walk over the regular files below a directory, which enters no link and no `.git` directory,
and the two tools that use it.
-/

namespace Tekroo.AgentTools

open Lib

structure SearchMatch where
  path : String
  number : Nat
  text : String
  after : List String
  textTruncated : Bool

structure ContentSearchQuery where
  path : PathText
  filenameGlob : PathText
  excludeGlob : PathText
  regex : String
  ignoreCase : Bool
  resultMode : String
  afterLines : Int
  maxResults : Int

structure ContentSearchResult where
  hits : List SearchMatch := []
  files : List String := []
  matchCount : Option Nat := none
  truncated : Bool := false
  skippedFiles : Nat := 0

def searchDirectory (root : Location) (relative : PathText) : Attempt Location := do
  let directory ← existingPath root relative
  match ← ask (.stat directory.text) with
  | .error _ => throw .invalidCall
  | .ok info => if info.kind = .directory then pure directory else throw .invalidCall

def validateFilenameGlob (library : Library) (pattern : PathText) : Except Fault Unit :=
  if pattern = [""] ∨ pattern.size > 256 ∨ pattern.absolute then .error .invalidCall
  else if pattern.all fun segment => Name.proper segment &&
      (segment = "**" || (library.matchSegment segment "x").isSome) then
    .ok ()
  else .error .invalidCall

/-- `**`: the rest of the pattern after any number of parts. -/
def skipParts (next : List Name → Bool) : List Name → Bool
  | [] => next []
  | part :: rest => next (part :: rest) || skipParts next rest

def globMatches (library : Library) : List String → List Name → Bool
  | [], parts => parts.isEmpty
  | segment :: rest, parts =>
    if segment = "**" then skipParts (globMatches library rest) parts
    else
      match parts with
      | [] => false
      | part :: below =>
        (library.matchSegment segment part).getD false && globMatches library rest below

def filenameGlobMatches (library : Library) (pattern relative : PathText) : Bool :=
  if pattern = [""] then true
  else
    match pattern with
    | [segment] => (library.matchSegment segment relative.base).getD false
    | segments => globMatches library segments relative

/-- `**` stands for any number of parts, any other segment for one part that it matches. -/
def Library.StandsFor (library : Library) (segment : String) (piece : List Name) : Prop :=
  segment = "**" ∨ ∃ part, library.matchSegment segment part = some true ∧ piece = [part]

section Glob

variable {library : Library} {segments : List String} {parts : List Name}

end Glob

namespace Sample

end Sample

/-- What the function given to the walk keeps between two files, and the error it returned. -/
abbrev Visit (ω : Type) := ω → Location → PathText → FileProgram (ω × Option Fault)

section Walk

variable {ω : Type} (root : Location) (visit : Visit ω)

structure Walked (ω : Type) where
  count : Nat
  kept : ω

/-- The function that `walkWorkspaceFiles` hands to `WalkDir`, on a regular file. -/
def visitRegular (walked : Walked ω) (absolute : Location) :
    FileProgram (Walked ω × Option Fault) :=
  let walked := { walked with count := walked.count + 1 }
  if walked.count > 50000 then pure (walked, some .tooLarge)
  else if withinRoot root absolute = false then pure (walked, some .boundary)
  else do
    let (kept, stopped) ← visit walked.kept absolute (root.relative absolute)
    pure ({ walked with kept }, stopped)

def walkEntries (enter : Walked ω → Location → FileKind → FileProgram (Walked ω × Option Fault))
    (directory : Location) (walked : Walked ω) :
    List (Name × FileKind) → FileProgram (Walked ω × Option Fault)
  | [] => pure (walked, none)
  | (name, kind) :: rest => do
    let (walked, stopped) ← enter walked (directory ++ [name]) kind
    if stopped.isSome then pure (walked, stopped)
    else walkEntries enter directory walked rest

/-- `WalkDir` on one entry; `depth` bounds the directories that lie below each other. -/
def walkEntry (depth : Nat) (walked : Walked ω) (absolute : Location) (kind : FileKind) :
    FileProgram (Walked ω × Option Fault) := do
  match ← issue .contextErr with
  | .error error => pure (walked, some (.system error))
  | .ok _ =>
    match kind, depth with
    | .regular, _ => visitRegular root visit walked absolute
    | .directory, depth + 1 =>
      if absolute.getLast? = some ".git" then pure (walked, none)
      else
        match ← issue (.readDir absolute.text) with
        | .error error => pure (walked, some (.system error))
        | .ok entries => walkEntries (walkEntry depth) absolute walked entries
    | _, _ => pure (walked, none)

def walkWorkspaceFiles (depth : Nat) (directory : Location) (kept : ω) :
    FileProgram (ω × Option Fault) := do
  match ← issue (.lstat directory.text) with
  | .error error => pure (kept, some (.system error))
  | .ok info => do
    let (walked, stopped) ← walkEntry root visit depth ⟨0, kept⟩ directory info.kind
    pure (walked.kept, stopped)

end Walk

def findFiles (library : Library) (depth : Nat) (root : Location)
    (relativeDirectory pattern : PathText) (startAfter : String) (limit : Nat) :
    Attempt (List String × Bool × String) := do
  let _ ← ExceptT.mk (pure (validateFilenameGlob library pattern))
  let directory ← searchDirectory root relativeDirectory
  let collect : Visit (List String) := fun files _ relative =>
    pure (if filenameGlobMatches library pattern relative then files ++ [relative.text] else files,
      none)
  let (files, stopped) ← ExceptT.lift (walkWorkspaceFiles root collect depth directory [])
  match stopped with
  | some fault => throw fault
  | none =>
    let files := (files.mergeSort fun first second => decide (first ≤ second)).filter
      fun file => decide (startAfter < file)
    if files.length > limit then
      pure (files.take limit, true, (files.take limit).getLastD "")
    else pure (files, false, "")

inductive ResultMode where
  | lines | filenames | count
deriving DecidableEq

def ResultMode.ofText : String → Option ResultMode
  | "" | "lines" => some .lines
  | "filenames" => some .filenames
  | "count" => some .count
  | _ => none

/-- The longest part of a line that has at most so many bytes and ends with a whole character. -/
def boundedCharacters (limit : Nat) : List Char → List Char
  | [] => []
  | character :: rest =>
    if character.utf8Size ≤ limit then
      character :: boundedCharacters (limit - character.utf8Size) rest
    else []

def boundedSearchLine (text : String) (limit : Nat) : String × Bool :=
  if text.utf8ByteSize ≤ limit then (text, false)
  else (String.ofList (boundedCharacters limit text.toList), true)

structure ContentSearch where
  result : ContentSearchResult
  scannedBytes : Nat := 0
  outputBytes : Nat := 0

section Contents

variable (query : ContentSearchQuery) (mode : ResultMode) (isMatch : String → Bool)

def searchLines (relative : PathText) : Nat → List String → ContentSearch →
    ContentSearch × Option Fault
  | _, [], search => (search, none)
  | index, text :: rest, search =>
    if isMatch text = false then searchLines relative (index + 1) rest search
    else
      match mode with
      | .count =>
        let counted := search.result.matchCount.map (· + 1)
        searchLines relative (index + 1) rest
          { search with result := { search.result with matchCount := counted } }
      | .filenames =>
        if search.result.files.length = query.maxResults then
          ({ search with result := { search.result with truncated := true } },
            some .searchLimit)
        else
          let files := search.result.files ++ [relative.text]
          ({ search with result := { search.result with files } }, none)
      | .lines =>
        let (shown, clipped) := boundedSearchLine text 2048
        let after := (rest.take query.afterLines.toNat).map fun following =>
          (boundedSearchLine following 2048).1
        let size := relative.size + shown.utf8ByteSize + 32 +
          (after.map fun following => following.utf8ByteSize + 4).sum
        if search.result.hits.length = query.maxResults ∨
            search.outputBytes + size > 64 <<< 10 then
          ({ search with result := { search.result with truncated := true } },
            some .searchLimit)
        else
          let hits := search.result.hits ++ [⟨relative.text, index + 1, shown, after, clipped⟩]
          searchLines relative (index + 1) rest
            { search with
              result := { search.result with hits }
              outputBytes := search.outputBytes + size }

def skipFile (search : ContentSearch) : ContentSearch :=
  { search with
    result := { search.result with skippedFiles := search.result.skippedFiles + 1 } }

def searchFile (library : Library) : Visit ContentSearch := fun search absolute relative => do
  if filenameGlobMatches library query.filenameGlob relative = false ∨
      query.excludeGlob ≠ [""] ∧ filenameGlobMatches library query.excludeGlob relative = true then
    pure (search, none)
  else
    match ← issue (.stat absolute.text) with
    | .error error => pure (search, some (.system error))
    | .ok info =>
      if info.size > 2 <<< 20 then pure (skipFile search, none)
      else
        let search := { search with scannedBytes := search.scannedBytes + info.size }
        if search.scannedBytes > 64 <<< 20 then pure (search, some .tooLarge)
        else
          match ← issue (.readFile absolute.text) with
          | .error error => pure (search, some (.system error))
          | .ok content =>
            match String.fromUTF8? content with
            | none => pure (skipFile search, none)
            | some text =>
              if '\x00' ∈ text.toList then pure (skipFile search, none)
              else if text = "" then pure (search, none)
              else pure (searchLines query mode isMatch relative 0 (linesOf text) search)

end Contents

def ContentSearchQuery.prepare (library : Library) (query : ContentSearchQuery) :
    Except Fault (ResultMode × (String → Bool)) := do
  if query.regex = "" ∨ query.regex.utf8ByteSize > 4096 ∨ query.maxResults < 1 ∨
      query.maxResults > 100 ∨ query.afterLines < 0 ∨ query.afterLines > 40 then
    throw .invalidCall
  match ResultMode.ofText query.resultMode with
  | none => throw .invalidCall
  | some mode =>
    if query.afterLines > 0 ∧ mode ≠ .lines then throw .invalidCall
    for pattern in [query.filenameGlob, query.excludeGlob] do
      if pattern ≠ [""] then validateFilenameGlob library pattern
    let expression := if query.ignoreCase then "(?i:" ++ query.regex ++ ")" else query.regex
    match library.compile expression with
    | none => throw .invalidCall
    | some isMatch => pure (mode, isMatch)

def searchFileContents (library : Library) (depth : Nat) (root : Location)
    (query : ContentSearchQuery) : Attempt ContentSearchResult := do
  let (mode, isMatch) ← ExceptT.mk (pure (query.prepare library))
  let target ← existingPath root query.path
  match ← ask (.stat target.text) with
  | .error _ => throw .invalidCall
  | .ok info =>
    if info.kind ≠ .directory ∧ info.kind ≠ .regular then throw .invalidCall
    let visit := searchFile query mode isMatch library
    let first : ContentSearch :=
      { result := { matchCount := if mode = .count then some 0 else none } }
    let (search, stopped) ← ExceptT.lift <|
      if info.kind = .directory then walkWorkspaceFiles root visit depth target first
      else do
        match ← issue .contextErr with
        | .error error => pure (first, some (.system error))
        | .ok _ => visit first target (root.relative target)
    match stopped with
    | none | some .searchLimit =>
      let result := search.result
      pure { result with truncated := result.truncated || result.skippedFiles > 0 }
    | some fault => throw fault

end Tekroo.AgentTools
