import Tekroo.AgentTools.Search
import Tekroo.Kernel.WorkInvocation

/-! # The host -/

namespace Tekroo.AgentTools

open Lib Kernel

inductive Tool where
  | readFile | checkGoFormat | listFiles | findFiles | searchFileContents | writeFile

/-- `Permission` of the tool's entry in `specs`. -/
def Tool.permission : Tool → String
  | .readFile | .checkGoFormat | .listFiles | .findFiles | .searchFileContents =>
    "repository.read"
  | .writeFile => "repository.edit"

structure Authority where
  workspaceRoot : PathText
  permissions : List String
  purpose : WorkPurpose
  effectPolicyDigest : Digest

structure Call where
  name : Tool
  arguments : ByteArray

structure Result where
  name : Tool
  path : String := ""
  output : String := ""
  files : List String := []
  hits : List SearchMatch := []
  matchCount : Option Nat := none
  indexTree : String := ""
  commitSHA : String := ""
  truncated : Bool := false
  skippedFiles : Nat := 0
  nextAfter : String := ""
  sha256 : String := ""
  lineCount : Option Int := none
  startLine : Option Int := none
  endLine : Option Int := none
  contentComplete : Option Bool := none
  maxReadLines : Int := 0
  formatClean : Option Bool := none
  exitCode : Int := 0
  executionError : String := ""

structure Host where
  timeout : Int

structure ReadArguments where
  path : PathText
  startLine : Option Int
  endLine : Option Int

structure ListArguments where
  path : PathText
  startAfter : String
  limit : Option Int

structure FindArguments where
  filenameGlob : PathText
  directory : PathText
  startAfter : String
  limit : Option Int

structure SearchArguments where
  regex : String
  path : PathText
  filenameGlob : PathText
  excludeGlob : PathText
  ignoreCase : Bool
  resultMode : String
  afterLines : Option Int
  maxResults : Option Int

structure WriteArguments where
  path : PathText
  content : String
  expectedSHA256 : String

/-- `decode` into the arguments of each tool, and `json.Marshal` of a result. -/
structure Codec where
  read : ByteArray → Option ReadArguments
  format : ByteArray → Option (List PathText)
  list : ByteArray → Option ListArguments
  find : ByteArray → Option FindArguments
  search : ByteArray → Option SearchArguments
  write : ByteArray → Option WriteArguments
  marshal : Result → ByteArray

def permitted (permissions : List String) (required : String) : Bool :=
  let reads := permissions.contains "repository.read" || permissions.contains "repository.edit"
  if required = "test.execute" then permissions.contains "test.execute" && reads
  else permissions.contains required ||
    required = "repository.read" && permissions.contains "repository.edit"

def WriteArguments.accepted (arguments : WriteArguments) : Bool :=
  arguments.path ≠ [""] && arguments.content.utf8ByteSize ≤ 1 <<< 20 &&
    validExpectedSHA arguments.expectedSHA256

def bounded (given : Option Int) (least most default : Int) : Except Fault Int :=
  match given with
  | none => .ok default
  | some value => if least ≤ value ∧ value ≤ most then .ok value else .error .invalidCall

namespace Host

variable (library : Library) (codec : Codec) (depth : Nat) (root : Location) (raw : ByteArray)

def describeRead (arguments : ReadArguments) (output digest : String) (count : Int) : Result :=
  let start := arguments.startLine.getD 1
  let stop := min (arguments.endLine.getD (start + maxReadFileLines - 1)) count
  let beyond := count = 0 ∨ count < start
  let start := if beyond then 0 else start
  let stop := if beyond then 0 else stop
  let complete := decide (count = 0 ∨ start = 1 ∧ stop = count)
  { name := .readFile, path := arguments.path.text, output, sha256 := digest
    lineCount := some count, startLine := some start, endLine := some stop
    contentComplete := some complete, truncated := !complete, maxReadLines := maxReadFileLines }

def runReadFile : Attempt Result := do
  match codec.read raw with
  | none => throw .invalidCall
  | some arguments =>
    if arguments.path = [""] ∨ arguments.startLine.any (· < 1) ∨
        arguments.endLine.any (· < 1) then
      throw .invalidCall
    let (output, digest, count) ← readFile library root arguments.path
      (arguments.startLine.getD 0) (arguments.endLine.getD 0)
    pure (describeRead arguments output digest count)

def runCheckGoFormat : Attempt Result := do
  match codec.format raw with
  | none => throw .invalidCall
  | some paths =>
    if paths.length < 1 ∨ paths.length > 32 then throw .invalidCall
    let files ← checkGoFormat library root [] paths
    pure { name := .checkGoFormat, files, formatClean := some files.isEmpty }

def runListFiles : Attempt Result := do
  match codec.list raw with
  | none => throw .invalidCall
  | some arguments =>
    let limit ← ExceptT.mk (pure (bounded arguments.limit 1 200 200))
    let (files, truncated, nextAfter) ←
      listFiles root arguments.path arguments.startAfter limit.toNat
    pure { name := .listFiles, files, truncated, nextAfter }

def runFindFiles : Attempt Result := do
  match codec.find raw with
  | none => throw .invalidCall
  | some arguments =>
    let limit ← ExceptT.mk (pure (bounded arguments.limit 1 200 200))
    let (files, truncated, nextAfter) ← findFiles library depth root
      arguments.directory arguments.filenameGlob arguments.startAfter limit.toNat
    pure { name := .findFiles, files, truncated, nextAfter }

def runSearchFileContents : Attempt Result := do
  match codec.search raw with
  | none => throw .invalidCall
  | some arguments =>
    let limit ← ExceptT.mk (pure (bounded arguments.maxResults 1 100 100))
    let after ← ExceptT.mk (pure (bounded arguments.afterLines 0 40 0))
    let found ← searchFileContents library depth root
      { path := arguments.path, filenameGlob := arguments.filenameGlob
        excludeGlob := arguments.excludeGlob, regex := arguments.regex
        ignoreCase := arguments.ignoreCase, resultMode := arguments.resultMode
        afterLines := after, maxResults := limit }
    pure { name := .searchFileContents, hits := found.hits, files := found.files
           matchCount := found.matchCount, truncated := found.truncated
           skippedFiles := found.skippedFiles }

def runWriteFile : Attempt Result := do
  match codec.write raw with
  | none => throw .invalidCall
  | some arguments =>
    if arguments.accepted = false then throw .invalidCall
    let digest ← writeFile library root arguments.path arguments.content.toUTF8
      arguments.expectedSHA256
    pure { name := .writeFile, sha256 := digest }

def runTool (call : Call) : Attempt Result :=
  match call.name with
  | .readFile => runReadFile library codec root call.arguments
  | .checkGoFormat => runCheckGoFormat library codec root call.arguments
  | .listFiles => runListFiles codec root call.arguments
  | .findFiles => runFindFiles library codec depth root call.arguments
  | .searchFileContents => runSearchFileContents library codec depth root call.arguments
  | .writeFile => runWriteFile library codec root call.arguments

variable (host : Host)

def execute (authority : Authority) (call : Call) : Attempt Result := do
  if call.arguments.size = 0 then throw .invalidCall
  if permitted authority.permissions call.name.permission = false then throw .forbidden
  match ← ExceptT.lift (canonicalRoot authority.workspaceRoot).run with
  | .error _ => throw .invalidCall
  | .ok root =>
    if host.timeout ≤ 0 then throw .invalidCall
    runTool library codec depth root call

end Host

end Tekroo.AgentTools
