import ElfScope.CommandLine.Task
import ElfScope.Tool.Run

/-!
# The program

The first word of the command line names a tool, `read-elf` or `read-symtab`, or `workspace` for the
tasks on a workspace; the rest are its arguments. The files that a run can reach are read first,
and the effects of the run are then carried out in order. The calls of a task are written out and
taken to succeed.
-/

namespace ElfScope.Program

/-- What is said about a command line that is not carried out. -/
def usageLine (error : CommandLine.UsageError) : String :=
  match error with
  | .missingWord => "error: a required argument is missing\n"
  | .unknownWord => "error: unexpected argument\n"
  | .invalidValue => "error: invalid or missing value\n"
  | .conflict => "error: an argument is repeated or conflicts with another\n"
  | .unexpectedValue => "error: unexpected value for a flag\n"
  | .help => ""
  | .version => ""

/-- The exit status of a command line that is not carried out. -/
def usageStatus : CommandLine.UsageError → UInt32
  | .help | .version => 0
  | _ => 2

/-- How a tool is used. -/
def toolHelp (tool : Tool) : String :=
  let parts := match tool with
    | .header => " [-S|--sections] [-s|--symbols] [-a|--all]"
    | .symbols => ""
  "Usage: " ++ tool.name ++ " [--config PATH] [--labels compat|full] [--buffered] [-q|-v...]"
    ++ parts ++ " FILE\n"

/-- How the tasks are used. -/
def taskHelp : String :=
  "Usage: workspace test [-r] [-p PACKAGE] [--no-default-features] [-- ARGS...]\n"
    ++ "       workspace clippy [-p PACKAGE]\n"
    ++ "       workspace fmt [--check]\n"
    ++ "       workspace doc [--open]\n"

/-- The fault behind an error of the operating system. -/
def faultOf : IO.Error → FileFault
  | .inappropriateType _ code _ => if code = 20 then .notDirectory else .isDirectory
  | .invalidArgument _ code _ => if code = 36 then .nameTooLong else .notFound
  | _ => .notFound

/-- What the file system holds at a path. -/
def readEntry (path : String) : IO (Except FileFault Entry) := do
  try
    let contents ← IO.FS.readBinFile path
    return .ok (.file contents.data)
  catch error =>
    match faultOf error with
    | .isDirectory => return .ok .directory
    | fault => return .error fault

/-- The files at the given paths. -/
def readFiles (paths : List String) : IO Files := do
  let entries ← paths.mapM fun path => return (path, ← readEntry path)
  return ⟨fun path => (entries.lookup path).getD (.error .notFound)⟩

/-- What is said about a malformed configuration: that it is one. -/
def explanation : String → String :=
  fun _ => "TOML parse error"

/-- Carries out an effect of a tool. -/
def perform (filter : Log.Filter) (effect : Effect) : IO Unit := do
  IO.print (Run.outputText effect)
  IO.eprint (Run.errorText filter effect)

/-- Runs a tool. -/
def runTool (tool : Tool) (words : List String) : IO UInt32 := do
  match ToolArguments.parse tool words with
  | .error error =>
    if error = .help then IO.print (toolHelp tool)
    if error = .version then IO.print tool.versionLine
    IO.eprint (usageLine error)
    return usageStatus error
  | .ok arguments =>
    let environment ← IO.getEnv "ELFVIEW_CONFIG"
    let requested ← IO.getEnv "RUST_LOG"
    let paths := (Settings.configurationPath? arguments environment).toList
    let files ← readFiles (arguments.file :: paths)
    let run := Run.ofTool tool files environment arguments
    for effect in Run.effects explanation tool run do
      perform (Run.filter requested arguments) effect
    return UInt32.ofNat (Run.exitStatus run)

/-- The path of a location. -/
def pathOf (location : Location) : String :=
  "/" ++ "/".intercalate location.reverse

/-- A location and all locations outward from it. -/
def outward : Location → List Location
  | [] => [[]]
  | name :: outer => (name :: outer) :: outward outer

/-- The manifests in a directory and outward from it. -/
def readManifests (directory : Location) : IO FileTree := do
  let found ← (outward directory).filterMapM fun location => do
    let manifest := Workspace.manifestName :: location
    match ← readEntry (pathOf manifest) with
    | .ok entry => return some (manifest, entry)
    | .error _ => return none
  return FileTree.ofList found

/-- Carries out an effect of a task. -/
def performTask : TaskEffect → IO Unit
  | .output text => IO.print text
  | .call arguments => IO.println (" ".intercalate ("cargo" :: arguments))

/-- Carries out a task. -/
def runTask (words : List String) : IO UInt32 := do
  match Task.parse words with
  | .error error =>
    if error = .help then IO.print taskHelp
    IO.eprint (usageLine error)
    return usageStatus error
  | .ok task =>
    let directory := FileTree.below [] (toString (← IO.currentDir))
    let tree ← readManifests directory
    let run := TaskRun.start (fun _ _ => true) tree directory task
    for effect in run.emitted do
      performTask effect
    match run.value with
    | .ok () => return 0
    | .error error =>
      IO.eprintln ("Error: " ++ error.message)
      return 1

end ElfScope.Program

/-- Runs the program that the first word names. -/
def main : List String → IO UInt32
  | "read-elf" :: words => ElfScope.Program.runTool .header words
  | "read-symtab" :: words => ElfScope.Program.runTool .symbols words
  | "workspace" :: words => ElfScope.Program.runTask words
  | _ => do
    IO.eprint (ElfScope.Program.toolHelp .header)
    IO.eprint (ElfScope.Program.toolHelp .symbols)
    IO.eprint ElfScope.Program.taskHelp
    return 2
