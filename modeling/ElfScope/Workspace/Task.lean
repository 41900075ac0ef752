import ElfScope.Traced
import ElfScope.Workspace.Root

/-!
# Tasks on a workspace

A task calls the package manager once or several times. Whether a call succeeds is not for the
task to say: it is given as a function of the number of calls before it and of its arguments. A call
that cannot even be started is one that fails. A failed call ends the task, and no call follows it.
-/

namespace ElfScope

/-- A call of the package manager: what it does (`subcommand`) and for which packages, whether it
builds in release mode, its further options (`flags`), and what it passes on behind `--`
(`extra`). -/
structure CargoCall where
  subcommand : String
  packages : List String
  release : Bool
  flags : List String
  extra : List String
  deriving DecidableEq, Repr

namespace CargoCall

/-- The call without options. -/
def plain (subcommand : String) : CargoCall :=
  ⟨subcommand, [], false, [], []⟩

/-- The words that name packages. -/
def packageWords (packages : List String) : List String :=
  packages.flatMap fun name => ["-p", name]

/-- What is passed on, behind its marker, if anything is. -/
def extraWords (extra : List String) : List String :=
  if extra.isEmpty then [] else "--" :: extra

/-- The arguments of a call. -/
def arguments (call : CargoCall) : List String :=
  [call.subcommand] ++ packageWords call.packages ++ (if call.release then ["--release"] else [])
    ++ call.flags ++ extraWords call.extra

end CargoCall

/-- What can be done with a workspace: it runs the tests, package by package (`test`), runs the
linter (`clippy`), formats the sources or checks that they are (`fmt`), or builds the documentation
and may open it (`doc`). -/
inductive Task where
  | test (package : Option String) (release noDefaultFeatures : Bool) (extra : List String)
  | clippy (package : Option String)
  | fmt (check : Bool)
  | doc (opens : Bool)
  deriving DecidableEq, Repr

/-- What a task does to the outside: it writes a line (`output`), or calls the package manager
(`call`). -/
inductive TaskEffect where
  | output (text : String)
  | call (arguments : List String)
  deriving DecidableEq, Repr

/-- Why a task fails: there is no workspace to work on, or a call fails. -/
inductive TaskError where
  | workspace (error : WorkspaceError)
  | call (subcommand : String)
  deriving DecidableEq, Repr

/-- What is said about a failed task. -/
def TaskError.message : TaskError → String
  | .workspace error => error.message
  | .call subcommand => "cargo " ++ subcommand ++ " failed"

/-- Whether a call succeeds, by the number of calls before it and its arguments. -/
abbrev Outcomes := Nat → List String → Bool

/-- A task under way: its effects and its outcome. -/
abbrev TaskRun := Traced TaskEffect (Except TaskError Unit)

namespace TaskRun

/-- Makes a call after `earlier` others. -/
def call (outcomes : Outcomes) (earlier : Nat) (call : CargoCall) : TaskRun := do
  Traced.emit (.call call.arguments)
  return if outcomes earlier call.arguments then .ok () else .error (.call call.subcommand)

/-- The call that tests a package. -/
def testCall (release noDefaultFeatures : Bool) (extra : List String) (package : String) :
    CargoCall where
  subcommand := "test"
  packages := [package]
  release := release
  flags := if noDefaultFeatures then ["--no-default-features"] else []
  extra := extra

/-- Tests packages one by one, after `earlier` calls. -/
def testEach (outcomes : Outcomes) (callFor : String → CargoCall) :
    Nat → List String → TaskRun
  | _, [] => return .ok ()
  | earlier, package :: rest => do
    Traced.emit (.output ("  Testing " ++ package ++ "...\n"))
    match ← call outcomes earlier (callFor package) with
    | .error error => return .error error
    | .ok () => testEach outcomes callFor (earlier + 1) rest

/-- Tests packages and announces the beginning and the happy end. -/
def test (outcomes : Outcomes) (callFor : String → CargoCall) (packages : List String) :
    TaskRun := do
  Traced.emit (.output "Running host tests...\n")
  match ← testEach outcomes callFor 0 packages with
  | .error error => return .error error
  | .ok () =>
    Traced.emit (.output "All host tests passed.\n")
    return .ok ()

/-- Carries out a task on a workspace. -/
def ofTask (outcomes : Outcomes) (workspace : Workspace) : Task → TaskRun
  | .test package release noDefaultFeatures extra =>
    test outcomes (testCall release noDefaultFeatures extra) (workspace.select package)
  | .clippy package =>
    call outcomes 0 { CargoCall.plain "clippy" with
      packages := workspace.select package
      flags := ["--all-targets"]
      extra := ["-D", "warnings"] }
  | .fmt check =>
    call outcomes 0 { CargoCall.plain "fmt" with
      flags := "--all" :: if check then ["--check"] else [] }
  | .doc opens =>
    call outcomes 0 { CargoCall.plain "doc" with
      packages := workspace.select none
      flags := "--no-deps" :: if opens then ["--open"] else [] }

/-- Finds the workspace around a directory and carries out a task on it. -/
def start (outcomes : Outcomes) (tree : FileTree) (directory : Location) (task : Task) :
    TaskRun :=
  match Workspace.load tree directory with
  | .error error => return .error (.workspace error)
  | .ok workspace => ofTask outcomes workspace task

/-- The calls among some effects. -/
def calls (effects : List TaskEffect) : List (List String) :=
  effects.filterMap fun
    | .call arguments => some arguments
    | .output _ => none

/-- What some effects write. -/
def outputText (effects : List TaskEffect) : String :=
  String.join (effects.filterMap fun
    | .output text => some text
    | .call _ => none)

end TaskRun

end ElfScope
