import SeededServer.CommandLine.Resolution
import SeededServer.Runner

/-!
# The program

What the program does with a command line: it reads the arguments and the configuration file, sets
up the log, checks the options, and runs the preset. Everything up to the run is a function of the
words and the files; `prepare` says how far it gets. The readers of the command line and of the file
are given to it.
-/
namespace SeededServer.CommandLine

/-- How far the program gets before the run. -/
structure Preparation where
  /-- The least level that is logged, once that is decided. -/
  level : Option Level := none
  /-- The log file, once it is open. -/
  logFile : Option Path := none
  outcome : Except Stop Runner

namespace Preparation

def logLevel (verbose : Bool) : Level := if verbose then .debug else .info

/-- Opens the log file, if there is to be one: its path, and the files after that. -/
def openLog (tree : FileTree) (logFile : Value) : Except Fault (Option Path × FileTree) :=
  if logFile.truthy then
    match logFile with
    | .text path => (tree.openToAppend path).map ((some (Path.ofString path).collapse, ·))
    | _ => .error (.other .wrongType "a path has to be a text")
  else .ok (none, tree)

def runner (tree : FileTree) (resolution : Resolution) : Except Fault Runner := do
  let config ← (← resolution.options).check tree
  return { config, detach := resolution.detach }

def ofResolution (tree : FileTree) (resolution : Resolution) : Preparation :=
  let level := some (logLevel resolution.verbose)
  match openLog tree resolution.logFile with
  | .error fault => { level, outcome := .error (.crashed fault) }
  | .ok (logFile, tree) =>
    { level, logFile, outcome := (runner tree resolution).mapError .ofFault }

end Preparation

/-- Prepares the run that arguments ask for with the given settings. -/
def prepareWith (tree : FileTree) (args : Arguments) (settings : Settings) : Preparation :=
  .ofResolution tree (.resolve args settings)

section Readers

variable (read : List String → Except Stop Arguments) (parse : String → Except Fault Value)

def prepare (tree : FileTree) (words : List String) : Preparation :=
  match read words with
  | .error stop => { outcome := .error stop }
  | .ok args =>
    match ConfigFile.loadOrDefault parse tree args.config with
    | .error fault => { outcome := .error (.ofFault fault) }
    | .ok settings => prepareWith tree args settings

end Readers

inductive Ending where
  | exited (status : Int)
  | stopped (stop : Stop)
  | unfinished

structure Report where
  ending : Ending
  events : List Event

def isSeen (least : Level) : Event → Bool
  | .log level _ => least.rank ≤ level.rank
  | _ => true

namespace Report

/-- The lines of the log file: the level of each record, and its text. -/
def logLines (report : Report) : List String :=
  report.events.filterMap fun
    | .log level text => some ("[" ++ level.name ++ "] " ++ text)
    | _ => none

end Report

/-- Runs what is prepared. A fault of the run ends the program. -/
def Preparation.run (preparation : Preparation) (w : World) : Report :=
  match preparation.outcome with
  | .error stop => ⟨.stopped stop, []⟩
  | .ok runner =>
    let trace := runner.run w
    let ending := match trace.outcome with
      | .done status => Ending.exited status
      | .raised fault => .stopped (.crashed fault)
      | .unfinished => .unfinished
    ⟨ending, trace.events.filter (isSeen (preparation.level.getD .debug))⟩

def run (read : List String → Except Stop Arguments) (parse : String → Except Fault Value)
    (tree : FileTree) (words : List String) (w : World) : Report :=
  (prepare read parse tree words).run w

end SeededServer.CommandLine
