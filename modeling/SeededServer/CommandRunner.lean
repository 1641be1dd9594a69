import SeededServer.Run
import SeededServer.Value.Limits

/-!
# Running commands

Commands are run with uniform error handling. A command that exits with a failure or takes too long
is tried again as often as asked for, after a rest; what cannot be started at all is not tried
again.
-/
namespace SeededServer

structure Request where
  argv : List String
  check : Bool := true
  capture : Bool := false
  timeout : Option Number := none
  retries : Int := 0
  /-- The seconds of rest before the next attempt. -/
  backoff : Number := .real 0
  /-- Laid over the inherited environment, unless it is empty. -/
  environment : Environment := []

/-- Runs commands, each with a time limit unless the request has its own. -/
structure CommandRunner where
  defaultTimeout : Option Number := none

namespace Request

/-- The words of the command, separated by spaces. -/
def line (r : Request) : String := " ".intercalate r.argv

def attempts (r : Request) : Nat := (max 1 (r.retries + 1)).toNat

/-- What a failing exit is reported with: the error output counts if it is kept and not blank. -/
def failureMessage (r : Request) (result : Completed) : String :=
  let message := "Command failed (" ++ Number.intText result.status.toInt ++ "): " ++ r.line
  let stderr := if r.capture then Text.strip (result.stderr.getD "") else ""
  if stderr.isEmpty then message else message ++ "\n" ++ stderr

end Request

namespace CommandRunner

def limitText : Option Number → Except Fault String
  | none => .ok "None"
  | some seconds => seconds.display

/-- What is reported before the next attempt; the seconds of rest are written with one place. -/
def retryNotice (r : Request) (attempt : Nat) (reason : String) : Except Fault String := do
  let attempts ← Number.write r.attempts
  let seconds ← r.backoff.toDouble
  return "Attempt " ++ Number.intText attempt ++ "/" ++ attempts ++ " " ++ reason
    ++ "; retrying in " ++ Number.oneDecimal seconds ++ "s."

/-- Reports the next attempt. What comes of a report that cannot be written is up to the log. -/
def reportRetry (r : Request) (attempt : Nat) (reason : String) : Run Unit :=
  match retryNotice r attempt reason with
  | .ok notice => Run.log .warning notice
  | .error fault => do if ← Run.ask World.strictLog then Run.raise fault

def backOff (r : Request) (attempt : Nat) (reason : String) : Run Unit := do
  reportRetry r attempt reason
  Run.rest r.backoff

/-- The fault of a program that is not there. It names the first word of the command. -/
def missingProgram (r : Request) (cause : Fault) : Fault :=
  match r.argv with
  | [] => .other .outOfRange "list index out of range"
  | program :: _ => .causedBy cause <|
      "Required command not found: " ++ program ++ ". Install it and make sure it is on PATH."

inductive Trouble where
  | tooSlow (cause : Fault)
  | badExit (result : Completed)

namespace Trouble

def reason (r : Request) : Trouble → String
  | tooSlow _ => "timed out: " ++ r.line
  | badExit result => r.failureMessage result

def giveUp (r : Request) (limit : Option Number) : Trouble → Run Completed
  | tooSlow cause => Run.raise <| .showing (limitText limit) fun limit => .causedBy cause <|
      "Command timed out after " ++ limit ++ "s: " ++ r.line
  | badExit result =>
    if r.check then Run.raise (.plain (r.failureMessage result))
    else do
      Run.log .warning (r.failureMessage result)
      pure result

end Trouble

/-- What is known after an attempt: how the run ends, or why another attempt may help. -/
inductive Verdict where
  | settled (ending : Except Fault Completed)
  | unsettled (trouble : Trouble)

def judge (r : Request) : Except Fault Completed → Verdict
  | .error fault =>
    if fault.isMissingFile then .settled (.error (missingProgram r fault))
    else if fault.isTimeout then .unsettled (.tooSlow fault)
    else if fault.isSystem then
      .settled <| .error <| .causedBy fault <|
        "Failed to execute command: " ++ r.line ++ ". " ++ fault.text
    else .settled (.error fault)
  | .ok result =>
    if result.status = 0 then .settled (.ok result) else .unsettled (.badExit result)

def logOutput : Except Fault Completed → Run Unit
  | .ok { stdout := some output, .. } =>
    if output.isEmpty then pure () else Run.log .debug ("Command output: " ++ Text.strip output)
  | _ => pure ()

/-- Makes the attempts from one on; `left` counts them, and no attempt at all is a fault. -/
def attemptFrom (command : Command) (r : Request) (attempt : Nat) : (left : Nat) → Run Completed
  | 0 => Run.raise (.plain ("Command failed after retries: " ++ r.line))
  | left + 1 => do
    let reply ← Run.attempt (Run.startProcess command)
    logOutput reply
    match judge r reply with
    | .settled ending => Run.ofExcept ending
    | .unsettled trouble =>
      if left = 0 then trouble.giveUp r command.timeout
      else do
        backOff r attempt (trouble.reason r)
        attemptFrom command r (attempt + 1) left

def run (runner : CommandRunner) (r : Request) : Run Completed := do
  Run.log .debug ("Executing: " ++ r.line)
  let inherited ← Run.ask World.environment
  let environment :=
    if r.environment.isEmpty then none else some (Entries.overlay inherited r.environment)
  let timeout := r.timeout <|> runner.defaultTimeout
  let command : Command := { argv := r.argv, capture := r.capture, timeout, environment }
  attemptFrom command r 1 r.attempts

end CommandRunner

end SeededServer
