import SeededServer.Container
import SeededServer.Event
import SeededServer.Text.Bracketed

/-!
# The outside world

A scripted outside: queues of process outcomes, a database server with its failures, a clock that
moves by rests and costs only, and an interrupt after a number of rests. Every step of the outside
is a function from the world before it to its reply and the world after it.
-/
namespace SeededServer

structure ProcessOutcome where
  reply : Except Fault (Int64 × String × String) := .ok (0, "", "")
  cost : Number := .int 0

/-- The failures of one kind of call: always the same one, or one entry for each call in turn. -/
inductive Failures where
  | always (fault : Fault)
  | inTurn (faults : List (Option Fault))

namespace Failures

def next : Failures → Option Fault × Failures
  | always fault => (some fault, always fault)
  | inTurn [] => (none, inTurn [])
  | inTurn (fault :: rest) => (fault, inTurn rest)

end Failures

/-- The database server as its driver shows it. -/
structure Server where
  connectFailures : Failures := .inTurn []
  cursorFailures : Failures := .inTurn []
  executeFailures : Failures := .inTurn []
  fetchFailures : Failures := .inTurn []
  closeFailures : Failures := .inTurn []
  failingDatabases : List (String × Fault) := []
  failingStatements : List (String × Fault) := []
  rows : List (Option Row) := []
  /-- The row that is fetched once the others are used up. -/
  lastRow : Option Row := some [.int 1]
  /-- The server knows its databases and refuses the others. -/
  stateful : Bool := false
  connectCost : Number := .int 0

structure World where
  /-- Outcomes of processes by the first two words of the command, or by `*`. -/
  processes : List (String × List ProcessOutcome) := []
  server : Server := {}
  databases : List String := ["master"]
  environment : Environment := []
  token : String := "0123456789abcdef"
  clock : Float := 0
  rests : Nat := 0
  /-- The rest that the user interrupts. Without it, only waiting for the user is interrupted. -/
  interruptAt : Option Nat := none
  /-- Rests that the clock of a system cannot measure are refused. -/
  strictClock : Bool := false
  /-- A record that cannot be written is a fault; otherwise it is dropped. -/
  strictLog : Bool := true
  held : Option Container := none
  /-- How many probes of one wait are followed. -/
  patience : Nat := 1000000

namespace World

/-- Takes the first entry of a queue; the last one stays. -/
def takeRepeating {α : Type} : List α → Option (α × List α)
  | [] => none
  | [a] => some (a, [a])
  | a :: rest => some (a, rest)

def advance (seconds : Number) (w : World) : World :=
  { w with clock := w.clock + match seconds with
      | .int n => Float.ofInt n
      | .real x => x }

def queueFor (w : World) (argv : List String) : String :=
  let key := " ".intercalate (argv.take 2)
  if Entries.has w.processes key then key else "*"

def runProcess (command : Command) (w : World) : Except Fault Completed × World :=
  let key := w.queueFor command.argv
  let (outcome, w) := match takeRepeating ((Entries.get? w.processes key).getD []) with
    | some (outcome, rest) => (outcome, { w with processes := Entries.put key rest w.processes })
    | none => ({}, w)
  let kept (s : String) : Option String := if command.capture then some s else none
  (outcome.reply.map fun (status, stdout, stderr) => ⟨status, kept stdout, kept stderr⟩,
    w.advance outcome.cost)

/-- Why the clock of a system refuses a rest: it counts nanoseconds in 64 bits, and it does not run
backwards. -/
def restRefusal? : Number → Option Fault
  | .int n =>
    if -9223372036854775808 ≤ n * 1000000000 ∧ n * 1000000000 < 9223372036854775808 then
      if n < 0 then some (.outside .badValue) else none
    else some (.outside .tooLarge)
  | .real x =>
    if x.isNaN then some (.outside .badValue)
    else if -9223372036854775808 ≤ x * 1e9 ∧ x * 1e9 < 9223372036854775808 then
      if x < 0 then some (.outside .badValue) else none
    else some (.outside .tooLarge)

def clockRefusal? (w : World) (seconds : Number) : Option Fault :=
  if w.strictClock then restRefusal? seconds else none

/-- Rests for some seconds. A refused rest is none, and an interrupted one takes no time. -/
def takeRest (seconds : Number) (w : World) : Option Fault × World :=
  match w.clockRefusal? seconds with
  | some fault => (some fault, w)
  | none =>
    let w := { w with rests := w.rests + 1 }
    if w.interruptAt = some w.rests then (some .interruption, w) else (none, w.advance seconds)

def unknownDatabase (database : String) : Fault :=
  .other .driver ("Cannot open database \"" ++ database ++ "\"")

def connect (login : Login) (w : World) : Option Fault × World :=
  let (scripted, left) := w.server.connectFailures.next
  let w := { w with server := { w.server with connectFailures := left } }
  let w := w.advance w.server.connectCost
  let refusal :=
    if w.server.stateful && !w.databases.contains login.database then
      some (unknownDatabase login.database)
    else none
  (scripted <|> Entries.get? w.server.failingDatabases login.database <|> refusal, w)

def openCursor (w : World) : Option Fault × World :=
  let (scripted, left) := w.server.cursorFailures.next
  (scripted, { w with server := { w.server with cursorFailures := left } })

def creationWords : List Char := "create database [".toList

def createdDatabase? (statement : String) : Option String :=
  let cs := statement.toList
  if creationWords.isPrefixOf cs then
    some (String.ofList (Text.Bracketed.undouble ((cs.drop creationWords.length).dropLast)))
  else none

def databaseExists (database : String) : Fault :=
  .other .driver ("Database '" ++ database ++ "' already exists.")

/-- Executes a statement. A stateful server takes note of the databases that are created. -/
def execute (statement : String) (w : World) : Option Fault × World :=
  let (scripted, left) := w.server.executeFailures.next
  let w := { w with server := { w.server with executeFailures := left } }
  match scripted <|> Entries.get? w.server.failingStatements statement with
  | some fault => (some fault, w)
  | none =>
    if w.server.stateful then
      match createdDatabase? statement with
      | some name =>
        if w.databases.contains name then (some (databaseExists name), w)
        else (none, { w with databases := w.databases ++ [name] })
      | none => (none, w)
    else (none, w)

def fetch (w : World) : Except Fault (Option Row) × World :=
  let (scripted, left) := w.server.fetchFailures.next
  let w := { w with server := { w.server with fetchFailures := left } }
  match scripted with
  | some fault => (.error fault, w)
  | none => match w.server.rows with
    | row :: rest => (.ok row, { w with server := { w.server with rows := rest } })
    | [] => (.ok w.server.lastRow, w)

def close (w : World) : Option Fault × World :=
  let (scripted, left) := w.server.closeFailures.next
  (scripted, { w with server := { w.server with closeFailures := left } })

end World

end SeededServer
