import SeededServer.FileTree
import SeededServer.Preset.Config
import SeededServer.Value.Limits

/-!
# Options

Options hold values of any kind; checking them gives a configuration. They are checked in a fixed
order, and the first one that is refused is reported. Queries files are read in order, each as one
statement, and their statements come before the others.
-/
namespace SeededServer

/-- The options of a preset, each with the value that it has unless it is given. -/
structure Options where
  database : Value := .text "mydb"
  password : Value := .text "Gn0m!ck~"
  queries : Value := .list []
  queriesFiles : Value := .list []
  license : Value := .bool false
  port : Value := .int Config.serverPort.number
  version : Value := .null
  waitTimeout : Value := .real 30

namespace Options

/-- Gives an option by its name; there is no option of another name. -/
def set (options : Options) (name : String) (value : Value) : Except Fault Options :=
  match name with
  | "database" => .ok { options with database := value }
  | "password" => .ok { options with password := value }
  | "queries" => .ok { options with queries := value }
  | "queries_files" => .ok { options with queriesFiles := value }
  | "license" => .ok { options with license := value }
  | "port" => .ok { options with port := value }
  | "version" => .ok { options with version := value }
  | "wait_timeout" => .ok { options with waitTimeout := value }
  | _ => .error (.other .wrongType ("unexpected option " ++ name))

def ofEntries (entries : List (String × Value)) : Except Fault Options :=
  entries.foldlM (fun options entry => options.set entry.1 entry.2) {}

def notIterable : Fault := .other .wrongType "object is not iterable"

def itemsOf (value : Value) : Except Fault (List Value) :=
  match value.items? with
  | some items => .ok items
  | none => .error notIterable

def unreadable (path : String) (cause : Fault) : Fault :=
  .causedBy cause <| Advice.message .queriesFileUnreadable
    [("path", path), ("cause", cause.text)]

def readQueriesFile (tree : FileTree) (path : Value) : Except Fault String :=
  match path with
  | .text path => (tree.readText path).mapError fun fault =>
      match fault with
      | .other .undecodable _ => unreadable path fault
      | _ => if fault.isSystem then unreadable path fault else fault
  | _ => .error (.other .wrongType "a path has to be a text")

def readQueriesFiles (tree : FileTree) (paths : Value) : Except Fault (List String) := do
  (← itemsOf paths).mapM (readQueriesFile tree)

def refuse {α : Type} (option reason : String) (value : Value) : Except Fault α := do
  throw (Advice.invalidOption option (reason ++ (← value.write)))

def checkDatabase (value : Value) : Except Fault String :=
  match value with
  | .text database =>
    if Text.isBlankText database then .error (Advice.invalidOption "database" "must not be empty")
    else .ok database
  | _ => refuse "database" "expected a string, got " value

/-- The password: a text that is not empty. A refused password is not repeated. -/
def checkPassword (value : Value) : Except Fault String :=
  match value with
  | .text password =>
    if password.isEmpty then .error (Advice.invalidOption "password" "must not be empty")
    else .ok password
  | _ => .error (Advice.invalidOption "password" "expected a string")

/-- The port: an integer from 1 to 65535. -/
def checkPort (value : Value) : Except Fault Port :=
  let refused := refuse "port" "expected an integer between 1 and 65535, got " value
  match value with
  | .int number =>
    if range : 0 < number ∧ number < 65536 then .ok ⟨number, Number.isWritable_of_port range⟩
    else refused
  | _ => refused

def checkWaitTimeout (value : Value) : Except Fault Number :=
  match value.number? with
  | some seconds =>
    if seconds.notPositive then refuse "wait_timeout" "must be positive, got " value
    else .ok seconds
  | none => refuse "wait_timeout" "expected a number of seconds, got " value

/-- The image tag: a text or null; the empty text counts as none. -/
def checkVersion (value : Value) : Except Fault (Option String) :=
  match value with
  | .null => .ok none
  | .text version => .ok (if version.isEmpty then none else some version)
  | _ => refuse "version" "expected an image tag string, got " value

def checkStatement (value : Value) : Except Fault String :=
  match value with
  | .text statement => .ok statement
  | _ => refuse "queries" "statements must be strings, got " value

/-- The statements: those of the files, then the others. A single text is no list of statements. -/
def checkStatements (tree : FileTree) (queries queriesFiles : Value) :
    Except Fault (List String) := do
  if queries.text?.isSome then
    throw (Advice.invalidOption "queries" "expected a list of statements, got a single string")
  let fromFiles ← readQueriesFiles tree queriesFiles
  let others ← (← itemsOf queries).mapM checkStatement
  return fromFiles ++ others

def check (tree : FileTree) (options : Options) : Except Fault Config := do
  let database ← checkDatabase options.database
  let password ← checkPassword options.password
  let port ← checkPort options.port
  let seconds ← checkWaitTimeout options.waitTimeout
  let version ← checkVersion options.version
  let queries ← checkStatements tree options.queries options.queriesFiles
  let waitTimeout ← seconds.toDouble
  return { database, password, queries, license := options.license.truthy, port, version,
           waitTimeout }

end Options

end SeededServer
