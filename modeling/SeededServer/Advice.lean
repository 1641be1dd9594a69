import SeededServer.Value.Limits

/-!
# Actionable messages

Every message of a preset says what went wrong and what to do next. The catalogue holds both as
templates: words, and slots that are filled with the text of a named argument. All slots are filled
at once, so an argument that looks like a slot stays as it is.
-/
namespace SeededServer.Advice

inductive Piece where
  | words (s : String)
  | slot (name : String)
  deriving DecidableEq, Repr

/-- The situations that the catalogue has advice for. -/
inductive Topic where
  | connectionFailed
  | unexpectedHealthcheckResult
  | databaseCreationFailed
  | seedStatementFailed
  | invalidOption
  | queriesFileUnreadable
  | notReady
  deriving DecidableEq, Repr

namespace Topic

def all : List Topic :=
  [connectionFailed, unexpectedHealthcheckResult, databaseCreationFailed, seedStatementFailed,
    invalidOption, queriesFileUnreadable, notReady]

def key : Topic → String
  | connectionFailed => "connection_failed"
  | unexpectedHealthcheckResult => "unexpected_healthcheck_result"
  | databaseCreationFailed => "database_creation_failed"
  | seedStatementFailed => "seed_statement_failed"
  | invalidOption => "invalid_option"
  | queriesFileUnreadable => "queries_file_unreadable"
  | notReady => "not_ready"

def ofKey? (key : String) : Option Topic := all.find? (·.key = key)

def what : Topic → List Piece
  | connectionFailed => [.words "Could not connect to database '", .slot "database", .words "' at ",
      .slot "address", .words ": ", .slot "cause"]
  | unexpectedHealthcheckResult => [.words "Unexpected healthcheck result: 1 != ", .slot "value"]
  | databaseCreationFailed => [.words "Can't create database '", .slot "database", .words "': ",
      .slot "cause"]
  | seedStatementFailed => [.words "Seed statement #", .slot "index", .words " failed: ",
      .slot "statement", .words " (", .slot "cause", .words ")"]
  | invalidOption => [.words "Invalid option '", .slot "option", .words "': ", .slot "reason"]
  | queriesFileUnreadable => [.words "Could not read queries file: ", .slot "path", .words " (",
      .slot "cause", .words ")"]
  | notReady => [.words "Container ", .slot "name", .words " was not ready after ", .slot "timeout",
      .words "s: ", .slot "cause"]

def next : Topic → List Piece
  | connectionFailed => [.words <| "The server may still be starting. "
      ++ "Wait for the healthcheck or check container logs."]
  | unexpectedHealthcheckResult => [.words <| "The server answered but is not healthy. "
      ++ "Inspect the container logs."]
  | databaseCreationFailed => [.words <| "Use a database name that does not exist yet "
      ++ "and run initialization only once."]
  | seedStatementFailed => [.words <| "Fix the statement. "
      ++ "Statements before it were already applied and are not rolled back."]
  | invalidOption => [.words "Check the preset options or the configuration file."]
  | queriesFileUnreadable => [.words "Check that the file exists and is readable UTF-8 text."]
  | notReady => [.words <| "Increase `--wait-timeout` and make sure the EULA is accepted "
      ++ "with `--accept-eula`."]

end Topic

def argument? (args : List (String × String)) (name : String) : Option String :=
  (args.find? (·.1 = name)).map (·.2)

/-- The template with every slot filled; a slot without an argument stays empty. -/
def fill (args : List (String × String)) (pieces : List Piece) : String :=
  String.join <| pieces.map fun
    | .words s => s
    | .slot name => (argument? args name).getD ""

/-- What went wrong and what to do next, for arguments that fill all slots. -/
def message (topic : Topic) (args : List (String × String)) : String :=
  fill args topic.what ++ " Suggested action: " ++ fill args topic.next

def slotText (args : List (String × Value)) (name : String) : Except Fault String :=
  match Entries.get? args name with
  | some value => value.display
  | none => .error (.other .missingKey name)

/-- What stands in a message for a piece of its template. -/
def pieceText (args : List (String × Value)) : Piece → Except Fault String
  | .words s => .ok s
  | .slot name => slotText args name

def expand (args : List (String × Value)) (pieces : List Piece) : Except Fault String :=
  return String.join (← pieces.mapM (pieceText args))

/-- The message for a key of the catalogue and named arguments of any kind. An unknown key and a
slot that cannot be filled are faults; `code` names the key itself and cannot be an argument. -/
def messageFor (key : String) (args : List (String × Value)) : Except Fault String :=
  if args.any (·.1 = "code") then .error (.other .wrongType "")
  else match Topic.ofKey? key with
    | none => .error (.other .missingKey ("Unknown error catalog key: " ++ key))
    | some topic =>
      return (← expand args topic.what) ++ " Suggested action: " ++ (← expand args topic.next)

def invalidOption (option reason : String) : Fault :=
  .plain (message .invalidOption [("option", option), ("reason", reason)])

/-- The fault of a session that cannot be established. -/
def connectionFailed (address database : String) (cause : Fault) : Fault :=
  .preset (.connection address database)
    (message .connectionFailed
      [("database", database), ("address", address), ("cause", cause.text)])
    (some cause)

end SeededServer.Advice
