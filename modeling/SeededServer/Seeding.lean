import SeededServer.Access
import SeededServer.Text.Bracketed

/-!
# Seeding

A fresh server is brought to the requested state once: the database is created from the master
database, and the seed statements run in it in order. The first statement that fails ends the
seeding. Nothing is rolled back, so a failure leaves the database partly seeded.
-/
namespace SeededServer.Seeding

def quotedName (name : String) : String := String.ofList (Text.Bracketed.quote name.toList)

def creation (database : String) : String := "create database " ++ quotedName database

def creationFailed (database : String) (cause : Fault) : Fault :=
  .preset (.creation database)
    (Advice.message .databaseCreationFailed [("database", database), ("cause", cause.text)])
    (some cause)

def statementFailed (index : Nat) (statement : String) (cause : Fault) : Fault :=
  .preset (.seed statement index)
    (Advice.message .seedStatementFailed
      [("index", Number.intText index), ("statement", statement), ("cause", cause.text)])
    (some cause)

def createDatabase (access : Access) (address database : String) : Run Unit := do
  let master := Access.masterDatabase
  access.withSession address master <|
    Run.mapDriverError
      (do
        Run.openCursor master
        Run.execute master (creation database))
      (creationFailed database)
  Run.log .info ("Created database " ++ database)

/-- Runs the statements in order; `index` is the position of the first of them. -/
def runFrom (database : String) (index : Nat) : List String → Run Unit
  | [] => pure ()
  | statement :: rest => do
    Run.log .debug
      ("Running seed statement #" ++ Number.intText index ++ " on " ++ database)
    Run.mapDriverError (Run.execute database statement) (statementFailed index statement)
    runFrom database (index + 1) rest

/-- Runs the seed statements in the database. -/
def runStatements (access : Access) (address database : String) (statements : List String) :
    Run Unit := do
  access.withSession address database do
    Run.openCursor database
    runFrom database 0 statements
  Run.log .info ("Applied " ++ Number.intText statements.length ++ " seed statement(s) to "
    ++ database)

def prepare (access : Access) (address database : String) (statements : List String) :
    Run Unit := do
  createDatabase access address database
  runStatements access address database statements

end SeededServer.Seeding
