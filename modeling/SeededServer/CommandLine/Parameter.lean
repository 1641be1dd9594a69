import SeededServer.Fault

/-!
# Parameters of the command line

The parameters that the program knows, each written as two dashes and its name. Some take the text
that follows; the others are switches.
-/
namespace SeededServer.CommandLine

inductive Parameter where
  | database
  | password
  | query
  | queriesFile
  | acceptEula
  | port
  | version
  | waitTimeout
  | config
  | detach
  | verbose
  | logFile
  | help
  deriving DecidableEq, Repr

namespace Parameter

def all : List Parameter :=
  [database, password, query, queriesFile, acceptEula, port, version, waitTimeout, config, detach,
    verbose, logFile, help]

def name : Parameter → String
  | database => "--database"
  | password => "--password"
  | query => "--query"
  | queriesFile => "--queries-file"
  | acceptEula => "--accept-eula"
  | port => "--port"
  | version => "--version"
  | waitTimeout => "--wait-timeout"
  | config => "--config"
  | detach => "--detach"
  | verbose => "--verbose"
  | logFile => "--log-file"
  | help => "--help"

/-- The parameter that is written like this; nothing is abbreviated. -/
def ofName? (word : String) : Option Parameter := all.find? (·.name = word)

/-- The parameter takes a text; the others are switches. -/
def takesText : Parameter → Bool
  | acceptEula | detach | verbose | help => false
  | _ => true

def purpose : Parameter → String
  | database => "Database to create (default: mydb)."
  | password => "Administrator (sa) password."
  | query => "Statement to run in the new database. Repeatable, in order."
  | queriesFile => "File whose contents run as one statement, before any --query. Repeatable."
  | acceptEula => "Accept the SQL Server EULA. The image does not start without it."
  | port => "Server port inside the container (default: 1433)."
  | version => "Image tag, e.g. 2019-latest."
  | waitTimeout => "Seconds to wait for the server to become ready (default: 30)."
  | config => "YAML configuration file. Defaults to .mssqlpreset.yml if present."
  | detach => "Leave the container running and exit."
  | verbose => "Enable verbose logging."
  | logFile => "Path to log file."
  | help => "Show this message and exit."

end Parameter

inductive UsageError where
  | unknown (word : String)
  | missingText (parameter : Parameter)
  /-- A text is attached to a switch. -/
  | unwantedText (parameter : Parameter)
  | noNumber (parameter : Parameter) (text : String)
  /-- Words are left that belong to no parameter. -/
  | extraWords (words : List String)
  deriving DecidableEq, Repr

namespace UsageError

def message : UsageError → String
  | unknown word => "No such option: " ++ word
  | missingText parameter => "Option '" ++ parameter.name ++ "' requires an argument."
  | unwantedText parameter => "Option '" ++ parameter.name ++ "' does not take a value."
  | noNumber parameter text =>
    "Invalid value for '" ++ parameter.name ++ "': '" ++ text ++ "' is not a valid number."
  | extraWords words => "Got unexpected extra arguments (" ++ " ".intercalate words ++ ")"

end UsageError

/-- What ends the program before a preset is run. -/
inductive Stop where
  | help
  | usage (error : UsageError)
  /-- The configuration is not accepted; the message tells the user why. -/
  | refused (message : String)
  /-- A fault that is not meant for the user. -/
  | crashed (fault : Fault)

namespace Stop

/-- Only preset faults are meant for the user. -/
def ofFault (fault : Fault) : Stop :=
  if fault.isPreset then .refused fault.text else .crashed fault

def status : Stop → Int
  | help => 0
  | usage _ => 2
  | refused _ | crashed _ => 1

end Stop

end SeededServer.CommandLine
