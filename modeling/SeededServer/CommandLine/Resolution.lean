import SeededServer.CommandLine.Arguments
import SeededServer.ConfigFile
import SeededServer.Preset.Options

/-!
# Resolution

For each setting the command line counts before the file, and the file before the default. A setting
that the file has counts also if it is null. A list from the command line takes the place of the one
in the file.
-/
namespace SeededServer.CommandLine

structure Resolution where
  verbose : Bool
  detach : Bool
  /-- The file to log to, unless the value does not count as true. -/
  logFile : Value
  /-- The options of the preset, once they have the kinds that it takes. -/
  options : Except Fault Options

namespace Resolution

/-- The value of a setting: the given one, or the one in the file, or the default. -/
def choose (given : Option Value) (settings : Settings) (key : String) (otherwise : Value) :
    Value :=
  match given with
  | some value => value
  | none => (Entries.get? settings key).getD otherwise

def switch (isSet : Bool) : Option Value := if isSet then some (.bool true) else none

/-- The list of a setting: the given items, or the list in the file, or none. A value in the file
that does not count as true is no list. -/
def chooseList (given : List String) (settings : Settings) (key : String) : Value :=
  if given.isEmpty then
    match Entries.get? settings key with
    | some value => if value.truthy then value else .list []
    | none => .list []
  else .list (given.map .text)

def noInteger (value : Value) : Fault := .other .wrongType <|
  "int() argument must be a string, a bytes-like object or a real number, not '" ++ value.kindName
    ++ "'"

/-- The integer that a value stands for: a number without what is behind the point, a text or a byte
string that is written like an integer, a truth value as one or zero. -/
def toInt : Value → Except Fault Int
  | .int n => .ok n
  | .bool b => .ok (if b then 1 else 0)
  | .real x => match Number.Binary.ofFloat x with
    | .finite negative m q => .ok (Number.Binary.truncate negative m q)
    | .infinite _ => .error (.other .tooLarge "cannot convert float infinity to integer")
    | .undefined => .error (.other .badValue "cannot convert float NaN to integer")
  | .decimal d => match d with
    | .finite negative coefficient exponent => .ok (Decimal.truncate negative coefficient exponent)
    | .infinite _ => .error (.other .tooLarge "cannot convert Infinity to integer")
    | .undefined => .error (.other .badValue "cannot convert NaN to integer")
  | .text s => (Number.readInt s.toList).mapError fun refusal =>
      .other .badValue (refusal.message (Text.quoted s.toList))
  | .bytes bs => (Number.readIntBytes bs).mapError fun refusal =>
      .other .badValue (refusal.message (Text.quotedBytes bs))
  | value => .error (noInteger value)

def toText (value : Value) : Except Fault Value := return .text (← value.display)

def textOrNull : Value → Except Fault Value
  | .null => .ok .null
  | value => toText value

/-- The options of the preset. Databases, passwords and versions are taken as texts, ports as
integers; the time to wait stays as it is. -/
def presetOptions (args : Arguments) (settings : Settings) : Except Fault Options := do
  let defaults : Options := {}
  let database ← toText (choose (args.database.map .text) settings "database" defaults.database)
  let password ← toText (choose (args.password.map .text) settings "password" defaults.password)
  let license := choose (switch args.acceptEula) settings "license" defaults.license
  let port ← toInt (choose (args.port.map .int) settings "port" defaults.port)
  let version ← textOrNull (choose (args.version.map .text) settings "version" defaults.version)
  let waitTimeout :=
    choose (args.waitTimeout.map .real) settings "wait_timeout" defaults.waitTimeout
  return {
    database
    password
    queries := chooseList args.queries settings "queries"
    queriesFiles := chooseList args.queriesFiles settings "queries_files"
    license := .bool license.truthy
    port := .int port
    version
    waitTimeout }

def resolve (args : Arguments) (settings : Settings) : Resolution where
  verbose := (choose (switch args.verbose) settings "verbose" (.bool false)).truthy
  detach := (choose (switch args.detach) settings "detach" (.bool false)).truthy
  logFile := choose (args.logFile.map .text) settings "log_file" .null
  options := presetOptions args settings

end Resolution

end SeededServer.CommandLine
