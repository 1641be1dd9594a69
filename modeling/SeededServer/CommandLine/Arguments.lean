import SeededServer.CommandLine.Parameter
import SeededServer.FileTree
import SeededServer.Number.Reading

/-!
# Arguments

The words of a command line are read from left to right into parameters with their texts and words
that belong to no parameter; the first word that does not fit ends the reading. Only then are texts
converted, in the order in which their parameters came first. Of a parameter that may be given once,
the last text counts.
-/
namespace SeededServer.CommandLine

structure Words where
  /-- The parameters in order, with their texts; a switch has the empty text. -/
  given : List (Parameter × String) := []
  extra : List String := []
  deriving DecidableEq, Repr

namespace Words

def addParameter (parameter : Parameter) (text : String) (w : Words) : Words :=
  { w with given := (parameter, text) :: w.given }

def addExtra (word : String) (w : Words) : Words := { w with extra := word :: w.extra }

/-- A word that starts with a dash and goes on is the name of a parameter. -/
def isName (word : String) : Bool := word.toList.head? = some '-' && word ≠ "-"

/-- The name in a word, and the text that is attached to it behind an equals sign. -/
def splitName (word : String) : String × Option String :=
  match Text.splitAtFirst '=' word.toList with
  | some (name, text) => (String.ofList name, some (String.ofList text))
  | none => (word, none)

/-- Tells words apart. After two dashes on their own no word is the name of a parameter. -/
def ofList : List String → Except UsageError Words
  | [] => .ok {}
  | word :: rest =>
    if word = "--" then .ok { extra := rest }
    else if isName word then
      let (name, attached) := splitName word
      match Parameter.ofName? name with
      | none => .error (.unknown name)
      | some parameter =>
        if parameter.takesText then
          match attached, rest with
          | some text, rest => (ofList rest).map (addParameter parameter text)
          | none, text :: rest => (ofList rest).map (addParameter parameter text)
          | none, [] => .error (.missingText parameter)
        else if attached.isSome then .error (.unwantedText parameter)
        else (ofList rest).map (addParameter parameter "")
    else (ofList rest).map (addExtra word)

def texts (w : Words) (parameter : Parameter) : List String :=
  (w.given.filter (·.1 = parameter)).map (·.2)

/-- The given parameters, each once, in the order in which they came first. -/
def parameters (w : Words) : List Parameter := (w.given.map (·.1)).eraseDups

end Words

structure Arguments where
  database : Option String := none
  password : Option String := none
  queries : List String := []
  queriesFiles : List String := []
  acceptEula : Bool := false
  port : Option Int := none
  version : Option String := none
  waitTimeout : Option Float := none
  config : Option String := none
  detach : Bool := false
  verbose : Bool := false
  logFile : Option String := none

namespace Arguments

/-- A path; one that no path can be is a fault. -/
def toPath (text : String) : Except Stop String :=
  if Path.hasNul text then .error (.crashed FileTree.nulInPath) else .ok text

def toInt (parameter : Parameter) (text : String) : Except Stop Int :=
  match Number.readInt text.toList with
  | .ok n => .ok n
  | .error _ => .error (.usage (.noNumber parameter text))

def toFloat (parameter : Parameter) (text : String) : Except Stop Float :=
  match Number.readFloat text.toList with
  | some x => .ok x
  | none => .error (.usage (.noNumber parameter text))

def give (args : Arguments) (parameter : Parameter) (texts : List String) :
    Except Stop Arguments :=
  match parameter with
  | .database => .ok { args with database := texts.getLast? }
  | .password => .ok { args with password := texts.getLast? }
  | .query => .ok { args with queries := texts }
  | .queriesFile => return { args with queriesFiles := ← texts.mapM toPath }
  | .acceptEula => .ok { args with acceptEula := true }
  | .port => return { args with port := ← texts.getLast?.mapM (toInt .port) }
  | .version => .ok { args with version := texts.getLast? }
  | .waitTimeout => return { args with waitTimeout := ← texts.getLast?.mapM (toFloat .waitTimeout) }
  | .config => return { args with config := ← texts.getLast?.mapM toPath }
  | .detach => .ok { args with detach := true }
  | .verbose => .ok { args with verbose := true }
  | .logFile => return { args with logFile := ← texts.getLast?.mapM toPath }
  | .help => .ok args

/-- What words that are told apart say. A request for help comes before any conversion, and a word
too many after all of them. -/
def ofWords (w : Words) : Except Stop Arguments :=
  if (w.given.map (·.1)).contains .help then .error .help
  else do
    let take (args : Arguments) (parameter : Parameter) := args.give parameter (w.texts parameter)
    let args ← w.parameters.foldlM take {}
    if w.extra.isEmpty then return args else throw (.usage (.extraWords w.extra))

def ofList (words : List String) : Except Stop Arguments := do
  ofWords (← (Words.ofList words).mapError Stop.usage)

end Arguments

end SeededServer.CommandLine
