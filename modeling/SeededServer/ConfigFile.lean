import SeededServer.FileTree
import SeededServer.Text.Basic
import SeededServer.Yaml.Meaning

/-!
# Configuration files

A configuration file gives settings by name. It holds a mapping whose keys all have to be known, and
two of them have to hold lists; everything else about a value is decided where it is used. How a
text is read as a document is a parameter of `load`, so that what is accepted can be told apart from
how it is written.
-/
namespace SeededServer

/-- Settings by name, in the order of the file. -/
abbrev Settings := List (String × Value)

namespace ConfigFile

def listKeys : List String := ["queries", "queries_files"]

def supportedKeys : List String :=
  ["database", "password", "queries", "queries_files", "license", "port", "version", "wait_timeout",
    "detach", "verbose", "log_file"]

def defaultName : String := ".mssqlpreset.yml"

/-- The entries of a mapping by the texts of their keys, if all keys are texts. -/
def textEntries? (entries : List (Value × Value)) : Option Settings :=
  entries.mapM fun entry => entry.1.text?.map (·, entry.2)

def unknownKeys (settings : Settings) : List String :=
  ((settings.map (·.1)).filter (· ∉ supportedKeys)).mergeSort Text.comesFirst

def isList : Value → Bool
  | .list _ => true
  | _ => false

def misshapenKeys (settings : Settings) : List String :=
  listKeys.filter fun key => (Entries.get? settings key).any (!isList ·)

/-- Accepts settings with known names; unknown names are reported before a list that is none. -/
def ofEntries (settings : Settings) : Except Fault Settings :=
  match unknownKeys settings, misshapenKeys settings with
  | [], [] => .ok settings
  | [], key :: _ => .error (.plain ("Configuration key '" ++ key ++ "' must be a YAML list."))
  | unknown, _ => .error (.plain ("Unknown configuration keys: " ++ ", ".intercalate unknown))

/-- The settings that the root of a document holds; an empty document holds none. -/
def ofRoot : Value → Except Fault Settings
  | .null => .ok []
  | .mapping entries =>
    match textEntries? entries with
    | some settings => ofEntries settings
    | none => .error (.other .wrongType "a key has to be a text")
  | _ => .error (.plain "Config file must contain a YAML mapping at the root.")

def invalid (shown : String) (cause : Fault) : Fault :=
  .causedBy cause ("Invalid config file '" ++ shown ++ "': " ++ cause.text)

/-- The fault makes a file one that cannot be used: it cannot be read, or it is not well formed. -/
def isInvalidity : Fault → Bool
  | .other .markup _ => true
  | fault => fault.isSystem

def readRoot (parse : String → Except Fault Value) (tree : FileTree) (path shown : String) :
    Except Fault Value :=
  (tree.readText path >>= parse).mapError fun fault =>
    if isInvalidity fault then invalid shown fault else fault

def loadShown (parse : String → Except Fault Value) (tree : FileTree) (path shown : String) :
    Except Fault Settings := do
  if ← tree.exists? path then ofRoot (← readRoot parse tree path shown)
  else throw (.plain ("Config file not found: " ++ shown))

/-- The settings in the file at a path. Without a path there are none. -/
def load (parse : String → Except Fault Value) (tree : FileTree) (path : Option String) :
    Except Fault Settings :=
  match path with
  | none => .ok []
  | some path => if path.isEmpty then .ok [] else loadShown parse tree path path

/-- The settings in the file that is named, or else in the default one if it exists. -/
def loadOrDefault (parse : String → Except Fault Value) (tree : FileTree)
    (named : Option String) : Except Fault Settings :=
  match named with
  | some path => load parse tree (some path)
  | none => do
    if ← tree.exists? defaultName then
      loadShown parse tree defaultName (tree.workingDirectory ++ "/" ++ defaultName)
    else return []

end ConfigFile

end SeededServer
