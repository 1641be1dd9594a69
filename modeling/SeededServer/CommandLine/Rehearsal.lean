import SeededServer.CommandLine.Program
import SeededServer.Yaml.Meaning

/-!
# Rehearsals

A rehearsal goes through a run with an outside in which everything succeeds, and tells what would be
asked of docker and of the server. Which files it needs is found out from the command line first,
and then from the configuration file.
-/
namespace SeededServer.CommandLine.Rehearsal

/-- An outside in which docker runs a container and publishes its port, and the server is ready. -/
def world : World where
  processes := [
    ("docker run", [{ reply := .ok (0, "rehearsal\n", "") }]),
    ("docker port", [{ reply := .ok (0, "127.0.0.1:1433\n", "") }])]
  server := { stateful := true }

/-- The configuration file that a command line asks for, given or default. -/
def configPaths (words : List String) : List String :=
  match Arguments.ofList words with
  | .ok args => [args.config.getD ConfigFile.defaultName]
  | .error _ => []

def textItems (value : Value) : List String := (value.items?.getD []).filterMap Value.text?

/-- The files that a command line asks for besides, once the configuration file is known. -/
def dataPaths (tree : FileTree) (words : List String) : List String :=
  match Arguments.ofList words with
  | .error _ => []
  | .ok args =>
    match ConfigFile.loadOrDefault Yaml.parse tree args.config with
    | .error _ => []
    | .ok settings =>
      let resolution := Resolution.resolve args settings
      resolution.logFile.text?.toList ++ match resolution.options with
        | .ok options => textItems options.queriesFiles
        | .error _ => []

def withFile (tree : FileTree) (path : String) (content : ByteArray) : FileTree :=
  tree.addFile (Path.ofString path).collapse content

def withDirectory (tree : FileTree) (path : String) : FileTree :=
  { tree with directories := tree.directories ++ [(Path.ofString path).collapse.names] }

/-- How an event is told, if it is. -/
def tell? : Event → Option String
  | .log level text => some ("[" ++ level.name ++ "] " ++ text)
  | .print text => some text
  | .command command _ => some ("$ " ++ " ".intercalate command.argv)
  | .execute database statement _ => some (database ++ "> " ++ statement)
  | _ => none

def help : String :=
  let line (parameter : Parameter) : String :=
    "  " ++ parameter.name ++ (if parameter.takesText then " TEXT" else "")
      ++ "  " ++ parameter.purpose
  "\n".intercalate <|
    ["Rehearses a disposable SQL Server container with a seeded database.", "", "Options:"]
      ++ Parameter.all.map line

/-- What the user is told when the program ends. -/
def ending : Ending → Option String
  | .exited _ => none
  | .unfinished => some "The rehearsal does not end."
  | .stopped .help => some help
  | .stopped (.usage error) => some ("Error: " ++ error.message)
  | .stopped (.refused message) => some ("Error: " ++ message)
  | .stopped (.crashed fault) => some ("Unexpected error: " ++ fault.text)

def status : Ending → Int
  | .exited status => status
  | .unfinished => 1
  | .stopped stop => stop.status

end SeededServer.CommandLine.Rehearsal
