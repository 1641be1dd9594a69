import SeededServer.Fault
import SeededServer.Text.Basic

/-!
# Files

The files below a working directory. A path is walked name by name, as the operating system does it,
so the first name that does not lead on decides which fault there is. Text files are UTF-8, and
every line end in them is read as a line feed.
-/
namespace SeededServer

/-- A path as a list of names. Names that are empty or a single dot are left out. -/
structure Path where
  absolute : Bool
  names : List String
  deriving DecidableEq, Repr

inductive Node where
  | file (content : ByteArray)
  | directory

/-- Files and directories by the names that lead to them. -/
structure FileTree where
  workingDirectory : String := ""
  /-- Files by the names that lead to them from the working directory. -/
  files : List (List String × ByteArray) := []
  /-- Directories below the working directory that need not hold any file. -/
  directories : List (List String) := []
  /-- Files by the names that lead to them from the root. -/
  rootFiles : List (List String × ByteArray) := []

namespace Path

def ofString (s : String) : Path :=
  let names := (s.toList.splitOn '/').map String.ofList
  ⟨s.toList.head? = some '/', names.filter fun name => name ≠ "" ∧ name ≠ "."⟩

/-- A path without steps upwards, each of which takes away the name before it. Those that lead
above the start of a relative path stay; above the root there is nothing. -/
def collapse (path : Path) : Path :=
  let step (done : List String) (name : String) : List String :=
    if name = ".." ∧ (path.absolute ∨ done.getLast?.any (· ≠ "..")) then done.dropLast
    else done ++ [name]
  { path with names := path.names.foldl step [] }

protected def toString (path : Path) : String :=
  (if path.absolute then "/" else "") ++ "/".intercalate path.names

/-- The longest name of a file, in bytes. -/
def nameLimit : Nat := 255

/-- The longest path, in bytes. -/
def lengthLimit : Nat := 4095

def byteLength (path : Path) : Nat := path.toString.utf8ByteSize

def hasNul (s : String) : Bool := s.toList.contains '\x00'

end Path

namespace FileTree

def nulInPath : Fault := .other .badValue "embedded null byte"

def isDirectory (tree : FileTree) (names : List String) : Bool :=
  names.isEmpty || tree.directories.any (names.isPrefixOf ·)
    || tree.files.any (fun file => names.isPrefixOf file.1 && names ≠ file.1)

def missing (name : String) : Fault :=
  .outside (if Path.nameLimit < name.utf8ByteSize then .system else .missingFile)

/-- Walks on from a directory above the working directory. Only the ones further up are known. -/
def walkAbove : List String → Except Fault Node
  | [] => .ok .directory
  | name :: rest => if name = ".." then walkAbove rest else .error (missing name)

def walk (tree : FileTree) (here : List String) : List String → Except Fault Node
  | [] => .ok .directory
  | name :: rest =>
    if name = ".." then
      if here.isEmpty then walkAbove rest else walk tree here.dropLast rest
    else
      let there := here ++ [name]
      if tree.isDirectory there then walk tree there rest
      else match Entries.get? tree.files there with
        | some content =>
          if rest.isEmpty then .ok (.file content) else .error (.outside .notDirectory)
        | none => .error (missing name)

/-- What an absolute path leads to. Of directories only the root is known, and above it there is
nothing else. -/
def findAbsolute (tree : FileTree) (names : List String) : Except Fault Node :=
  match names.dropWhile (· = "..") with
  | [] => .ok .directory
  | name :: rest => match Entries.get? tree.rootFiles (name :: rest) with
    | some content => .ok (.file content)
    | none => .error (missing name)

def find (tree : FileTree) (path : Path) : Except Fault Node :=
  if Path.lengthLimit < path.byteLength then .error (.outside .system)
  else if path.absolute then findAbsolute tree path.names
  else walk tree [] path.names

/-- Whether there is something at the path; a path that cannot be looked up is a fault. -/
def exists? (tree : FileTree) (path : String) : Except Fault Bool :=
  if Path.hasNul path then .ok false
  else match tree.find (.ofString path) with
    | .ok _ => .ok true
    | .error fault =>
      match fault with
      | .other .missingFile _ | .other .notDirectory _ => .ok false
      | fault => .error fault

/-- The text of a UTF-8 file, with a line feed for every line end. -/
def decode (content : ByteArray) : Except Fault String :=
  match String.fromUTF8? content with
  | some text => .ok (String.ofList (Text.unifyNewlines text.toList))
  | none => .error (.outside .undecodable)

def readText (tree : FileTree) (path : String) : Except Fault String :=
  if Path.hasNul path then .error nulInPath
  else do
    match ← tree.find (.ofString path) with
    | .file content => decode content
    | .directory => .error (.outside .directory)

def addFile (tree : FileTree) (path : Path) (content : ByteArray) : FileTree :=
  if path.absolute then { tree with rootFiles := Entries.put path.names content tree.rootFiles }
  else { tree with files := Entries.put path.names content tree.files }

/-- Opens a file to append to it, and creates it if need be: the tree with the file in it. -/
def openToAppend (tree : FileTree) (path : String) : Except Fault FileTree :=
  if Path.hasNul path then .error nulInPath
  else
    let path := (Path.ofString path).collapse
    match tree.find path with
    | .ok (.file _) => .ok tree
    | .ok .directory => .error (.outside .directory)
    | .error fault =>
      match tree.find { path with names := path.names.dropLast } with
      | .ok .directory =>
        if fault.isMissingFile then .ok (tree.addFile path .empty) else .error fault
      | _ => .error fault

end FileTree

end SeededServer
