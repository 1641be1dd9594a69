import SeededServer.Yaml.Document
import SeededServer.Yaml.PlainScalar

/-!
# What a document means

A plain scalar means what it is written like; every other scalar means its text. Of a key that is
repeated in a mapping the last value counts.

Collections are filled from the root on, all of one depth before the ones below them. So of several
nodes without a value the first one of the least depth decides which fault there is.
-/
namespace SeededServer.Yaml

/-- Whether two keys of a mapping are the same. Numbers and truth values count by their value, and
what is no number is the same as itself. -/
def sameKey (a b : Value) : Bool :=
  let number : Value → Option Number
    | .bool b => some (.int (if b then 1 else 0))
    | .int n => some (.int n)
    | .real x => some (.real x)
    | _ => none
  match a, b with
  | .null, .null => true
  | .text s, .text t => s = t
  | .date y m d, .date y' m' d' => y = y' && m = m' && d = d'
  | a, b =>
    match number a, number b with
    | some (.real x), some (.real y) => x == y || (x.isNaN && y.isNaN)
    | some x, some y => match x, y with
      | .int m, .int n => m = n
      | x, y => !(x.below y) && !(y.below x) && !(isNaN x || isNaN y)
    | _, _ => false
where
  isNaN : Number → Bool
    | .real x => x.isNaN
    | .int _ => false

/-- Puts an entry into a mapping. A key that is there already keeps its place. -/
def putEntry (key value : Value) : List (Value × Value) → List (Value × Value)
  | [] => [(key, value)]
  | entry :: rest =>
    if sameKey entry.1 key then (entry.1, value) :: rest else entry :: putEntry key value rest

namespace Node

def scalarValue (plain : Bool) (text : List Char) : Except Fault Value :=
  if plain then plainValue text else .ok (.text (String.ofList text))

/-- The value of a key: the sign for a default value is a text there, and only scalars are keys. -/
def keyValue : Node → Except Fault Value
  | .scalar true ['='] => .ok (.text "=")
  | .scalar plain text => scalarValue plain text
  | _ => .error (.outside .markup)

/-! ## Faults -/

/-- The faults of nodes of some depth, and those of the ones below them by depth. -/
abbrev FaultsByDepth := List (List Fault)

/-- The faults of two neighbours, those of the first one in front at each depth. -/
def joinFaults : FaultsByDepth → FaultsByDepth → FaultsByDepth
  | [], faults => faults
  | faults, [] => faults
  | first :: below, second :: below' => (first ++ second) :: joinFaults below below'

def faultOf : Except Fault Value → FaultsByDepth
  | .ok _ => []
  | .error fault => [[fault]]

mutual

def faults : Node → FaultsByDepth
  | .scalar plain text => faultOf (scalarValue plain text)
  | .sequence items => [] :: faultsOfItems items
  | .mapping entries => [] :: faultsOfEntries entries
  | .unmergeable => [[], [.outside .markup]]
  | .foreign => faultOf (.error (.outside .markup))

def faultsOfItems : List Node → FaultsByDepth
  | [] => []
  | item :: rest => joinFaults item.faults (faultsOfItems rest)

def faultsOfEntries : List (Node × Node) → FaultsByDepth
  | [] => []
  | (key, value) :: rest =>
    joinFaults (faultOf key.keyValue) (joinFaults value.faults (faultsOfEntries rest))

end

/-! ## Values -/

mutual

/-- The value of a node that has no faults; what has no value counts as null. -/
def value : Node → Value
  | .scalar plain text => (scalarValue plain text).toOption.getD .null
  | .sequence items => .list (valuesOfItems items)
  | .mapping entries => .mapping (addEntries entries [])
  | .unmergeable => .null
  | .foreign => .null

def valuesOfItems : List Node → List Value
  | [] => []
  | item :: rest => item.value :: valuesOfItems rest

def addEntries : List (Node × Node) → List (Value × Value) → List (Value × Value)
  | [], done => done
  | (key, value) :: rest, done =>
    addEntries rest (putEntry (key.keyValue.toOption.getD .null) value.value done)

end

/-- What a node means: its value, unless there is a fault. -/
def meaning (node : Node) : Except Fault Value :=
  match node.faults.flatten with
  | fault :: _ => .error fault
  | [] => .ok node.value

end Node

/-- Reads a text as a document; an empty one means null. -/
def parse (text : String) : Except Fault Value := do
  match ← Document.rootOf (← TokenStream.ofText text.toList) with
  | none => return .null
  | some root => root.meaning

end SeededServer.Yaml
