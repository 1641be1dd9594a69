import SeededServer.Number.Decimal
import SeededServer.Number.Basic

/-!
# Entries and values

A finite map is a list of entries in the order in which their keys came first. Putting a value under
a key that is there already replaces the value and keeps the place.

Options, configuration files and rows of the server hold values of any kind; which kinds an option
accepts is decided where it is checked. A mapping is a list of entries in the order they were given.
-/
namespace SeededServer.Entries

variable {α β : Type} [DecidableEq α]

def get? (entries : List (α × β)) (key : α) : Option β :=
  (entries.find? (·.1 = key)).map (·.2)

def has (entries : List (α × β)) (key : α) : Bool := entries.any (·.1 = key)

def put (key : α) (value : β) : List (α × β) → List (α × β)
  | [] => [(key, value)]
  | entry :: rest =>
    if entry.1 = key then (key, value) :: rest else entry :: put key value rest

/-- Puts all entries in turn, so that of two with the same key the later one counts. -/
def ofList (entries : List (α × β)) : List (α × β) :=
  entries.foldl (fun done entry => put entry.1 entry.2 done) []

/-- The entries of `base`, with those of `top` laid over them. -/
def overlay (base top : List (α × β)) : List (α × β) :=
  base.filter (fun entry => !has top entry.1) ++ top

end SeededServer.Entries

namespace SeededServer

inductive Value where
  | null
  | bool (b : Bool)
  | int (n : Int)
  | real (x : Float)
  | decimal (d : Decimal)
  | text (s : String)
  | bytes (bs : List UInt8)
  | list (items : List Value)
  | tuple (items : List Value)
  | mapping (entries : List (Value × Value))
  | date (year month day : Nat)

namespace Value

instance : Inhabited Value := ⟨.null⟩

/-- Whether a value counts as true: zeros, empty collections and null do not. -/
def truthy : Value → Bool
  | .null => false
  | .bool b => b
  | .int n => n != 0
  | .real x => x != 0
  | .decimal d => d.truthy
  | .text s => !s.isEmpty
  | .bytes bs => !bs.isEmpty
  | .list items => !items.isEmpty
  | .tuple items => !items.isEmpty
  | .mapping entries => !entries.isEmpty
  | .date _ _ _ => true

/-- The items that a value runs through, if it can be run through: the characters of a text, the
numbers of a byte string, the keys of a mapping. -/
def items? : Value → Option (List Value)
  | .text s => some (s.toList.map fun c => .text (String.singleton c))
  | .bytes bs => some (bs.map fun b => .int b.toNat)
  | .list items => some items
  | .tuple items => some items
  | .mapping entries => some (entries.map (·.1))
  | _ => none

def text? : Value → Option String
  | .text s => some s
  | _ => none

/-- The number, if the value is an integer or a double; truth values are no numbers. -/
def number? : Value → Option Number
  | .int n => some (.int n)
  | .real x => some (.real x)
  | _ => none

/-- How faults call the kind of a value. -/
def kindName : Value → String
  | .null => "NoneType"
  | .bool _ => "bool"
  | .int _ => "int"
  | .real _ => "float"
  | .decimal _ => "decimal.Decimal"
  | .text _ => "str"
  | .bytes _ => "bytes"
  | .list _ => "list"
  | .tuple _ => "tuple"
  | .mapping _ => "dict"
  | .date _ _ _ => "datetime.date"

def ofNumber : Number → Value
  | .int n => .int n
  | .real x => .real x

def ofOption : Option Value → Value := (·.getD .null)

end Value

end SeededServer
