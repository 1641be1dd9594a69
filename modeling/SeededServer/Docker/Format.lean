import SeededServer.Event
import SeededServer.Number.Reading
import SeededServer.Text.Basic

/-!
# What docker is told and answers

A preset passes environment variables as items of the form name=value. Docker is told the names
only; the values travel in the environment of the docker process, so that they stay out of its
arguments.

Docker lists the addresses that a container's port is bound to, one on a line. The number of the
published port is behind the last colon of the first line that ends in a colon and digits.
-/
namespace SeededServer.Docker

open Text

/-! ## Environment items -/

/-- An environment item. Its name is plain: surrogates, if there are any, are in the value. -/
structure EnvironmentItem where
  text : WideText
  named : text.isPlain = true ∨ '=' ∈ text.head.toList
  deriving DecidableEq, Repr

namespace EnvironmentItem

instance : Coe String EnvironmentItem := ⟨fun s => ⟨s, .inl rfl⟩⟩

def assign (name : String) (value : WideText) : EnvironmentItem :=
  ⟨value.prepend (name ++ "="), .inr (by simp [WideText.prepend])⟩

end EnvironmentItem

/-- The name and the value of an item: the text before and after its first equals sign. -/
def splitItem (item : EnvironmentItem) : String × WideText :=
  match splitAtFirst '=' item.text.head.toList with
  | some (name, value) => (String.ofList name, { item.text with head := String.ofList value })
  | none => (item.text.head, "")

def itemNames (items : List EnvironmentItem) : List String :=
  items.map fun item => (splitItem item).1

/-- The values by name; of two items with one name the later one counts. -/
def itemValues (items : List EnvironmentItem) : Environment :=
  Entries.ofList (items.map splitItem)

/-! ## Published ports -/

/-- The digits behind the last colon of a line, if the line ends in them. -/
def portDigits? (line : List Char) : Option (List Char) := do
  let (_, port) ← splitAtLast ':' (trim isBlank line)
  if isDigits port then some port else none

def unparsable (output : String) : Fault :=
  .plain ("Could not parse published port from docker output: " ++ Value.textLiteral output)

def unreadable (digits : List Char) (refusal : Number.Refusal) : Fault :=
  .other .badValue (refusal.message (quoted digits))

def publishedPort (output : String) : Except Fault Int :=
  match (lines output.toList).findSome? portDigits? with
  | none => .error (unparsable output)
  | some digits => (Number.readInt digits).mapError (unreadable digits)

end SeededServer.Docker
