import SeededServer.Fault
import SeededServer.Text.Basic

/-!
# Addresses

An address is a host and a port number with a colon between them. The host may hold colons of its
own, and it may stand in square brackets, which do not belong to it.
-/
namespace SeededServer.Address

open Text

def malformed (address : String) : Fault :=
  .other .malformedAddress ("Address must look like host:port, got '" ++ address ++ "'")

/-- The brackets that may stand around a host. -/
def isBracket (c : Char) : Bool := c = '[' || c = ']'

/-- The host without brackets around it, and the text of the port. -/
def splitChars (cs : List Char) : Option (List Char × List Char) := do
  let (host, port) ← splitAtLast ':' cs
  if host.isEmpty || !isDigits port then none
  else some (trim isBracket host, port)

def split (address : String) : Except Fault (String × String) :=
  match splitChars address.toList with
  | some (host, port) => .ok (String.ofList host, String.ofList port)
  | none => .error (malformed address)

end SeededServer.Address
