import SeededServer.Value.Limits

/-!
# Containers

A container that runs, and the addresses under which its published ports are reached.
-/
namespace SeededServer

structure Container where
  runId : String
  name : String
  containerId : String
  host : String
  /-- The published port numbers by port name. -/
  ports : List (String × Int)
  deriving DecidableEq, Repr

namespace Container

def defaultPort : String := "default"

def address (c : Container) (portName : String) : Except Fault String :=
  match Entries.get? c.ports portName with
  | some number => (Number.write number).map (c.host ++ ":" ++ ·)
  | none => .error <| .other .missingKey <|
      "Port '" ++ portName ++ "' is not published by container " ++ c.name

end Container

end SeededServer
