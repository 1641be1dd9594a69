import SeededServer.Fault
import SeededServer.Text.Wide

/-!
# Events

What a run exchanges with the outside, in the order in which it happens. An event of a request holds
the reply that came back, so a history can be judged on its own.
-/
namespace SeededServer

inductive Level where
  | debug
  | info
  | warning
  | error
  deriving DecidableEq, Repr

namespace Level

def name : Level → String
  | debug => "DEBUG"
  | info => "INFO"
  | warning => "WARNING"
  | error => "ERROR"

def rank : Level → Nat
  | debug => 10
  | info => 20
  | warning => 30
  | error => 40

end Level

/-- The environment of a process: values by name. -/
abbrev Environment := List (String × WideText)

structure Command where
  argv : List String
  /-- The output is kept for the program and not shown to the user. -/
  capture : Bool := false
  timeout : Option Number := none
  /-- The full environment, unless it is inherited. -/
  environment : Option Environment := none

/-- A process that ran to its end; output that is not kept is absent. -/
structure Completed where
  status : Int64
  stdout : Option String
  stderr : Option String
  deriving DecidableEq, Repr

structure Login where
  server : String
  port : String
  user : String
  password : WideText
  database : String
  timeout : Option Number
  autocommit : Bool

abbrev Row := List Value

/-- One exchange with the outside. -/
inductive Event where
  | log (level : Level) (text : String)
  | print (text : String)
  | command (command : Command) (reply : Except Fault Completed)
  | rest (seconds : Number) (failure : Option Fault)
  | connect (login : Login) (failure : Option Fault)
  | cursor (database : String) (failure : Option Fault)
  | execute (database statement : String) (failure : Option Fault)
  | fetch (database : String) (reply : Except Fault (Option Row))
  | close (database : String) (failure : Option Fault)

end SeededServer
