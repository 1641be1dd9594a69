import SeededServer.Value.Literal

/-!
# Faults

What may end an operation before its time. A preset fault tells the user what went wrong and what to
do about it, and keeps the fault that caused it. All others come from outside or from values that do
not fit; the runner tells them apart by their kind.
-/
namespace SeededServer

/-- What a preset fault is about. -/
inductive Failure where
  | general
  /-- A session with the database at the address cannot be established. -/
  | connection (address database : String)
  /-- The liveness query answered with this value in place of 1. -/
  | unexpectedHealth (value : Value)
  | creation (database : String)
  /-- The seed statement at this position fails; the ones before it stay applied. -/
  | seed (statement : String) (index : Nat)

inductive Fault.Kind where
  | driver
  | missingKey
  /-- An address is not of the form host:port. -/
  | malformedAddress
  | badValue
  | wrongType
  | tooLarge
  | outOfRange
  | undecodable
  | unencodable
  | missingFile
  | directory
  | notDirectory
  | permission
  | connection
  /-- Any other failure of the operating system. -/
  | system
  | timeout
  | interrupt
  /-- The markup of the configuration file or of a line of the console is not well formed. -/
  | markup
  /-- Any other failure while running. -/
  | runtime
  deriving DecidableEq, Repr

inductive Fault where
  | preset (failure : Failure) (message : String) (cause : Option Fault)
  | other (kind : Fault.Kind) (message : String)

namespace Fault

/-- Stands for the wording of the operating system, of the clock, of the decoder and of the markup
reader. -/
def outsideText : String := "<cause>"

def outside (kind : Kind) : Fault := .other kind outsideText

/-- A preset fault without further details or cause. -/
def plain (message : String) : Fault := .preset .general message none

def causedBy (cause : Fault) (message : String) : Fault := .preset .general message (some cause)

/-- The text of a fault inside a message. A missing name is shown as a literal. -/
def text : Fault → String
  | .preset _ message _ => message
  | .other .missingKey message => Value.textLiteral message
  | .other _ message => message

def interruption : Fault := .other .interrupt ""

def isPreset : Fault → Bool
  | .preset .. => true
  | .other .. => false

def isDriver : Fault → Bool
  | .other .driver _ => true
  | _ => false

def isInterrupt : Fault → Bool
  | .other .interrupt _ => true
  | _ => false

def isTimeout : Fault → Bool
  | .other .timeout _ => true
  | _ => false

def isMissingFile : Fault → Bool
  | .other .missingFile _ => true
  | _ => false

/-- The fault counts as a failure of the operating system; a failed session with a database does. -/
def isSystem : Fault → Bool
  | .preset (.connection ..) .. => true
  | .preset .. => false
  | .other kind _ =>
    kind ∈ [.missingFile, .directory, .notDirectory, .permission, .connection, .system]

end Fault

end SeededServer
