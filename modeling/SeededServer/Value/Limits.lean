import SeededServer.Fault

/-!
# Limits of numbers

Integers have any size, but not each of them can be turned into something else: it may be too large
for a double, or have more digits than are written.
-/
namespace SeededServer

namespace Number

def tooLarge : Fault := .other .tooLarge "int too large to convert to float"

def toDouble (number : Number) : Except Fault Float :=
  match number.toFloat? with
  | some x => .ok x
  | none => .error tooLarge

def tooLong : Fault := .other .badValue <|
  "Exceeds the limit (4300 digits) for integer string conversion; "
    ++ "use sys.set_int_max_str_digits() to increase the limit"

def write (n : Int) : Except Fault String :=
  if isWritable n then .ok (intText n) else .error tooLong

/-- Writes a number as a message shows it. -/
def display : Number → Except Fault String
  | .int n => write n
  | .real x => .ok (floatText x)

end Number

namespace Value

def write (value : Value) : Except Fault String :=
  if value.isWritable then .ok value.literal else .error Number.tooLong

/-- Writes a value as a message shows it on its own. -/
def display (value : Value) : Except Fault String :=
  if value.isWritable then .ok value.shown else .error Number.tooLong

end Value

/-- A fault that shows something. If that cannot be written, this is the fault instead. -/
def Fault.showing (written : Except Fault String) (fault : String → Fault) : Fault :=
  match written with
  | .ok text => fault text
  | .error unwritable => unwritable

end SeededServer
