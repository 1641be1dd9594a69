import SeededServer.Value.Basic
import SeededServer.Text.Quoted

/-!
# Values in messages

Inside a message a value is written as a literal. On its own a text stands for itself and a decimal
or a date for its digits; inside a list or a mapping everything is a literal.
-/
namespace SeededServer.Value

open Text

/-- A number with zeros in front up to the given width. -/
def padded (width n : Nat) : String :=
  let digits := Number.decimalDigits n
  String.ofList (List.replicate (width - digits.length) '0' ++ digits)

def dateText (year month day : Nat) : String :=
  padded 4 year ++ "-" ++ padded 2 month ++ "-" ++ padded 2 day

def textLiteral (s : String) : String := String.ofList (quoted s.toList)

mutual

def literal : Value → String
  | .null => "None"
  | .bool b => if b then "True" else "False"
  | .int n => Number.intText n
  | .real x => Number.floatText x
  | .decimal d => "Decimal('" ++ d.text ++ "')"
  | .text s => textLiteral s
  | .bytes bs => String.ofList (quotedBytes bs)
  | .list items => "[" ++ ", ".intercalate (literals items) ++ "]"
  | .tuple [item] => "(" ++ literal item ++ ",)"
  | .tuple items => "(" ++ ", ".intercalate (literals items) ++ ")"
  | .mapping entries => "\x7b" ++ ", ".intercalate (entryLiterals entries) ++ "\x7d"
  | .date year month day => s!"datetime.date({year}, {month}, {day})"

def literals : List Value → List String
  | [] => []
  | item :: rest => literal item :: literals rest

def entryLiterals : List (Value × Value) → List String
  | [] => []
  | (key, value) :: rest => (literal key ++ ": " ++ literal value) :: entryLiterals rest

end

mutual

/-- Whether every integer in a value is short enough to be written. -/
def isWritable : Value → Bool
  | .int n => Number.isWritable n
  | .list items => areWritable items
  | .tuple items => areWritable items
  | .mapping entries => areWritableEntries entries
  | _ => true

def areWritable : List Value → Bool
  | [] => true
  | item :: rest => isWritable item && areWritable rest

def areWritableEntries : List (Value × Value) → Bool
  | [] => true
  | (key, value) :: rest => isWritable key && isWritable value && areWritableEntries rest

end

/-- A value as a message shows it on its own. -/
def shown : Value → String
  | .text s => s
  | .decimal d => d.text
  | .date year month day => dateText year month day
  | value => literal value

end SeededServer.Value
