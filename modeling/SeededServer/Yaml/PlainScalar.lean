import SeededServer.Number.Reading
import SeededServer.Text.Percent
import SeededServer.Value.Limits

/-!
# What a plain scalar means

A plain scalar means null, a truth value, an integer, a double or a date if it is written like one,
and else its text. Integers may be binary, octal, hexadecimal or base 60, doubles may be base 60,
and underscores between digits are left out.
-/
namespace SeededServer.Yaml

open Number (splitSign ofDigits ofScaled readInt readFloat)

def dropUnderscores (cs : List Char) : List Char := cs.filter (· ≠ '_')

/-- Digits of a class and underscores, of which the first is a digit of the class. -/
def isRow (digit : Char → Bool) (cs : List Char) : Bool :=
  cs.head?.any digit && cs.all fun c => digit c || c = '_'

def isLooseRow (digit : Char → Bool) (cs : List Char) : Bool :=
  !cs.isEmpty && cs.all fun c => digit c || c = '_'

/-- A part of a base 60 number behind a colon: one digit, or two of which the first is below 6. -/
def isSixtieth (cs : List Char) : Bool :=
  match cs with
  | [d] => d.isDigit
  | [t, d] => t.isDigit && t < '6' && d.isDigit
  | _ => false

def numberIn (base : Nat) (cs : List Char) : Nat :=
  cs.foldl (fun n c => n * base + (Text.Percent.hexValue? c).getD 0) 0

/-- The fault of a scalar that is written like a number or a date, but is none. -/
def noValue : Fault := .other .badValue "invalid value"

def withSign (negative : Bool) (n : Nat) : Value := .int (if negative then -n else n)

/-- A binary, octal or hexadecimal integer; there has to be a digit besides underscores. -/
def inBase (negative : Bool) (base : Nat) (cs : List Char) : Except Fault Value :=
  let digits := dropUnderscores cs
  if digits.isEmpty then .error noValue else .ok (withSign negative (numberIn base digits))

def inTen (negative : Bool) (cs : List Char) : Except Fault Nat :=
  match readInt (dropUnderscores cs) with
  | .ok n => .ok n.natAbs
  | .error _ => .error (.other .badValue (if negative then "negative" else "too long"))

/-- The integer that a plain scalar without its sign is written like. -/
def integer? (negative : Bool) (cs : List Char) : Option (Except Fault Value) :=
  let parts := cs.splitOn ':'
  match cs, parts with
  | '0' :: 'b' :: rest, _ =>
    if isLooseRow (fun c => c = '0' || c = '1') rest then some (inBase negative 2 rest) else none
  | '0' :: 'x' :: rest, _ =>
    if isLooseRow (fun c => (Text.Percent.hexValue? c).isSome) rest then
      some (inBase negative 16 rest)
    else none
  | ['0'], _ => some (.ok (.int 0))
  | '0' :: rest, _ =>
    if isLooseRow (fun c => '0' ≤ c && c ≤ '7') rest then
      some (.ok (withSign negative (numberIn 8 (dropUnderscores rest))))
    else none
  | _, [whole] =>
    if isRow Char.isDigit whole then some ((inTen negative whole).map (withSign negative)) else none
  | _, whole :: others =>
    if isRow Char.isDigit whole && others.all isSixtieth then
      some <| (inTen negative whole).map fun n =>
        withSign negative (others.foldl (fun n part => n * 60 + ofDigits 10 part) n)
    else none
  | _, [] => none

/-- The decimal point of a double and what is behind it: digits and underscores. -/
def splitPoint (cs : List Char) : Option (List Char × List Char) :=
  match cs.dropWhile (· ≠ '.') with
  | '.' :: rest => some (cs.takeWhile (· ≠ '.'), rest)
  | _ => none

def isExponent : List Char → Bool
  | [] => true
  | e :: sign :: digits =>
    (e = 'e' || e = 'E') && (sign = '+' || sign = '-') && !digits.isEmpty && digits.all Char.isDigit
  | _ => false

def doubleOf (cs : List Char) : Float := (readFloat (dropUnderscores cs)).getD 0

/-- A base 60 number with places behind its last part. The parts are added up from the last one,
each times a power of 60, which has to have a double. -/
def sixtieths (parts : List (List Char)) : Except Fault Float := do
  let add (sum : Float × Nat) (part : List Char) : Except Fault (Float × Nat) := do
    let power ← (Number.int sum.2).toDouble
    return (sum.1 + doubleOf part * power, sum.2 * 60)
  let (sum, _) ← parts.reverse.foldlM add (0, 1)
  return sum

/-- The double that a plain scalar without its sign is written like. -/
def double? (signGiven : Bool) (cs : List Char) : Option (Except Fault Float) :=
  if cs ∈ [".inf".toList, ".Inf".toList, ".INF".toList] then some (.ok (1.0 / 0.0))
  else if !signGiven && cs ∈ [".nan".toList, ".NaN".toList, ".NAN".toList] then
    some (.ok (0.0 / 0.0))
  else
    match splitPoint cs with
    | none => none
    | some (whole, behind) =>
      let row := behind.takeWhile fun c => c.isDigit || c = '_'
      let exponent := behind.dropWhile fun c => c.isDigit || c = '_'
      if whole.isEmpty then
        if !signGiven && isRow Char.isDigit row && isExponent exponent then some (.ok (doubleOf cs))
        else none
      else match whole.splitOn ':' with
        | [whole] =>
          if isRow Char.isDigit whole && isExponent exponent then some (.ok (doubleOf cs)) else none
        | first :: others =>
          if isRow Char.isDigit first && others.all isSixtieth && exponent.isEmpty then
            some (sixtieths (cs.splitOn ':'))
          else none
        | [] => none

def daysIn (year month : Nat) : Nat :=
  if month = 2 then
    if year % 4 = 0 ∧ (year % 100 ≠ 0 ∨ year % 400 = 0) then 29 else 28
  else if month ∈ [4, 6, 9, 11] then 30
  else 31

/-- The date that a plain scalar is written like: four, two and two digits. -/
def date? (cs : List Char) : Option (Except Fault Value) :=
  match cs.splitOn '-' with
  | [year, month, day] =>
    if year.length = 4 ∧ month.length = 2 ∧ day.length = 2
        ∧ (year ++ month ++ day).all Char.isDigit then
      let y := ofDigits 10 year
      let m := ofDigits 10 month
      let d := ofDigits 10 day
      if 1 ≤ y ∧ 1 ≤ m ∧ m ≤ 12 ∧ 1 ≤ d ∧ d ≤ daysIn y m then some (.ok (.date y m d))
      else some (.error noValue)
    else none
  | _ => none

/-- The words that mean a truth value, in lower case, capitalised or in upper case. -/
def truth? (s : String) : Option Bool :=
  if s ∈ ["yes", "Yes", "YES", "true", "True", "TRUE", "on", "On", "ON"] then some true
  else if s ∈ ["no", "No", "NO", "false", "False", "FALSE", "off", "Off", "OFF"] then some false
  else none

/-- What a plain scalar means. Alone, the signs for a default value and for merging mean nothing. -/
def plainValue (cs : List Char) : Except Fault Value :=
  let s := String.ofList cs
  let (negative, body) := splitSign cs
  let signGiven := body.length ≠ cs.length
  if s ∈ ["", "~", "null", "Null", "NULL"] then .ok .null
  else if s = "=" ∨ s = "<<" then .error (.outside .markup)
  else match truth? s, double? signGiven body, integer? negative body, date? cs with
    | some b, _, _, _ => .ok (.bool b)
    | _, some result, _, _ => result.map fun x => .real (if negative then -x else x)
    | _, _, some result, _ => result
    | _, _, _, some result => result
    | _, _, _, none => .ok (.text s)

end SeededServer.Yaml
