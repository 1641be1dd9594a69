import SeededServer.Number.Basic
import SeededServer.Text.Basic
import SeededServer.Text.Quoted

/-!
# Reading numbers

How a number in a text is read: blanks around it are skipped, decimal digits of every script count,
and one underscore may stand between two digits. An integer of more than 4300 digits is refused, and
that is noticed before what may follow its digits.
-/
namespace SeededServer.Number

open Text

/-- Replaces the decimal digits of every script by their ASCII ones and other blanks by spaces. -/
def normalize (cs : List Char) : List Char :=
  cs.map fun c =>
    if c.toNat < 127 then c
    else if isBlank c then ' '
    else match decimalValue? c with
      | some d => Nat.digitChar d
      | none => c

def isPadding (c : Char) : Bool := c ∈ [' ', '\t', '\n', '\x0b', '\x0c', '\r']

/-- Drops the underscores, each of which has to stand between two digits. -/
def dropUnderscores : (afterDigit : Bool) → List Char → Option (List Char)
  | _, [] => some []
  | afterDigit, '_' :: rest =>
    match rest with
    | c :: _ => if afterDigit && c.isDigit then dropUnderscores false rest else none
    | [] => none
  | _, c :: rest => (dropUnderscores c.isDigit rest).map (c :: ·)

def ofDigits (base : Nat) (cs : List Char) : Nat :=
  cs.foldl (fun n c => n * base + (c.toNat - '0'.toNat)) 0

def splitSign : List Char → Bool × List Char
  | '-' :: rest => (true, rest)
  | '+' :: rest => (false, rest)
  | cs => (false, cs)

inductive Refusal where
  | malformed
  | tooLong (digits : Nat)
  deriving DecidableEq, Repr

/-- The integer in a text. Its digits are counted before the text has to end behind them. -/
def readInt (cs : List Char) : Except Refusal Int :=
  let (negative, body) := splitSign (trim isPadding (normalize cs))
  let row := body.takeWhile fun c => c.isDigit || c = '_'
  match dropUnderscores false row with
  | none => .error .malformed
  | some digits =>
    if digitLimit < digits.length then .error (.tooLong digits.length)
    else if digits.isEmpty || row.length < body.length then .error .malformed
    else
      let n : Nat := ofDigits 10 digits
      .ok (if negative then -n else n)

/-- The integer in a byte string, of which only ASCII counts. -/
def readIntBytes (bs : List UInt8) : Except Refusal Int :=
  readInt (bs.map fun b => if b < 127 then Char.ofNat b.toNat else '?')

/-- What a refused integer is answered with, if it was written as this literal. -/
def Refusal.message (literal : List Char) : Refusal → String
  | .malformed => "invalid literal for int() with base 10: " ++ String.ofList (literal.take 200)
  | .tooLong digits =>
    s!"Exceeds the limit (4300 digits) for integer string conversion: value has {digits} digits; "
      ++ "use sys.set_int_max_str_digits() to increase the limit"

/-- The double nearest to `digits * 10 ^ exponent`; far outside the range of doubles the result is
known without computing the power. -/
def ofScaled (digits : List Char) (exponent : Int) : Float :=
  let digits := digits.dropWhile (· == '0')
  let top : Int := digits.length + exponent
  if digits.isEmpty ∨ top < -400 then 0
  else if 400 < top then Float.ofScientific 1 false 400
  else Float.ofScientific (ofDigits 10 digits) (exponent < 0) exponent.natAbs

def readExponent : List Char → Option Int
  | [] => some 0
  | c :: rest =>
    if c = 'e' ∨ c = 'E' then
      let (negative, digits) := splitSign rest
      if digits.isEmpty || !digits.all Char.isDigit then none
      else
        let n : Nat := ofDigits 10 digits
        some (if negative then -n else n)
    else none

/-- Digits, a point, digits and an exponent, with a digit before or behind the point. -/
def readMagnitude (cs : List Char) : Option Float :=
  let whole := cs.takeWhile Char.isDigit
  let rest := cs.dropWhile Char.isDigit
  let (places, rest) := match rest with
    | '.' :: rest => (rest.takeWhile Char.isDigit, rest.dropWhile Char.isDigit)
    | _ => ([], rest)
  if whole.isEmpty && places.isEmpty then none
  else (readExponent rest).map fun exponent => ofScaled (whole ++ places) (exponent - places.length)

/-- The double in a text; infinities and what is no number are spelled out. -/
def readFloat (cs : List Char) : Option Float :=
  let (negative, body) := splitSign (trim isPadding (normalize cs))
  let name := String.ofList (body.map Char.toLower)
  let magnitude :=
    if name = "inf" ∨ name = "infinity" then some (1.0 / 0.0)
    else if name = "nan" then some (0.0 / 0.0)
    else (dropUnderscores false body).bind readMagnitude
  magnitude.map fun x => if negative then -x else x

end SeededServer.Number
