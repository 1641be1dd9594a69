/-!
# The exact value of a double

A finite double is an integer times a power of two. `Binary.ofFloat` reads both off its bits, so
that what is said about a double can be said about exact numbers.
-/
namespace SeededServer.Number

/-- What a double stands for: `significand * 2 ^ exponent` with a sign, an infinity, or no
number. -/
inductive Binary where
  | finite (negative : Bool) (significand : Nat) (exponent : Int)
  | infinite (negative : Bool)
  | undefined
  deriving DecidableEq, Repr

namespace Binary

/-- The leading bit of a significand, which the 52 fraction bits leave out. -/
def hiddenBit : Nat := Nat.pow 2 52

/-- The parts of a double, from its 1 sign bit, 11 exponent bits and 52 fraction bits. -/
def ofFloat (x : Float) : Binary :=
  let bits : Nat := x.toBits.toNat
  let negative := bits / Nat.pow 2 63 == 1
  let field : Nat := bits / hiddenBit % Nat.pow 2 11
  let fraction : Nat := bits % hiddenBit
  if field = 2047 then
    if fraction = 0 then .infinite negative else .undefined
  else if field = 0 then .finite negative fraction (-1074)
  else .finite negative (fraction + hiddenBit) ((field : Int) - 1075)

def fraction (significand : Nat) (exponent : Int) : Nat × Nat :=
  (significand * Nat.pow 2 exponent.toNat, Nat.pow 2 (-exponent).toNat)

/-- A finite double without what is behind the point. -/
def truncate (negative : Bool) (significand : Nat) (exponent : Int) : Int :=
  let (num, den) := fraction significand exponent
  if negative then -(num / den : Nat) else (num / den : Nat)

end Binary

/-- `num / den` rounded to the nearest integer, a half to the even one. -/
def roundHalfEven (num den : Nat) : Nat :=
  let low := num / den
  let rest := num % den
  if 2 * rest < den ∨ (2 * rest = den ∧ low % 2 = 0) then low else low + 1

end SeededServer.Number
