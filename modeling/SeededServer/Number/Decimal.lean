import SeededServer.Number.Shortest

/-!
# Decimals

The server answers exact numeric columns with decimals, which keep the digits they were given with:
1.50 has two places. The text is positional unless the exponent is above zero or the number is
smaller than 0.000001.
-/
namespace SeededServer

/-- A decimal number: `coefficient * 10 ^ exponent` with a sign, an infinity, or no number. -/
inductive Decimal where
  | finite (negative : Bool) (coefficient : Nat) (exponent : Int)
  | infinite (negative : Bool)
  | undefined
  deriving DecidableEq, Repr

namespace Decimal

def exponentMark (exponent : Int) : List Char :=
  'E' :: (if exponent < 0 then '-' else '+') :: Number.decimalDigits exponent.natAbs

def layOut (coefficient : Nat) (exponent : Int) : List Char :=
  let digits := Number.decimalDigits coefficient
  let point : Int := digits.length + exponent
  if exponent ≤ 0 ∧ -6 < point then
    if exponent = 0 then digits
    else if point ≤ 0 then '0' :: '.' :: List.replicate (-point).toNat '0' ++ digits
    else digits.take point.toNat ++ '.' :: digits.drop point.toNat
  else
    let mantissa := match digits with
      | first :: second :: others => first :: '.' :: second :: others
      | _ => digits
    mantissa ++ (if point = 1 then [] else exponentMark (point - 1))

def text (d : Decimal) : String :=
  String.ofList <| match d with
    | .undefined => "NaN".toList
    | .infinite negative => Number.signed negative "Infinity".toList
    | .finite negative coefficient exponent =>
      Number.signed negative (layOut coefficient exponent)

/-- A finite decimal without what is behind the point. -/
def truncate (negative : Bool) (coefficient : Nat) (exponent : Int) : Int :=
  let size : Nat := coefficient * Nat.pow 10 exponent.toNat / Nat.pow 10 (-exponent).toNat
  if negative then -size else size

/-- Whether a decimal counts as true: all but the zeros do. -/
def truthy : Decimal → Bool
  | .finite _ coefficient _ => coefficient ≠ 0
  | _ => true

end Decimal

end SeededServer
