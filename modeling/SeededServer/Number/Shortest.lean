import SeededServer.Number.Binary

/-!
# The shortest decimal of a double

A double is written with the fewest digits that read back as the same double, and among those with
the ones nearest to it. The reals that read back form an interval around the double, whose ends
belong to it if the significand is even. On the grid of the multiples of a power of ten only the two
neighbours of the double can lie in the interval, so grids of 1, 2, … 17 digits are tried in turn.
-/
namespace SeededServer.Number

structure Scaled where
  digits : Nat
  scale : Int
  deriving DecidableEq, Repr

namespace Scaled

/-- Moves zeros at the end of the digits to the scale; at most `fuel` of them. -/
def dropZeros : (fuel : Nat) → Scaled → Scaled
  | 0, s => s
  | fuel + 1, s =>
    if s.digits ≠ 0 ∧ s.digits % 10 = 0 then dropZeros fuel ⟨s.digits / 10, s.scale + 1⟩ else s

end Scaled

/-- How many digits `num / den` has before the point; zero and less count the zeros behind it. -/
def magnitude (num den : Nat) : Int :=
  if den ≤ num then (Nat.toDigits 10 (num / den)).length
  else match (List.range 400).find? fun k => den ≤ num * Nat.pow 10 k with
    | some k => 1 - k
    | none => 0

/-- The point of the grid of multiples of `10 ^ scale` that is nearest to `m * 2 ^ q` among those
that read back as it. The double below may be nearer than the one above: `narrow` tells. -/
def gridPoint? (m : Nat) (q : Int) (narrow : Bool) (scale : Int) : Option Nat :=
  let (num, den) := Binary.fraction m q
  let top := num * Nat.pow 10 (-scale).toNat
  let bottom := den * Nat.pow 10 scale.toNat
  let unit := Nat.pow 2 q.toNat * Nat.pow 10 (-scale).toNat
  let readsBack (x : Nat) : Bool :=
    let place := 4 * bottom * x
    let lowEnd := (4 * m - (if narrow then 1 else 2)) * unit
    let highEnd := (4 * m + 2) * unit
    if m % 2 = 0 then lowEnd ≤ place && place ≤ highEnd else lowEnd < place && place < highEnd
  let below := top / bottom
  let rest := top % bottom
  let belowFirst := 2 * rest < bottom ∨ (2 * rest = bottom ∧ below % 2 = 0)
  match readsBack below, readsBack (below + 1) with
  | true, true => some (if belowFirst then below else below + 1)
  | true, false => some below
  | false, true => some (below + 1)
  | false, false => none

/-- The shortest decimal that reads back as `m * 2 ^ q`. -/
def shortest (m : Nat) (q : Int) : Scaled :=
  if m = 0 then ⟨0, 0⟩
  else
    let (num, den) := Binary.fraction m q
    let size := magnitude num den
    let narrow := m == Binary.hiddenBit && -1074 < q
    let found := (List.range 17).findSome? fun n =>
      let scale := size - (n + 1 : Nat)
      (gridPoint? m q narrow scale).map fun x => Scaled.dropZeros 20 ⟨x, scale⟩
    found.getD ⟨0, 0⟩

def decimalDigits (n : Nat) : List Char := Nat.toDigits 10 n

/-- Puts the point: positional for the decimal exponents -4 to 15, else one digit, the others behind
a point, and an exponent with a sign and at least two digits. -/
def layOut (s : Scaled) : List Char :=
  let digits := decimalDigits s.digits
  let point : Int := digits.length + s.scale
  if s.digits = 0 then ['0', '.', '0']
  else if -4 < point ∧ point ≤ 16 then
    if point ≤ 0 then '0' :: '.' :: List.replicate (-point).toNat '0' ++ digits
    else if digits.length ≤ point.toNat then
      digits ++ List.replicate (point.toNat - digits.length) '0' ++ ['.', '0']
    else digits.take point.toNat ++ '.' :: digits.drop point.toNat
  else
    let exponent := point - 1
    let mantissa := match digits with
      | first :: second :: others => first :: '.' :: second :: others
      | _ => digits
    let size := decimalDigits exponent.natAbs
    let size := if size.length < 2 then '0' :: size else size
    mantissa ++ ['e', if exponent < 0 then '-' else '+'] ++ size

def signed (negative : Bool) (cs : List Char) : List Char := if negative then '-' :: cs else cs

def floatText (x : Float) : String :=
  String.ofList <| match Binary.ofFloat x with
    | .undefined => ['n', 'a', 'n']
    | .infinite negative => signed negative ['i', 'n', 'f']
    | .finite negative m q => signed negative (layOut (shortest m q))

/-- A double with one place behind the point, rounded from its exact value, a half to the even. -/
def oneDecimal (x : Float) : String :=
  String.ofList <| match Binary.ofFloat x with
    | .undefined => ['n', 'a', 'n']
    | .infinite negative => signed negative ['i', 'n', 'f']
    | .finite negative m q =>
      let (num, den) := Binary.fraction m q
      let tenths := roundHalfEven (10 * num) den
      signed negative (decimalDigits (tenths / 10) ++ '.' :: decimalDigits (tenths % 10))

end SeededServer.Number
