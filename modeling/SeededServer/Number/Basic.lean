import SeededServer.Number.Shortest

/-!
# Numbers of seconds

A span of time is given as an integer or as a double. Integers have any size; doubling keeps the
kind, and comparison is exact also between the two kinds.
-/
namespace SeededServer

inductive Number where
  | int (n : Int)
  | real (x : Float)

namespace Number

/-- The nearest double to an integer, if it is not too large for one. -/
def ofInt? (n : Int) : Option Float :=
  let x := Float.ofInt n
  if x.isInf then none else some x

def toFloat? : Number → Option Float
  | .int n => ofInt? n
  | .real x => some x

/-- The text of an integer: its decimal digits, after a minus sign if it is negative. -/
def intText : Int → String
  | .ofNat n => String.ofList (decimalDigits n)
  | .negSucc n => String.ofList ('-' :: decimalDigits (n + 1))

/-- How many digits an integer may have to be read or to be written. -/
def digitLimit : Nat := 4300

/-- Whether an integer is short enough to be written. -/
def isWritable (n : Int) : Bool := (decimalDigits n.natAbs).length ≤ digitLimit

theorem isWritable_of_port {n : Int} (h : 0 < n ∧ n < 65536) : isWritable n = true := by
  obtain ⟨m, rfl⟩ := Int.eq_ofNat_of_zero_le (Int.le_of_lt h.1)
  have hfive : (Nat.toDigits 10 m).length ≤ 5 :=
    (Nat.length_toDigits_le_iff (by decide) (by decide)).2 (by omega)
  exact decide_eq_true (Nat.le_trans hfive (by decide))

def twice : Number → Number
  | .int n => .int (n * 2)
  | .real x => .real (x * 2)

def intBelow (n : Int) (m : Int) (q : Int) : Bool :=
  n * Nat.pow 2 (-q).toNat < m * Nat.pow 2 q.toNat

def intAbove (n : Int) (m : Int) (q : Int) : Bool :=
  m * Nat.pow 2 q.toNat < n * Nat.pow 2 (-q).toNat

def signedSignificand (negative : Bool) (m : Nat) : Int := if negative then -m else m

/-- Strictly less, by exact value; nothing is less or greater than what is no number. -/
def below : Number → Number → Bool
  | .int a, .int b => a < b
  | .real x, .real y => x < y
  | .int n, .real y => match Binary.ofFloat y with
    | .undefined => false
    | .infinite negative => !negative
    | .finite negative m q => intBelow n (signedSignificand negative m) q
  | .real x, .int n => match Binary.ofFloat x with
    | .undefined => false
    | .infinite negative => negative
    | .finite negative m q => intAbove n (signedSignificand negative m) q

/-- The lesser of two numbers, the first of them unless the second is strictly less. -/
def least (a b : Number) : Number := if b.below a then b else a

def notPositive : Number → Bool
  | .int n => n ≤ 0
  | .real x => x ≤ 0

end Number

/-- A port that a container has to publish. It is short enough to be written, so that docker can be
told of it. -/
structure Port where
  number : Int
  writable : Number.isWritable number = true
  deriving DecidableEq, Repr

namespace Port

instance : CoeOut Port Int := ⟨Port.number⟩

def text (port : Port) : String := Number.intText port

end Port

end SeededServer
