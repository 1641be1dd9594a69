import Mathlib.Algebra.Order.Field.Basic
import Mathlib.Algebra.Order.Field.Power
import SeededServer.Readiness

/-!
# Waiting with exact times

The wait for a container knows its time through a `Timing` only. Here it is followed with exact
times: the clock holds an element of an ordered field, every probe takes the time that a `Scene`
gives it, and a rest moves the clock on by exactly its length. A number of seconds need not be
finite, so instants and spans can be infinite or undefined as well, with the rules of doubles.

## Main definitions

* `Exact` — an exact number, an infinity, or no number.
* `Scene` — what probes and rests do, and how long probes take.
* `Journal` — the clock, and the probes and rests so far.
* `Scene.await` — the wait with exact times.
-/
namespace SeededServer

/-- A number of exact value; like a double it can be infinite or undefined. -/
inductive Exact (K : Type) where
  | finite (value : K)
  | infinite (negative : Bool)
  | undefined

namespace Exact

variable {K : Type}

/-! ## Arithmetic -/

section Arithmetic

variable [Field K]

def ofBinary : Number.Binary → Exact K
  | .finite negative significand exponent =>
    .finite (Number.signedSignificand negative significand * 2 ^ exponent)
  | .infinite negative => .infinite negative
  | .undefined => .undefined

/-- What a number of seconds stands for. -/
def ofNumber : Number → Exact K
  | .int n => .finite n
  | .real x => ofBinary (Number.Binary.ofFloat x)

def add : Exact K → Exact K → Exact K
  | .finite x, .finite y => .finite (x + y)
  | .finite _, .infinite negative => .infinite negative
  | .infinite negative, .finite _ => .infinite negative
  | .infinite a, .infinite b => if a = b then .infinite a else .undefined
  | _, _ => .undefined

/-- The product with a positive factor. -/
def scale (factor : K) : Exact K → Exact K
  | .finite x => .finite (x * factor)
  | x => x

/-- Doubled some times over. -/
def doubled (times : Nat) (a : Exact K) : Exact K := a.scale (2 ^ times)

@[simp] theorem add_finite (x y : K) : (finite x).add (.finite y) = .finite (x + y) := rfl

@[simp] theorem add_infinite (x : K) (negative : Bool) :
    (finite x).add (.infinite negative) = .infinite negative := rfl

@[simp] theorem scale_finite (factor x : K) : (finite x).scale factor = .finite (x * factor) := rfl

@[simp] theorem scale_infinite (factor : K) (negative : Bool) :
    (infinite negative).scale factor = .infinite negative := rfl

@[simp] theorem doubled_zero (a : Exact K) : a.doubled 0 = a := by
  cases a <;> simp [doubled, scale]

@[simp] theorem doubled_finite (times : Nat) (x : K) :
    (finite x).doubled times = .finite (x * 2 ^ times) := rfl

@[simp] theorem doubled_infinite (times : Nat) (negative : Bool) :
    (infinite negative : Exact K).doubled times = .infinite negative := rfl

end Arithmetic

/-! ## Order -/

section Order

variable [LinearOrder K]

/-- Strictly less; nothing is less or greater than what is no number. -/
def below : Exact K → Exact K → Bool
  | .finite x, .finite y => x < y
  | .finite _, .infinite negative => !negative
  | .infinite negative, .finite _ => negative
  | .infinite a, .infinite b => a && !b
  | _, _ => false

/-- Less or equal; what is no number is not even equal to itself. -/
def AtMost (a b : Exact K) : Prop := a.below b ∨ (a = b ∧ a ≠ .undefined)

/-- The lesser of two numbers, the first of them unless the second is strictly less. -/
def least (a b : Exact K) : Exact K := if b.below a then b else a

@[simp] theorem below_finite (x y : K) : (finite x).below (.finite y) = decide (x < y) := rfl

@[simp] theorem infinite_below (b : Exact K) : (infinite false).below b = false := by
  cases b <;> rfl

@[simp] theorem undefined_below (b : Exact K) : undefined.below b = false := rfl

@[simp] theorem finite_below_infinite (x : K) : (finite x).below (.infinite false) = true := rfl

@[simp] theorem least_finite (x y : K) : (finite x).least (.finite y) = .finite (min x y) := by
  unfold least
  rw [below_finite]
  rcases lt_or_ge y x with h | h
  · rw [if_pos (by simpa using h), min_eq_right h.le]
  · rw [if_neg (by simpa using h), min_eq_left h]

@[simp] theorem least_infinite (a : Exact K) : a.least (.infinite false) = a := by
  simp [least]

theorem below_asymm {a b : Exact K} (h : a.below b = true) : b.below a = false := by
  cases a <;> cases b <;> simp_all [below, le_of_lt]

/-- The lesser of two numbers is the first if that is not above the second. -/
theorem AtMost.least_eq {a b : Exact K} (h : a.AtMost b) : a.least b = a := by
  unfold least
  rcases h with hbelow | ⟨rfl, -⟩
  · rw [if_neg (by simp [below_asymm hbelow])]
  · exact ite_self _

/-- What is not above two numbers is not above the lesser of them. -/
theorem AtMost.least {a b c : Exact K} (hb : a.AtMost b) (hc : a.AtMost c) :
    a.AtMost (b.least c) := by
  unfold Exact.least
  split
  · exact hc
  · exact hb

theorem finite_atMost_iff (x : K) (b : Exact K) :
    (finite x).AtMost b ↔ (∃ y, b = .finite y ∧ x ≤ y) ∨ b = .infinite false := by
  cases b <;> simp [AtMost, below, le_iff_lt_or_eq]

theorem infinite_atMost_iff (b : Exact K) :
    (infinite false).AtMost b ↔ b = .infinite false := by
  simp [AtMost, eq_comm]

/-- Greater than zero. -/
def Positive [Zero K] (a : Exact K) : Prop := (finite 0).below a

/-- A positive number is a finite one or the positive infinity. -/
theorem positive_iff [Zero K] (a : Exact K) :
    a.Positive ↔ (∃ x, a = .finite x ∧ 0 < x) ∨ a = .infinite false := by
  cases a <;> simp [Positive, below]

end Order

/-- Doubling a positive number does not make it less. -/
theorem finite_atMost_doubled [Field K] [LinearOrder K] [IsStrictOrderedRing K] {x : K}
    (hpos : 0 < x) (times : Nat) : (finite x).AtMost ((finite x).doubled times) :=
  (finite_atMost_iff _ _).2
    (.inl ⟨_, rfl, le_mul_of_one_le_right hpos.le (one_le_pow₀ one_le_two)⟩)

end Exact

/-! ## What is waited for -/

/-- What probes and rests do, each by its number, and how long probes take. -/
structure Scene (K : Type) where
  probe : Nat → Except Fault Unit
  duration : Nat → K
  /-- The fault that a rest ends with, if it does not go by undisturbed. -/
  rest : Nat → Option Fault

/-- A probe or a rest of a wait. -/
inductive Moment (K : Type) where
  | probe (start finish : Exact K) (result : Except Fault Unit)
  | rest (span : Exact K) (failure : Option Fault)

/-- The clock of a wait, and its probes and rests so far. -/
structure Journal (K : Type) where
  clock : Exact K
  probes : Nat := 0
  rests : Nat := 0
  moments : List (Moment K) := []

/-- A computation that is timed exactly. -/
def Timed (K : Type) (α : Type) := Journal K → Outcome α × Journal K

namespace Timed

variable {K α β : Type}

protected def bind (m : Timed K α) (f : α → Timed K β) : Timed K β := fun journal =>
  match m journal with
  | (.done a, journal) => f a journal
  | (.raised fault, journal) => (.raised fault, journal)
  | (.unfinished, journal) => (.unfinished, journal)

instance : Monad (Timed K) where
  pure a := fun journal => (.done a, journal)
  bind := Timed.bind

variable {m : Timed K α} {journal left : Journal K}

theorem pure_apply (a : α) : (pure a : Timed K α) journal = (.done a, journal) := rfl

theorem bind_done {a : α} (h : m journal = (.done a, left)) (f : α → Timed K β) :
    (m >>= f) journal = f a left := by
  change Timed.bind m f journal = _
  simp only [Timed.bind, h]

theorem bind_raised {fault : Fault} (h : m journal = (.raised fault, left)) (f : α → Timed K β) :
    (m >>= f) journal = (.raised fault, left) := by
  change Timed.bind m f journal = _
  simp only [Timed.bind, h]

theorem bind_unfinished (h : m journal = (.unfinished, left)) (f : α → Timed K β) :
    (m >>= f) journal = (.unfinished, left) := by
  change Timed.bind m f journal = _
  simp only [Timed.bind, h]

/-- Hands over a fault as a value. -/
def attempt (m : Timed K α) : Timed K (Except Fault α) := fun journal =>
  match m journal with
  | (.done a, journal) => (.done (.ok a), journal)
  | (.raised fault, journal) => (.done (.error fault), journal)
  | (.unfinished, journal) => (.unfinished, journal)

/-- What a wait with exact times tells the user is left out. -/
def outside (patience : Nat) : Readiness.Outside (Timed K) where
  print _ := pure ()
  log _ _ := pure ()
  attempt := attempt
  raise fault := fun journal => (.raised fault, journal)
  unfinished := fun journal => (.unfinished, journal)
  patience := pure patience

end Timed

namespace Scene

variable {K : Type} [Field K] [LinearOrder K] (scene : Scene K)

def takeProbe : Timed K Unit := fun journal =>
  let finish := journal.clock.add (.finite (scene.duration journal.probes))
  let result := scene.probe journal.probes
  (match result with
    | .ok () => .done ()
    | .error fault => .raised fault,
    { journal with
      clock := finish
      probes := journal.probes + 1
      moments := journal.moments ++ [.probe journal.clock finish result] })

def takeRest (span : Exact K) : Timed K Unit := fun journal =>
  let failure := scene.rest journal.rests
  (match failure with
    | none => .done ()
    | some fault => .raised fault,
    { journal with
      clock := journal.clock.add span
      rests := journal.rests + 1
      moments := journal.moments ++ [.rest span failure] })

def timing : Readiness.Timing (Timed K) (Exact K) (Exact K) where
  span := Exact.ofNumber
  after span := fun journal => (.done (journal.clock.add span), journal)
  rest := scene.takeRest
  past instant deadline := deadline.below instant
  twice := Exact.scale 2
  least := Exact.least

/-- The wait for a container with exact times, as far as `patience` probes go. -/
def await (interval ceiling : Number) (container : Container) (timeout : Number)
    (patience : Nat) : Timed K Unit :=
  (Timed.outside patience).await scene.timing interval ceiling container scene.takeProbe timeout

end Scene

end SeededServer
