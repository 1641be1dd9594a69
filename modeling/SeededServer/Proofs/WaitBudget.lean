import SeededServer.Proofs.Backoff
import SeededServer.Proofs.EscapingFaults

/-!
# The budget of a wait

The checks of the options refuse a time to wait that is zero or less. What they let through need not
be finite: a double can be the positive infinity or no number at all, and no deadline that is made
of one of these is ever passed. So a wait for a container that never gets ready is given up if and
only if the accepted time to wait is finite.

## Main definitions

* `Exact.IsFinite` — neither an infinity nor undefined.
* `Wait.GivesUp`, `Wait.GoesOn` — what becomes of a wait without a probe that passes.
-/
namespace SeededServer

/-! ## Doubles by their bits -/

namespace Number

/-- The double that lies below all others. -/
def negativeInfinity : Float := Float.ofBits 0xFFF0000000000000

theorem eq_negativeInfinity {x : Float} (h : Binary.ofFloat x = .infinite true) :
    x = negativeInfinity := by
  have hbound := x.toBits.toNat_lt
  have hbits : x.toBits = 0xFFF0000000000000 := by
    rw [← UInt64.toNat_inj]
    unfold Binary.ofFloat Binary.hiddenBit at h
    simp at h
    grind
  exact Float.toBits_inj.1 (hbits.trans (by decide +kernel))

theorem not_negativeInfinity {seconds : Number} {x : Float}
    (hpositive : seconds.notPositive = false) (hdouble : seconds.toDouble = .ok x) :
    x ≠ negativeInfinity := by
  rintro rfl
  have hnot := notPositive_of_toFloat? hpositive (toDouble_eq_ok_iff.1 hdouble)
  have hbelow : notPositive (.real negativeInfinity) = true := by decide +kernel
  rw [hbelow] at hnot
  cases hnot

end Number

/-! ## What becomes of a wait -/

namespace Exact

variable {K : Type}

def IsFinite (a : Exact K) : Prop := ∃ x, a = .finite x

/-- A budget that is accepted is finite or without end. -/
theorem ofNumber_cases [Field K] {seconds : Number} {x : Float}
    (hpositive : seconds.notPositive = false) (hdouble : seconds.toDouble = .ok x) :
    (ofNumber (.real x) : Exact K).IsFinite ∨ (ofNumber (.real x) : Exact K) = .infinite false ∨
      (ofNumber (.real x) : Exact K) = .undefined := by
  change (ofBinary _).IsFinite ∨ ofBinary _ = _ ∨ ofBinary _ = _
  cases hx : Number.Binary.ofFloat x with
  | finite negative significand exponent => exact .inl ⟨_, rfl⟩
  | infinite negative =>
    cases negative with
    | false => exact .inr (.inl rfl)
    | true =>
      exact absurd (Number.eq_negativeInfinity hx) (Number.not_negativeInfinity hpositive hdouble)
  | undefined => exact .inr (.inr rfl)

end Exact

namespace Wait

variable {K : Type} [Field K] [LinearOrder K] (w : Wait K)

/-- No probe ever passes, and no rest is disturbed. -/
structure Hopeless : Prop where
  failing : ∀ i, ∃ fault, w.scene.probe i = .error fault ∧ fault.isPreset
  undisturbed : ∀ i, w.scene.rest i = none

/-- The wait is given up after some probe, whose fault is reported. -/
def GivesUp : Prop :=
  ∃ n fault, w.scene.probe n = .error fault ∧ ∀ patience, n < patience →
    (w.run patience).1 = .raised (Readiness.tooLate w.container w.timeout fault)

/-- However many probes are followed, the wait is not at its end after the last of them. -/
def GoesOn : Prop :=
  ∀ patience, (w.run patience).1 = .unfinished ∧ (w.run patience).2.probes = patience

variable {w}

theorem GoesOn.not_givesUp (hgoesOn : w.GoesOn) : ¬ w.GivesUp := by
  rintro ⟨n, fault, -, hrun⟩
  have hlate := hrun (n + 1) (by omega)
  rw [(hgoesOn (n + 1)).1] at hlate
  cases hlate

variable [IsStrictOrderedRing K] (h : w.Sound) (hhopeless : w.Hopeless)
include h hhopeless

theorem Hopeless.givesUp [Archimedean K]
    (hbudget : (Exact.ofNumber w.timeout : Exact K).IsFinite) : w.GivesUp := by
  obtain ⟨budget, hbudget⟩ := hbudget
  obtain ⟨n, hretried, hlast⟩ := w.exists_last h hbudget
  obtain ⟨last, outcome, hends, hrun⟩ := w.run_of_last h hretried hlast
  obtain ⟨cause, hcause, hpreset⟩ := hhopeless.failing n
  cases hends with
  | passed hprobe => cases hcause.symm.trans hprobe
  | late fault hprobe => exact ⟨n, fault, hprobe, fun patience hp => (hrun patience hp).1⟩
  | escaped fault hprobe hother =>
    cases hcause.symm.trans hprobe
    exact absurd hpreset hother
  | disturbed fault failure _ _ _ hrest => cases (hhopeless.undisturbed n).symm.trans hrest

/-- A deadline that is no finite time is never passed. -/
theorem Hopeless.goesOn
    (hbudget : Exact.ofNumber w.timeout = (Exact.infinite false : Exact K) ∨
      Exact.ofNumber w.timeout = (Exact.undefined : Exact K)) : w.GoesOn := by
  have hdeadline : w.deadline = .infinite false ∨ w.deadline = .undefined :=
    hbudget.imp (by simp [deadline, ·]) (by simp [deadline, ·, Exact.add])
  have hretried (i : Nat) : w.Retried i := by
    refine ⟨hhopeless.failing i, ?_, hhopeless.undisturbed i⟩
    rcases hdeadline with hnever | hnever <;> simp [Late, hnever]
  intro patience
  have hrounds := w.poll_rounds patience h 0 patience fun i _ => hretried i
  rw [w.run_of_poll patience h hrounds]
  exact ⟨rfl, rfl⟩

end Wait

/-- With a time to wait that the checks accept, a wait for a container that never gets ready is
given up if that time is finite, and goes on for ever otherwise. -/
theorem Options.accepted_wait_givesUp_iff {K : Type} [Field K] [LinearOrder K]
    [IsStrictOrderedRing K] [Archimedean K] {tree : FileTree} {options : Options} {config : Config}
    (hchecked : options.check tree = .ok config) {w : Wait K}
    (htimeout : w.timeout = .real config.waitTimeout) (h : w.Sound) (hhopeless : w.Hopeless) :
    (w.GivesUp ↔ (Exact.ofNumber w.timeout : Exact K).IsFinite) ∧
      (w.GoesOn ↔ ¬ (Exact.ofNumber w.timeout : Exact K).IsFinite) := by
  have hvalid : config.Valid := (options.check_answers tree).value _ hchecked
  obtain ⟨seconds, hpositive, hdouble⟩ := hvalid.waitTimeout
  have hcases := Exact.ofNumber_cases (K := K) hpositive hdouble
  rw [← htimeout] at hcases
  rcases hcases with hfinite | hinfinite
  · have hgivesUp := hhopeless.givesUp h hfinite
    exact ⟨iff_of_true hgivesUp hfinite,
      iff_of_false (fun hgoesOn => hgoesOn.not_givesUp hgivesUp) (not_not.2 hfinite)⟩
  · have hgoesOn := hhopeless.goesOn h hinfinite
    have hnot : ¬ (Exact.ofNumber w.timeout : Exact K).IsFinite := by
      rintro ⟨x, hx⟩
      rw [hx] at hinfinite
      rcases hinfinite with hfalse | hfalse <;> cases hfalse
    exact ⟨iff_of_false hgoesOn.not_givesUp hnot, iff_of_true hgoesOn hnot⟩

/-- A double that is no number. -/
def undefinedSeconds : Float := 0 / 0

/-- The usual options but for a time to wait that is no number. -/
def undefinedBudget : Options := { waitTimeout := .real undefinedSeconds }

def undefinedBudgetConfig : Config where
  database := "mydb"
  password := "Gn0m!ck~"
  queries := []
  license := false
  port := Config.serverPort
  version := none
  waitTimeout := undefinedSeconds

theorem undefinedBudget_accepted : undefinedBudget.check {} = .ok undefinedBudgetConfig := by
  have hpositive : Number.notPositive (.real undefinedSeconds) = false := by decide +kernel
  have hchecked : Options.checkWaitTimeout undefinedBudget.waitTimeout
      = .ok (.real undefinedSeconds) := by
    simp [Options.checkWaitTimeout, undefinedBudget, Value.number?, hpositive]
  unfold Options.check
  rw [hchecked]
  rfl

/-- A server that refuses every session, and a wait without a proper deadline. -/
def hopeless : Wait Rat :=
  { Wait.patient with
    scene := { Wait.patient.scene with probe := fun _ => .error (.plain "refused") }
    timeout := .real undefinedSeconds }

theorem hopeless_goes_on : hopeless.GoesOn ∧ ¬ hopeless.GivesUp := by
  have hbinary : Number.Binary.ofFloat undefinedSeconds = .undefined := by decide +kernel
  have hundefined : (Exact.ofNumber hopeless.timeout : Exact Rat) = .undefined := by
    simp [hopeless, Exact.ofNumber, hbinary, Exact.ofBinary]
  have hnot : ¬ (Exact.ofNumber hopeless.timeout : Exact Rat).IsFinite := by
    rintro ⟨x, hx⟩
    rw [hundefined] at hx
    cases hx
  have hsound : hopeless.Sound :=
    ⟨Wait.patient_sound.positive, Wait.patient_sound.capped, Wait.patient_sound.duration_nonneg⟩
  have hfailing : hopeless.Hopeless := ⟨fun _ => ⟨_, rfl, rfl⟩, fun _ => rfl⟩
  have hboth := Options.accepted_wait_givesUp_iff undefinedBudget_accepted rfl hsound hfailing
  exact ⟨hboth.2.2 hnot, fun hgivesUp => hnot (hboth.1.1 hgivesUp)⟩

end SeededServer
