import Mathlib.Algebra.Order.Archimedean.Basic
import Mathlib.Tactic.Linarith
import Mathlib.Tactic.NormNum
import Mathlib.Tactic.Ring
import SeededServer.Proofs.ExactTime

/-!
# The schedule of a wait

With exact times a wait is a number of full rounds, each a failed probe and the rest after it, and
one last round that is cut short. The rests double up to the ceiling, and no rest ends past the
deadline. Every rest is at least as long as some fixed positive time, so with a finite budget there
is a last round.

## Main definitions

* `Wait` — all that a wait with exact times depends on.
* `Wait.Retried` — a round that is followed by another probe.
* `Wait.Ends` — how the last round ends.
* `Wait.Course` — the course of a whole wait.
-/
namespace SeededServer

/-- A wait with exact times. -/
structure Wait (K : Type) where
  scene : Scene K
  start : K
  interval : Number
  ceiling : Number
  container : Container
  timeout : Number

namespace Wait

variable {K : Type} [Field K] [LinearOrder K] (w : Wait K)

/-- The length of a rest: the first interval, doubled once for each rest before, up to the
ceiling. -/
def span (i : Nat) : Exact K :=
  ((Exact.ofNumber w.interval).doubled i).least (.ofNumber w.ceiling)

def deadline : Exact K := (Exact.finite w.start).add (.ofNumber w.timeout)

/-- When a probe starts, if all probes before it are followed by a rest. -/
def startOf : Nat → Exact K
  | 0 => .finite w.start
  | i + 1 => ((startOf i).add (.finite (w.scene.duration i))).add (w.span i)

/-- When a probe ends. -/
def finishOf (i : Nat) : Exact K := (w.startOf i).add (.finite (w.scene.duration i))

def probed (i : Nat) : Moment K := .probe (w.startOf i) (w.finishOf i) (w.scene.probe i)

/-- A full round. -/
def round (i : Nat) : List (Moment K) := [w.probed i, .rest (w.span i) none]

/-- The next rest would end past the deadline. -/
def Late (i : Nat) : Prop := w.deadline.below ((w.finishOf i).add (w.span i))

/-- A probe that is followed by a rest and by another probe. -/
structure Retried (i : Nat) : Prop where
  failed : ∃ fault, w.scene.probe i = .error fault ∧ fault.isPreset
  inTime : ¬ w.Late i
  undisturbed : w.scene.rest i = none

/-- How the last round ends, and what happens in it. -/
inductive Ends (n : Nat) : List (Moment K) → Outcome Unit → Prop
  | passed : w.scene.probe n = .ok () → Ends n [w.probed n] (.done ())
  | late (fault : Fault) : w.scene.probe n = .error fault → fault.isPreset → w.Late n →
      Ends n [w.probed n] (.raised (Readiness.tooLate w.container w.timeout fault))
  | escaped (fault : Fault) : w.scene.probe n = .error fault → ¬ fault.isPreset →
      Ends n [w.probed n] (.raised fault)
  | disturbed (fault failure : Fault) : w.scene.probe n = .error fault → fault.isPreset →
      ¬ w.Late n → w.scene.rest n = some failure →
      Ends n [w.probed n, .rest (w.span n) (some failure)] (.raised failure)

/-- The course of a wait that ends with the probe of the given number. -/
structure Course (n : Nat) (moments : List (Moment K)) (outcome : Outcome Unit) : Prop where
  retried : ∀ i < n, w.Retried i
  punctual : ∀ i < n, (w.startOf (i + 1)).AtMost w.deadline
  ends : ∃ last, moments = (List.range n).flatMap w.round ++ last ∧ w.Ends n last outcome

/-- The wait, as far as `patience` probes go. -/
def run (patience : Nat) : Outcome Unit × Journal K :=
  w.scene.await w.interval w.ceiling w.container w.timeout patience { clock := .finite w.start }

/-- The assumptions about a wait: rests do not shrink, and no probe takes less than no time. -/
structure Sound : Prop where
  positive : (Exact.ofNumber w.interval : Exact K).Positive
  capped : (Exact.ofNumber w.interval : Exact K).AtMost (.ofNumber w.ceiling)
  duration_nonneg : ∀ i, 0 ≤ w.scene.duration i

/-! ## The rests -/

namespace Sound

variable {w} (h : w.Sound)
include h

/-- The first interval is finite or so is neither of the two. -/
theorem shapes :
    (∃ p m : K, .ofNumber w.interval = Exact.finite p ∧ .ofNumber w.ceiling = Exact.finite m ∧
      0 < p ∧ p ≤ m) ∨
    (∃ p : K, .ofNumber w.interval = Exact.finite p ∧
      .ofNumber w.ceiling = (Exact.infinite false : Exact K) ∧ 0 < p) ∨
    (.ofNumber w.interval = (Exact.infinite false : Exact K) ∧
      .ofNumber w.ceiling = (Exact.infinite false : Exact K)) := by
  have hcap := h.capped
  rcases (Exact.positive_iff _).1 h.positive with ⟨p, hp, hpos⟩ | hp
  · rw [hp, Exact.finite_atMost_iff] at hcap
    rcases hcap with ⟨m, hm, hle⟩ | hm
    · exact .inl ⟨p, m, hp, hm, hpos, hle⟩
    · exact .inr (.inl ⟨p, hp, hm, hpos⟩)
  · rw [hp, Exact.infinite_atMost_iff] at hcap
    exact .inr (.inr ⟨hp, hcap⟩)

theorem span_zero : w.span 0 = .ofNumber w.interval := by
  rw [span, Exact.doubled_zero, h.capped.least_eq]

variable [IsStrictOrderedRing K]

/-- The next rest is twice as long, up to the ceiling. -/
theorem span_succ (i : Nat) :
    ((w.span i).scale 2).least (.ofNumber w.ceiling) = w.span (i + 1) := by
  rcases h.shapes with ⟨p, m, hp, hm, hpos, hle⟩ | ⟨p, hp, hm, _⟩ | ⟨hp, hm⟩
  · have hdouble : m ≤ m * 2 := by linarith
    simp only [span, hp, hm, Exact.doubled_finite, Exact.scale_finite, Exact.least_finite]
    rw [min_mul_of_nonneg _ _ (zero_le_two (α := K)), min_assoc, min_eq_right hdouble, pow_succ,
      mul_assoc]
  · simp [span, hp, hm, pow_succ, mul_assoc]
  · simp [span, hp, hm]

/-- All rests take at least some fixed time. -/
theorem exists_bound : ∃ x : K, 0 < x ∧ ∀ i, (Exact.finite x).AtMost (w.span i) := by
  have hcap := h.capped
  rcases (Exact.positive_iff _).1 h.positive with ⟨p, hp, hpos⟩ | hp
  · refine ⟨p, hpos, fun i => ?_⟩
    rw [hp] at hcap
    rw [span, hp]
    exact (Exact.finite_atMost_doubled hpos i).least hcap
  · refine ⟨1, one_pos, fun i => ?_⟩
    rw [hp, Exact.infinite_atMost_iff] at hcap
    exact (Exact.finite_atMost_iff _ _).2 (.inr (by simp [span, hp, hcap]))

end Sound

/-! ## The clock -/

section Clock

variable {w} {budget : K}

omit [LinearOrder K] in
theorem deadline_eq (hbudget : .ofNumber w.timeout = Exact.finite budget) :
    w.deadline = .finite (w.start + budget) := by
  simp [deadline, hbudget]

variable [IsStrictOrderedRing K] (h : w.Sound)
  (hbudget : .ofNumber w.timeout = Exact.finite budget)
include h hbudget

/-- While the wait goes on every round takes its rest at least and ends before the deadline. -/
theorem startOf_bounds {x : K} (hx : ∀ i, (Exact.finite x).AtMost (w.span i)) (n : Nat)
    (hretried : ∀ i < n, w.Retried i) :
    ∃ t, w.startOf n = .finite t ∧ w.start + n * x ≤ t ∧ (0 < n → t ≤ w.start + budget) := by
  induction n with
  | zero => exact ⟨w.start, rfl, by simp, by simp⟩
  | succ n ih =>
    obtain ⟨t, ht, hlower, -⟩ := ih fun i hi => hretried i (by omega)
    have hintime := (hretried n (by omega)).inTime
    rw [Late, deadline_eq hbudget, finishOf, ht] at hintime
    have hnonneg := h.duration_nonneg n
    rcases (Exact.finite_atMost_iff _ _).1 (hx n) with ⟨s, hs, hle⟩ | hs
    · have hend : ¬ w.start + budget < t + w.scene.duration n + s := by simpa [hs] using hintime
      refine ⟨t + w.scene.duration n + s, by simp [startOf, ht, hs], ?_, fun _ => not_lt.1 hend⟩
      push_cast
      linarith
    · simp [hs] at hintime

theorem startOf_atMost (n : Nat) (hretried : ∀ i < n + 1, w.Retried i) :
    (w.startOf (n + 1)).AtMost w.deadline := by
  obtain ⟨x, -, hx⟩ := h.exists_bound
  obtain ⟨t, ht, -, hupper⟩ := startOf_bounds h hbudget hx (n + 1) hretried
  rw [ht, deadline_eq hbudget]
  exact (Exact.finite_atMost_iff _ _).2 (.inl ⟨_, rfl, hupper (by omega)⟩)

/-- A finite budget is used up at some time, since every rest takes a fixed part of it. -/
theorem exists_not_retried [Archimedean K] : ∃ n, ¬ w.Retried n := by
  by_contra hall
  push Not at hall
  obtain ⟨x, hpos, hx⟩ := h.exists_bound
  obtain ⟨n, hn⟩ := Archimedean.arch (budget + x) hpos
  obtain ⟨t, -, hlower, hupper⟩ := startOf_bounds h hbudget hx (n + 1) fun i _ => hall i
  have ht := hupper (by omega)
  rw [nsmul_eq_mul] at hn
  push_cast at hlower
  linarith

end Clock

/-! ## One round -/

/-- What is known before a probe. -/
def stateAt (i : Nat) : Journal K :=
  { clock := w.startOf i, probes := i, rests := i, moments := (List.range i).flatMap w.round }

/-- What is known after a probe. -/
def probedAt (i : Nat) : Journal K :=
  { clock := w.finishOf i, probes := i + 1, rests := i
    moments := (List.range i).flatMap w.round ++ [w.probed i] }

/-- What is known after a rest, however it goes by. -/
def restedAt (i : Nat) : Journal K :=
  { clock := w.startOf (i + 1), probes := i + 1, rests := i + 1
    moments := (List.range i).flatMap w.round ++ [w.probed i] ++
      [.rest (w.span i) (w.scene.rest i)] }

theorem restedAt_eq {i : Nat} (hrest : w.scene.rest i = none) :
    w.restedAt i = w.stateAt (i + 1) := by
  simp [restedAt, stateAt, List.range_succ, round, hrest]

variable (patience : Nat)

/-- The watch of a wait. -/
def watch : Readiness.Watch (Timed K) (Exact K) where
  probe := (Timed.outside patience).notReady w.scene.takeProbe
  report _ _ := pure ()
  ceiling := .ofNumber w.ceiling

def poll (fuel i : Nat) : Outcome Readiness.Ending × Journal K :=
  Readiness.poll w.scene.timing (w.watch patience) w.deadline fuel (i + 1) (w.span i) (w.stateAt i)

theorem takeProbe_stateAt (i : Nat) :
    w.scene.takeProbe (w.stateAt i) =
      (match w.scene.probe i with
        | .ok () => .done ()
        | .error fault => .raised fault, w.probedAt i) := rfl

theorem takeRest_probedAt (i : Nat) :
    w.scene.takeRest (w.span i) (w.probedAt i) =
      (match w.scene.rest i with
        | none => .done ()
        | some fault => .raised fault, w.restedAt i) := rfl

theorem probe_passed {i : Nat} (hprobe : w.scene.probe i = .ok ()) :
    (w.watch patience).probe (w.stateAt i) = (.done none, w.probedAt i) := by
  have htake : w.scene.takeProbe (w.stateAt i) = (.done (), w.probedAt i) := by
    rw [takeProbe_stateAt, hprobe]
  have hattempt : Timed.attempt w.scene.takeProbe (w.stateAt i)
      = (.done (.ok ()), w.probedAt i) := by
    simp only [Timed.attempt, htake]
  exact Timed.bind_done hattempt _

theorem probe_failed {i : Nat} {fault : Fault} (hprobe : w.scene.probe i = .error fault) :
    (w.watch patience).probe (w.stateAt i) =
      (if fault.isPreset then .done (some fault) else .raised fault, w.probedAt i) := by
  have htake : w.scene.takeProbe (w.stateAt i) = (.raised fault, w.probedAt i) := by
    rw [takeProbe_stateAt, hprobe]
  have hattempt : Timed.attempt w.scene.takeProbe (w.stateAt i)
      = (.done (.error fault), w.probedAt i) := by
    simp only [Timed.attempt, htake]
  refine (Timed.bind_done hattempt _).trans ?_
  cases fault <;> rfl

theorem poll_passed {fuel i : Nat} (hprobe : w.scene.probe i = .ok ()) :
    w.poll patience (fuel + 1) i = (.done (.ready (i + 1)), w.probedAt i) :=
  Timed.bind_done (w.probe_passed patience hprobe) _

theorem poll_escaped {fuel i : Nat} {fault : Fault} (hprobe : w.scene.probe i = .error fault)
    (hother : ¬ fault.isPreset) :
    w.poll patience (fuel + 1) i = (.raised fault, w.probedAt i) := by
  have hwatch := w.probe_failed patience hprobe
  rw [if_neg hother] at hwatch
  exact Timed.bind_raised hwatch _

theorem poll_late {fuel i : Nat} {fault : Fault} (hprobe : w.scene.probe i = .error fault)
    (hpreset : fault.isPreset) (hlate : w.Late i) :
    w.poll patience (fuel + 1) i = (.done (.late fault), w.probedAt i) := by
  have hwatch := w.probe_failed patience hprobe
  rw [if_pos hpreset] at hwatch
  refine (Timed.bind_done hwatch _).trans ?_
  refine (Timed.bind_done rfl _).trans ?_
  exact congrFun (if_pos hlate) _

/-- A probe that fails in time is followed by its rest. -/
theorem poll_rests {fuel i : Nat} {fault : Fault} (hprobe : w.scene.probe i = .error fault)
    (hpreset : fault.isPreset) (hintime : ¬ w.Late i) :
    w.poll patience (fuel + 1) i =
      (w.scene.takeRest (w.span i) >>= fun _ =>
        Readiness.poll w.scene.timing (w.watch patience) w.deadline fuel (i + 2)
          (((w.span i).scale 2).least (.ofNumber w.ceiling))) (w.probedAt i) := by
  have hwatch := w.probe_failed patience hprobe
  rw [if_pos hpreset] at hwatch
  refine (Timed.bind_done hwatch _).trans ?_
  refine (Timed.bind_done rfl _).trans ?_
  refine (congrFun (if_neg hintime) _).trans ?_
  exact Timed.bind_done rfl _

theorem poll_disturbed {fuel i : Nat} {fault failure : Fault}
    (hprobe : w.scene.probe i = .error fault) (hpreset : fault.isPreset) (hintime : ¬ w.Late i)
    (hrest : w.scene.rest i = some failure) :
    w.poll patience (fuel + 1) i = (.raised failure, w.restedAt i) := by
  rw [w.poll_rests patience hprobe hpreset hintime]
  refine Timed.bind_raised ?_ _
  rw [takeRest_probedAt, hrest]

/-- A full round leads to the next one. -/
theorem poll_retried [IsStrictOrderedRing K] (h : w.Sound) {fuel i : Nat}
    (hretried : w.Retried i) : w.poll patience (fuel + 1) i = w.poll patience fuel (i + 1) := by
  obtain ⟨fault, hprobe, hpreset⟩ := hretried.failed
  rw [w.poll_rests patience hprobe hpreset hretried.inTime, h.span_succ]
  have hrest : w.scene.takeRest (w.span i) (w.probedAt i) = (.done (), w.stateAt (i + 1)) := by
    rw [takeRest_probedAt, hretried.undisturbed, w.restedAt_eq hretried.undisturbed]
  exact Timed.bind_done hrest _

/-! ## The whole wait -/

/-- What the end of the polling means for the wait. -/
def conclusion : Outcome Readiness.Ending → Outcome Unit
  | .done (.ready _) => .done ()
  | .done (.late fault) => .raised (Readiness.tooLate w.container w.timeout fault)
  | .done .unfinished => .unfinished
  | .raised fault => .raised fault
  | .unfinished => .unfinished

/-- The full rounds lead to the last one. -/
theorem poll_rounds [IsStrictOrderedRing K] (h : w.Sound) (fuel n : Nat)
    (hretried : ∀ i < n, w.Retried i) :
    w.poll patience (n + fuel) 0 = w.poll patience fuel n := by
  induction n generalizing fuel with
  | zero => rw [Nat.zero_add]
  | succ n ih =>
    have hstep : w.poll patience (fuel + 1) n = w.poll patience fuel (n + 1) :=
      w.poll_retried patience h (hretried n (by omega))
    rw [show n + 1 + fuel = n + (fuel + 1) by omega, ih (fuel + 1) fun i hi =>
      hretried i (by omega), hstep]

/-- A round that is not followed by another probe ends the wait. -/
theorem ends_of_not_retried (n : Nat) (hlast : ¬ w.Retried n) :
    ∃ ending journal last, w.Ends n last (w.conclusion ending) ∧
      journal.moments = (List.range n).flatMap w.round ++ last ∧
      ∀ patience fuel, w.poll patience (fuel + 1) n = (ending, journal) := by
  cases hprobe : w.scene.probe n with
  | ok value =>
    exact ⟨.done (.ready (n + 1)), w.probedAt n, _, .passed hprobe, rfl,
      fun patience _ => w.poll_passed patience hprobe⟩
  | error fault =>
    by_cases hpreset : fault.isPreset
    swap
    · exact ⟨.raised fault, w.probedAt n, _, .escaped fault hprobe hpreset, rfl,
        fun patience _ => w.poll_escaped patience hprobe hpreset⟩
    by_cases hlate : w.Late n
    · exact ⟨.done (.late fault), w.probedAt n, _, .late fault hprobe hpreset hlate, rfl,
        fun patience _ => w.poll_late patience hprobe hpreset hlate⟩
    cases hrest : w.scene.rest n with
    | none => exact absurd ⟨⟨fault, hprobe, hpreset⟩, hlate, hrest⟩ hlast
    | some failure =>
      refine ⟨.raised failure, w.restedAt n, _,
        .disturbed fault failure hprobe hpreset hlate hrest, ?_,
        fun patience _ => w.poll_disturbed patience hprobe hpreset hlate hrest⟩
      simp [restedAt, hrest]

theorem run_of_poll (h : w.Sound) {ending : Outcome Readiness.Ending} {journal : Journal K}
    (hpoll : w.poll patience patience 0 = (ending, journal)) :
    w.run patience = (w.conclusion ending, journal) := by
  unfold poll at hpoll
  rw [h.span_zero] at hpoll
  have hdeadline : w.scene.timing.after (w.scene.timing.span w.timeout) (w.stateAt 0) =
      (.done w.deadline, w.stateAt 0) := rfl
  change (w.scene.await _ _ _ _ _) (w.stateAt 0) = _
  unfold Scene.await Readiness.Outside.await
  refine (Timed.bind_done rfl _).trans ?_
  refine (Timed.bind_done hdeadline _).trans ?_
  refine (Timed.bind_done rfl _).trans ?_
  cases ending with
  | done ending =>
    refine (Timed.bind_done hpoll _).trans ?_
    cases ending <;> rfl
  | raised fault => exact Timed.bind_raised hpoll _
  | unfinished => exact Timed.bind_unfinished hpoll _

/-- With a finite budget there is a first round that is not followed by another probe. -/
theorem exists_last [IsStrictOrderedRing K] [Archimedean K] (h : w.Sound) {budget : K}
    (hbudget : .ofNumber w.timeout = Exact.finite budget) :
    ∃ n, (∀ i < n, w.Retried i) ∧ ¬ w.Retried n := by
  classical
  have hexists := exists_not_retried h hbudget
  exact ⟨Nat.find hexists, fun i hi => not_not.1 (Nat.find_min hexists hi), Nat.find_spec hexists⟩

/-- The wait ends with that round, however long it is followed. -/
theorem run_of_last [IsStrictOrderedRing K] (h : w.Sound) {n : Nat}
    (hretried : ∀ i < n, w.Retried i) (hlast : ¬ w.Retried n) :
    ∃ last outcome, w.Ends n last outcome ∧ ∀ patience, n < patience →
      (w.run patience).1 = outcome ∧
        (w.run patience).2.moments = (List.range n).flatMap w.round ++ last := by
  obtain ⟨ending, journal, last, hends, hmoments, hpoll⟩ := w.ends_of_not_retried n hlast
  refine ⟨last, w.conclusion ending, hends, fun patience hpatience => ?_⟩
  have hrounds := w.poll_rounds patience h (patience - n) n hretried
  obtain ⟨fuel, hfuel⟩ : ∃ fuel, patience - n = fuel + 1 := ⟨patience - n - 1, by omega⟩
  rw [show n + (patience - n) = patience by omega, hfuel, hpoll] at hrounds
  rw [w.run_of_poll patience h hrounds]
  exact ⟨rfl, hmoments⟩

/-- Two refusals before the server is ready, with the usual intervals and half a minute. -/
def patient : Wait Rat where
  scene :=
    { probe := fun i => if i < 2 then .error (.plain "refused") else .ok ()
      duration := fun _ => 1 / 10
      rest := fun _ => none }
  start := 7
  interval := .real 0.25
  ceiling := .real 2
  container := ⟨"0123456789", "mssqlpreset_0123456789", "c1", "127.0.0.1", []⟩
  timeout := .int 30

theorem patient_interval : .ofNumber patient.interval = Exact.finite (1 / 4 : Rat) := by
  have hdouble : Number.Binary.ofFloat 0.25 = .finite false (Nat.pow 2 52) (-54) := by
    decide +kernel
  simp only [patient, Exact.ofNumber, hdouble, Exact.ofBinary, Number.signedSignificand]
  norm_num

theorem patient_ceiling : .ofNumber patient.ceiling = Exact.finite (2 : Rat) := by
  have hdouble : Number.Binary.ofFloat 2 = .finite false (Nat.pow 2 52) (-51) := by
    decide +kernel
  simp only [patient, Exact.ofNumber, hdouble, Exact.ofBinary, Number.signedSignificand]
  norm_num

theorem patient_timeout : .ofNumber patient.timeout = Exact.finite (30 : Rat) := by
  simp [patient, Exact.ofNumber]

theorem patient_sound : patient.Sound where
  positive := by
    rw [patient_interval, Exact.positive_iff]
    exact .inl ⟨1 / 4, rfl, by norm_num⟩
  capped := by
    rw [patient_interval, patient_ceiling, Exact.finite_atMost_iff]
    exact .inl ⟨2, rfl, by norm_num⟩
  duration_nonneg _ := by norm_num [patient]

end Wait

end SeededServer
