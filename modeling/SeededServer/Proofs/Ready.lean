import SeededServer.Proofs.Layers

/-!
# Waits that end well

A wait ends with a value only after a probe that passed, and a probe passes only if the server
answered the liveness query with the integer 1 in a session that was closed without a failure.
`Run.Concludes` tells what stands last in the events of a run that ends with a value; it is followed
through each operation of a probe, and from the probe to the wait.

## Main definitions

* `Liveness.healthySession` — the exchanges of a session in which the server answers with 1.
* `EndsReady` — events that end with such a session.
-/
namespace SeededServer

/-! ## The last events of a run -/

/-- If the run ends with a value, then its last events are as `P` says. -/
def Run.Concludes {α : Type} (m : Run α) (P : α → List Event → Prop) : Prop :=
  ∀ w a, (m w).outcome = .done a → ∃ earlier last, (m w).events = earlier ++ last ∧ P a last

namespace Run.Concludes

variable {α β : Type} {m : Run α} {P : α → List Event → Prop} {Q : β → List Event → Prop}

theorem pure {a : α} (h : P a []) : (Pure.pure a : Run α).Concludes P := by
  intro w b hb
  cases hb
  exact ⟨[], [], rfl, h⟩

/-- The second part has the last word, or adds its events to the last ones of the first part. -/
theorem bind_cases {f : α → Run β} (hm : m.Concludes P)
    (hf : ∀ a, (f a).Concludes Q ∨
      ∀ last w b, P a last → (f a w).outcome = .done b → Q b (last ++ (f a w).events)) :
    (m >>= f).Concludes Q := by
  intro w b hb
  obtain ⟨a, ha, hb, heq⟩ := of_bind_done hb
  rw [heq, Trace.after_events]
  rcases hf a with hf | hf
  · obtain ⟨earlier, last, he, hl⟩ := hf _ b hb
    exact ⟨(m w).events ++ earlier, last, by rw [he, List.append_assoc], hl⟩
  · obtain ⟨earlier, last, he, hl⟩ := hm w a ha
    exact ⟨earlier, last ++ (f a (m w).world).events, by rw [he, List.append_assoc],
      hf last _ b hl hb⟩

theorem anything : m.Concludes fun _ _ => True := fun w _ _ => ⟨[], (m w).events, rfl, trivial⟩

theorem bind {f : α → Run β} (hf : ∀ a, (f a).Concludes Q) : (m >>= f).Concludes Q :=
  anything.bind_cases fun a => .inl (hf a)

theorem bind_add {f : α → Run β} (hm : m.Concludes P)
    (hf : ∀ a last w b, P a last → (f a w).outcome = .done b → Q b (last ++ (f a w).events)) :
    (m >>= f).Concludes Q :=
  hm.bind_cases fun a => .inr (hf a)

theorem attempt (hm : m.Concludes P) :
    (Run.attempt m).Concludes fun ending last => ∀ a, ending = .ok a → P a last := by
  intro w ending hw
  cases h : (m w).outcome with
  | done a =>
    rw [attempt_done h] at hw ⊢
    cases hw
    obtain ⟨earlier, last, he, hl⟩ := hm w a h
    exact ⟨earlier, last, he, fun _ hb => Except.ok.inj hb ▸ hl⟩
  | raised fault =>
    rw [attempt_raised h] at hw
    cases hw
    exact ⟨_, [], (List.append_nil _).symm, fun _ hb => nomatch hb⟩
  | unfinished => rw [attempt_unfinished h] at hw; cases hw

theorem mapDriverError {f : Fault → Fault} (hm : m.Concludes P) :
    (m.mapDriverError f).Concludes P := by
  intro w a ha
  rw [mapDriverError_events]
  exact hm w a (mapDriverError_done.1 ha)

theorem ensure {last : Run Unit} {Q : α → List Event → Prop} (hm : m.Concludes P)
    (hl : ∀ a events w, P a events → (last w).outcome = .done () →
      Q a (events ++ (last w).events)) :
    (Run.ensure m last).Concludes Q := by
  intro w a ha
  obtain ⟨hbody, hlast⟩ := ensure_outcome_done.1 ha
  obtain ⟨earlier, events, he, hP⟩ := hm w a hbody
  refine ⟨earlier, events ++ (last (m w).world).events, ?_, hl a events _ hP hlast⟩
  rw [ensure_events (by simp [hbody]), he, List.append_assoc]

end Run.Concludes

/-! ## Single exchanges that succeed -/

namespace Run

variable {w : World}

theorem refusable_done {step : World → Option Fault × World} {event : Option Fault → Event}
    (h : ((do check (← exchange step event) : Run Unit) w).outcome = .done ()) :
    ((do check (← exchange step event) : Run Unit) w).events = [event none] := by
  cases hf : (step w).1 with
  | none => rw [refusable_accepted hf]
  | some fault => rw [refusable_refused hf] at h; cases h

theorem fetch_done {database : String} {row : Option Row}
    (h : (fetch database w).outcome = .done row) :
    (fetch database w).events = [.fetch database (.ok row)] := by
  unfold fetch at h ⊢
  rw [exchange_bind] at h ⊢
  cases hf : w.fetch.1 with
  | error fault => rw [hf] at h; cases h
  | ok answer => rw [hf] at h; cases h; rfl

end Run

/-! ## Probes that pass -/

/-- A session whose body ended with a value was closed after it without a failure. -/
theorem Access.withSession_concludes {α : Type} {access : Access} {address database : String}
    {body : Run α} {P : α → List Event → Prop} (h : body.Concludes P) :
    (access.withSession address database body).Concludes fun a events =>
      ∃ last, P a last ∧ events = last ++ [.close database none] := by
  refine Run.Concludes.bind fun _ => ?_
  refine h.ensure fun a last w hP hclose => ⟨last, hP, ?_⟩
  have closed : (Run.close database w).events = [.close database none] :=
    Run.refusable_done hclose
  rw [closed]

namespace Liveness

/-- The exchanges of a session in which the server answers with the integer 1. -/
def healthySession (rest : List Value) : List Event :=
  [.cursor Access.masterDatabase none, .execute Access.masterDatabase query none,
    .fetch Access.masterDatabase (.ok (some (.int 1 :: rest))), .close Access.masterDatabase none]

theorem isOne_answer {row : Option Row} :
    isOne (answer row) = true ↔ ∃ rest, row = some (.int 1 :: rest) := by
  constructor
  · intro h
    match row with
    | none => cases h
    | some [] => cases h
    | some (value :: rest) =>
      cases value with
      | int n => exact ⟨rest, by simpa [answer, isOne, Value.ofOption] using h⟩
      | _ => cases h
  · rintro ⟨rest, rfl⟩
    rfl

/-- The exchanges of a query whose answer was fetched. -/
theorem ask_concludes {f : Fault → Fault} :
    (Run.mapDriverError (do
      Run.openCursor Access.masterDatabase
      Run.execute Access.masterDatabase query
      Run.fetch Access.masterDatabase) f).Concludes fun row last =>
        last = [.cursor Access.masterDatabase none, .execute Access.masterDatabase query none,
          .fetch Access.masterDatabase (.ok row)] := by
  refine Run.Concludes.mapDriverError fun w row h => ⟨[], _, rfl, ?_⟩
  obtain ⟨_, hcursor, h, heq⟩ := Run.of_bind_done h
  obtain ⟨_, hexecute, h, heq'⟩ := Run.of_bind_done h
  rw [heq, heq']
  simp only [Trace.after_events]
  rw [show (Run.openCursor _ w).events = _ from Run.refusable_done hcursor,
    show (Run.execute _ _ _).events = _ from Run.refusable_done hexecute, Run.fetch_done h]
  rfl

end Liveness

/-- The events end with a session in which the server answered with the integer 1. -/
def EndsReady (events : List Event) : Prop :=
  ∃ earlier rest later, events = earlier ++ Liveness.healthySession rest ++ later ∧
    ∀ e ∈ later, e.IsIdle

namespace EndsReady

variable {events : List Event}

theorem prepend (h : EndsReady events) (before : List Event) : EndsReady (before ++ events) := by
  obtain ⟨earlier, rest, later, rfl, hlater⟩ := h
  exact ⟨before ++ earlier, rest, later, by simp, hlater⟩

theorem append_idle {idle : List Event} (h : EndsReady events) (hidle : ∀ e ∈ idle, e.IsIdle) :
    EndsReady (events ++ idle) := by
  obtain ⟨earlier, rest, later, rfl, hlater⟩ := h
  exact ⟨earlier, rest, later ++ idle, by simp, List.forall_mem_append.2 ⟨hlater, hidle⟩⟩

end EndsReady

/-- A probe passes only on a healthy session. -/
theorem Liveness.probe_concludes (access : Access) (address : String) :
    (probe access address).Concludes fun _ => EndsReady := by
  refine (Access.withSession_concludes ask_concludes).bind_add ?_
  rintro row _ w _ ⟨_, rfl, rfl⟩ hdone
  by_cases hone : isOne (answer row) = true
  · obtain ⟨rest, rfl⟩ := isOne_answer.1 hone
    rw [if_pos hone]
    exact ⟨[], rest, [.log .debug ("Healthcheck passed for " ++ address)], rfl, by
      simp [Event.IsIdle, Event.OfProcess]⟩
  · rw [if_neg hone] at hdone
    cases hdone

/-! ## The wait -/

namespace Readiness

variable {P : List Event → Prop}

/-- A probe that finds the container ready ended with a value. -/
theorem notReady_concludes {probe : Run Unit} (h : probe.Concludes fun _ => P) :
    (notReady probe).Concludes fun answer last => answer = none → P last := by
  refine h.attempt.bind_add fun ending last w answer hlast hdone hnone => ?_
  subst hnone
  cases ending with
  | ok => simpa using hlast () rfl
  | error fault =>
    dsimp only at hdone
    split at hdone <;> cases hdone

/-- The last thing before a wait is over is a probe that passed. -/
theorem poll_concludes {ι δ : Type} {time : Timing Run ι δ} {watch : Watch Run δ} {deadline : ι}
    (h : watch.probe.Concludes fun answer last => answer = none → P last)
    (fuel attempt : Nat) (interval : δ) :
    (poll time watch deadline fuel attempt interval).Concludes
      fun ending last => ∀ attempts, ending = .ready attempts → P last := by
  induction fuel generalizing attempt interval with
  | zero => exact .pure fun _ hready => nomatch hready
  | succ fuel ih =>
    refine h.bind_cases fun answer => ?_
    cases answer with
    | none =>
      right
      rintro last w ending hlast hdone attempts -
      simpa using hlast rfl
    | some fault =>
      left
      refine .bind fun instant => ?_
      split
      · exact .pure fun _ hready => nomatch hready
      · exact .bind fun _ => .bind fun _ => ih _ _

/-- A wait that is over ended with a probe that passed. -/
theorem await_concludes {probe : Run Unit} (interval ceiling : Number) (container : Container)
    (timeout : Number) (h : probe.Concludes fun _ => EndsReady) :
    (await interval ceiling container probe timeout).Concludes fun _ => EndsReady := by
  refine .bind fun _ => .bind fun deadline => .bind fun patience => ?_
  refine (poll_concludes (notReady_concludes h) patience 1 interval).bind_add ?_
  intro ending last w _ hlast hdone
  cases ending with
  | ready attempts =>
    refine (hlast attempts rfl).append_idle (Run.Within.forall_mem ?_ w)
    exact (Run.Within.print trivial).bind fun _ => .log trivial
  | late fault => cases hdone
  | unfinished => cases hdone

end Readiness

/-- A runner goes on to the seeding only after a probe that passed. -/
theorem Runner.waitUntilReady_concludes (runner : Runner) (container : Container) :
    (runner.docker.waitUntilReady container (runner.config.probe (.ofContainer container))
      (.real runner.config.waitTimeout)).Concludes fun _ => EndsReady :=
  Readiness.await_concludes _ _ _ _ <| .bind fun address =>
    Liveness.probe_concludes runner.config.access address

end SeededServer
