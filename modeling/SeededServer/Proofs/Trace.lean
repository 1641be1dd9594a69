import SeededServer.Run

/-!
# Traces of composed runs

The trace of a composed run from the traces of its parts. A run is followed part by part: the
outcome of the first part decides what comes next, and its events stand in front of all later ones.
-/
namespace SeededServer

/-- The run came to an end. -/
def Outcome.isEnded {α : Type} : Outcome α → Bool
  | .unfinished => false
  | _ => true

theorem Outcome.ne_unfinished_of_isEnded {α : Type} {outcome : Outcome α}
    (h : outcome.isEnded = true) : outcome ≠ .unfinished := by
  rintro rfl
  cases h

namespace Trace

variable {α : Type}

/-- The trace with earlier events in front. -/
def after (before : List Event) (t : Trace α) : Trace α := { t with events := before ++ t.events }

@[simp] theorem after_outcome (before : List Event) (t : Trace α) :
    (t.after before).outcome = t.outcome := rfl

@[simp] theorem after_events (before : List Event) (t : Trace α) :
    (t.after before).events = before ++ t.events := rfl

@[simp] theorem after_world (before : List Event) (t : Trace α) :
    (t.after before).world = t.world := rfl

@[simp] theorem after_after (first second : List Event) (t : Trace α) :
    (t.after second).after first = t.after (first ++ second) := by
  simp [after]

end Trace

namespace Run

variable {α β : Type} {m : Run α} {w : World}

/-! ## Sequencing -/

theorem bind_done {a : α} (h : (m w).outcome = .done a) (f : α → Run β) :
    (m >>= f) w = (f a (m w).world).after (m w).events := by
  change Run.bind m f w = _
  simp [Run.bind, h, Trace.after]

theorem bind_raised {fault : Fault} (h : (m w).outcome = .raised fault) (f : α → Run β) :
    (m >>= f) w = ⟨.raised fault, (m w).events, (m w).world⟩ := by
  change Run.bind m f w = _
  simp [Run.bind, h]

theorem bind_unfinished (h : (m w).outcome = .unfinished) (f : α → Run β) :
    (m >>= f) w = ⟨.unfinished, (m w).events, (m w).world⟩ := by
  change Run.bind m f w = _
  simp [Run.bind, h]

/-- A composed run ends with a value only if both parts do. -/
theorem of_bind_done {f : α → Run β} {b : β} (h : ((m >>= f) w).outcome = .done b) :
    ∃ a, (m w).outcome = .done a ∧ (f a (m w).world).outcome = .done b ∧
      (m >>= f) w = (f a (m w).world).after (m w).events := by
  cases hm : (m w).outcome with
  | done a =>
    have hb := bind_done hm f
    exact ⟨a, rfl, by simpa [hb] using h, hb⟩
  | raised fault => rw [bind_raised hm] at h; cases h
  | unfinished => rw [bind_unfinished hm] at h; cases h

@[simp] theorem pure_apply (a : α) (w : World) : (pure a : Run α) w = ⟨.done a, [], w⟩ := rfl

@[simp] theorem pure_bind (a : α) (f : α → Run β) (w : World) :
    ((pure a : Run α) >>= f) w = f a w := rfl

@[simp] theorem ask_bind (g : World → α) (f : α → Run β) (w : World) :
    (ask g >>= f) w = f (g w) w := rfl

@[simp] theorem log_bind (level : Level) (text : String) (f : Unit → Run β) (w : World) :
    (log level text >>= f) w = (f () w).after [.log level text] := rfl

@[simp] theorem print_bind (text : String) (f : Unit → Run β) (w : World) :
    (print text >>= f) w = (f () w).after [.print text] := rfl

@[simp] theorem hold_bind (container : Option Container) (f : Unit → Run β) (w : World) :
    (hold container >>= f) w = f () { w with held := container } := rfl

@[simp] theorem exchange_bind {ρ : Type} (step : World → ρ × World) (event : ρ → Event)
    (f : ρ → Run β) (w : World) :
    (exchange step event >>= f) w = (f (step w).1 (step w).2).after [event (step w).1] := rfl

/-! ## Exchanges that may be refused -/

section Refusable

variable {step : World → Option Fault × World} {event : Option Fault → Event}

theorem refusable_accepted (h : (step w).1 = none) :
    (do check (← exchange step event) : Run Unit) w = ⟨.done (), [event none], (step w).2⟩ := by
  rw [exchange_bind, h]
  rfl

theorem refusable_refused {fault : Fault} (h : (step w).1 = some fault) :
    (do check (← exchange step event) : Run Unit) w =
      ⟨.raised fault, [event (some fault)], (step w).2⟩ := by
  rw [exchange_bind, h]
  rfl

/-- Refused or not, the event of the exchange holds the reply. -/
theorem refusable_events :
    ((do check (← exchange step event) : Run Unit) w).events = [event (step w).1] := by
  cases h : (step w).1 with
  | none => rw [refusable_accepted h]
  | some fault => rw [refusable_refused h]

end Refusable

/-! ## Handlers -/

theorem attempt_done {a : α} (h : (m w).outcome = .done a) :
    attempt m w = ⟨.done (.ok a), (m w).events, (m w).world⟩ := by
  simp [attempt, h]

theorem attempt_raised {fault : Fault} (h : (m w).outcome = .raised fault) :
    attempt m w = ⟨.done (.error fault), (m w).events, (m w).world⟩ := by
  simp [attempt, h]

theorem attempt_unfinished (h : (m w).outcome = .unfinished) :
    attempt m w = ⟨.unfinished, (m w).events, (m w).world⟩ := by
  simp [attempt, h]

theorem rescue_done {a : α} (h : (m w).outcome = .done a) (handler : Fault → Run α) :
    rescue m handler w = m w := by
  have hm := attempt_done h
  rw [rescue, bind_done (a := .ok a) (by rw [hm]), hm]
  simp [Trace.after, ← h]

theorem rescue_raised {fault : Fault} (h : (m w).outcome = .raised fault)
    (handler : Fault → Run α) :
    rescue m handler w = (handler fault (m w).world).after (m w).events := by
  have hm := attempt_raised h
  rw [rescue, bind_done (a := .error fault) (by rw [hm]), hm]

theorem rescue_unfinished (h : (m w).outcome = .unfinished) (handler : Fault → Run α) :
    rescue m handler w = m w := by
  have hm := attempt_unfinished h
  rw [rescue, bind_unfinished (by rw [hm]), hm]
  simp [← h]

theorem ensure_done {a : α} (h : (m w).outcome = .done a) (last : Run Unit) :
    ensure m last w = ((last >>= fun _ => pure a) (m w).world).after (m w).events := by
  have hm := attempt_done h
  rw [ensure, bind_done (a := .ok a) (by rw [hm]), hm]
  rfl

theorem ensure_raised {fault : Fault} (h : (m w).outcome = .raised fault) (last : Run Unit) :
    ensure m last w = ((last >>= fun _ => raise fault) (m w).world).after (m w).events := by
  have hm := attempt_raised h
  rw [ensure, bind_done (a := .error fault) (by rw [hm]), hm]
  rfl

theorem ensure_unfinished (h : (m w).outcome = .unfinished) (last : Run Unit) :
    ensure m last w = m w := by
  have hm := attempt_unfinished h
  rw [ensure, bind_unfinished (by rw [hm]), hm]
  simp [← h]

/-- Replacing the driver's own errors changes nothing but the fault. -/
theorem mapDriverError_apply (m : Run α) (f : Fault → Fault) (w : World) :
    m.mapDriverError f w = { m w with
      outcome := match (m w).outcome with
        | .raised fault => .raised (if fault.isDriver then f fault else fault)
        | outcome => outcome } := by
  unfold mapDriverError
  cases h : (m w).outcome with
  | done a => rw [rescue_done h]; simp [← h]
  | raised fault => rw [rescue_raised h]; simp [raise, Trace.after]
  | unfinished => rw [rescue_unfinished h]; simp [← h]

@[simp] theorem mapDriverError_events (m : Run α) (f : Fault → Fault) (w : World) :
    (m.mapDriverError f w).events = (m w).events := by
  rw [mapDriverError_apply]

theorem mapDriverError_done {f : Fault → Fault} {a : α} :
    (m.mapDriverError f w).outcome = .done a ↔ (m w).outcome = .done a := by
  rw [mapDriverError_apply]
  cases (m w).outcome <;> simp

/-! ## Closing steps -/

theorem bind_events {f : β → Run α} (hf : ∀ b v, (f b v).events = []) (m : Run β) (w : World) :
    ((m >>= f) w).events = (m w).events := by
  cases h : (m w).outcome with
  | done b => rw [bind_done h, Trace.after_events, hf, List.append_nil]
  | raised fault => rw [bind_raised h]
  | unfinished => rw [bind_unfinished h]

theorem bind_raise_ne_done {m : Run β} {fault : Fault} {a : α} :
    ((m >>= fun _ => (raise fault : Run α)) w).outcome ≠ .done a := by
  intro h
  obtain ⟨_, _, h, -⟩ := of_bind_done h
  cases h

/-- A handler that never ends with a value leaves only the values of what it handles. -/
theorem of_rescue_done {handler : Fault → Run α} {a : α}
    (hh : ∀ fault v, (handler fault v).outcome ≠ .done a)
    (h : (rescue m handler w).outcome = .done a) : (m w).outcome = .done a := by
  cases hm : (m w).outcome with
  | done b => rwa [rescue_done hm, hm] at h
  | raised fault => rw [rescue_raised hm] at h; exact absurd h (hh fault _)
  | unfinished => rw [rescue_unfinished hm, hm] at h; cases h

/-- Unless a run does not end, what has to be done last is done after it. -/
theorem ensure_events (h : (m w).outcome ≠ .unfinished) (last : Run Unit) :
    (ensure m last w).events = (m w).events ++ (last (m w).world).events := by
  cases ho : (m w).outcome with
  | done a => rw [ensure_done ho, Trace.after_events, bind_events fun _ _ => rfl]
  | raised fault => rw [ensure_raised ho, Trace.after_events, bind_events fun _ _ => rfl]
  | unfinished => exact absurd ho h

theorem bind_world {f : β → Run α} (hf : ∀ b v, (f b v).world = v) (m : Run β) (w : World) :
    ((m >>= f) w).world = (m w).world := by
  cases h : (m w).outcome with
  | done b => rw [bind_done h, Trace.after_world, hf]
  | raised fault => rw [bind_raised h]
  | unfinished => rw [bind_unfinished h]

theorem ensure_world (h : (m w).outcome ≠ .unfinished) (last : Run Unit) :
    (ensure m last w).world = (last (m w).world).world := by
  cases ho : (m w).outcome with
  | done a => rw [ensure_done ho, Trace.after_world, bind_world fun _ _ => rfl]
  | raised fault => rw [ensure_raised ho, Trace.after_world, bind_world fun _ _ => rfl]
  | unfinished => exact absurd ho h

theorem ensure_outcome_done {last : Run Unit} {a : α} :
    (ensure m last w).outcome = .done a ↔
      (m w).outcome = .done a ∧ (last (m w).world).outcome = .done () := by
  cases ho : (m w).outcome with
  | done b =>
    rw [ensure_done ho, Trace.after_outcome]
    cases hl : (last (m w).world).outcome with
    | done u => rw [bind_done hl]; simp
    | raised fault => rw [bind_raised hl]; simp
    | unfinished => rw [bind_unfinished hl]; simp
  | raised fault =>
    rw [ensure_raised ho, Trace.after_outcome]
    cases hl : (last (m w).world).outcome with
    | done u => rw [bind_done hl]; simp [raise]
    | raised fault => rw [bind_raised hl]; simp
    | unfinished => rw [bind_unfinished hl]; simp
  | unfinished => rw [ensure_unfinished ho, ho]; simp

/-- After a run that ended with a value, only what is done last can raise a fault. -/
theorem ensure_outcome_raised {last : Run Unit} {a : α} {fault : Fault}
    (h : (m w).outcome = .done a) :
    (ensure m last w).outcome = .raised fault ↔ (last (m w).world).outcome = .raised fault := by
  rw [ensure_done h, Trace.after_outcome]
  cases hl : (last (m w).world).outcome with
  | done u => rw [bind_done hl]; simp
  | raised second => rw [bind_raised hl]; simp
  | unfinished => rw [bind_unfinished hl]; simp

end Run

end SeededServer
