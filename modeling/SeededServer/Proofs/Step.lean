import SeededServer.Proofs.Replies
import SeededServer.Proofs.Trace

/-!
# Steps and histories

Whatever a run does to the outside is a row of single exchanges. `Step` says once what an exchange
can do, and a `History` is a row of them whose events all satisfy a predicate. `Run.Within` holds of
a run that leaves such a history from every world. It passes from the parts of a run to the whole,
so it is proved once for each operation; what a step preserves is then preserved by all these runs.
-/
namespace SeededServer

/-! ## Steps -/

/-- An exchange with the outside: the world before it, its event, and the world after it. -/
inductive Step : World → Event → World → Prop where
  | log (level : Level) (text : String) (w : World) : Step w (.log level text) w
  | print (text : String) (w : World) : Step w (.print text) w
  | command (command : Command) (w : World) :
      Step w (.command command (w.runProcess command).1) (w.runProcess command).2
  | rest (seconds : Number) (w : World) :
      Step w (.rest seconds (w.takeRest seconds).1) (w.takeRest seconds).2
  | lastRest (w : World) (h : w.interruptAt = none) :
      Step w (.rest (.int 1) (some .interruption)) { w with rests := w.rests + 1 }
  | connect (login : Login) (w : World) :
      Step w (.connect login (w.connect login).1) (w.connect login).2
  | cursor (database : String) (w : World) :
      Step w (.cursor database w.openCursor.1) w.openCursor.2
  | execute (database statement : String) (w : World) :
      Step w (.execute database statement (w.execute statement).1) (w.execute statement).2
  | fetch (database : String) (w : World) : Step w (.fetch database w.fetch.1) w.fetch.2
  | close (database : String) (w : World) : Step w (.close database w.close.1) w.close.2

/-- What an exchange leaves alone: which container the runner has to remove, and what kind of server
there is. A database that the server has is not taken away. -/
structure Step.Frame (u v : World) : Prop where
  held : v.held = u.held
  stateful : v.server.stateful = u.server.stateful
  databases : u.databases <+: v.databases

theorem Step.frame {u v : World} {e : Event} (h : Step u e v) : Step.Frame u v := by
  cases h with
  | log | print | lastRest | connect | cursor | close => exact ⟨rfl, rfl, List.prefix_rfl⟩
  | command command =>
    obtain ⟨clock, processes, heq⟩ := u.runProcess_eq command
    rw [heq]
    exact ⟨rfl, rfl, List.prefix_rfl⟩
  | rest seconds =>
    obtain ⟨clock, rests, heq⟩ := u.takeRest_eq seconds
    rw [heq]
    exact ⟨rfl, rfl, List.prefix_rfl⟩
  | execute =>
    -- Only here the databases can change, and only by one more.
    unfold World.execute
    dsimp only
    repeat' split
    all_goals first
      | exact ⟨rfl, rfl, List.prefix_rfl⟩
      | exact ⟨rfl, rfl, List.prefix_append _ _⟩
  | fetch =>
    unfold World.fetch
    dsimp only
    repeat' split
    all_goals exact ⟨rfl, rfl, List.prefix_rfl⟩

/-! ## Histories -/

/-- A row of exchanges with events that satisfy `P`. -/
inductive History (P : Event → Prop) : World → List Event → World → Prop where
  | nil (w : World) : History P w [] w
  | cons {u v w : World} {e : Event} {events : List Event} :
      Step u e v → P e → History P v events w → History P u (e :: events) w

namespace History

variable {P Q : Event → Prop} {u v w : World} {first second : List Event}

theorem single {e : Event} (h : Step u e v) (he : P e) : History P u [e] v := .cons h he (.nil v)

theorem append (h : History P u first v) (g : History P v second w) :
    History P u (first ++ second) w := by
  induction h with
  | nil => exact g
  | cons hs he _ ih => exact .cons hs he (ih g)

theorem mono (hPQ : ∀ e, P e → Q e) (h : History P u first v) : History Q u first v := by
  induction h with
  | nil w => exact .nil w
  | cons hs he _ ih => exact .cons hs (hPQ _ he) ih

theorem forall_mem (h : History P u first v) : ∀ e ∈ first, P e := by
  induction h with
  | nil => exact List.forall_mem_nil _
  | cons _ he _ ih => exact List.forall_mem_cons.2 ⟨he, ih⟩

theorem held (h : History P u first v) : v.held = u.held := by
  induction h with
  | nil => rfl
  | cons hs _ _ ih => exact ih.trans hs.frame.held

end History

/-! ## Runs within a predicate -/

/-- From every world the run leaves a history of events that satisfy `P`. -/
def Run.Within {α : Type} (m : Run α) (P : Event → Prop) : Prop :=
  ∀ w, History P w (m w).events (m w).world

namespace Run.Within

variable {α β : Type} {P Q : Event → Prop} {m : Run α}

theorem mono (hPQ : ∀ e, P e → Q e) (h : m.Within P) : m.Within Q := fun w => (h w).mono hPQ

theorem forall_mem (h : m.Within P) (w : World) : ∀ e ∈ (m w).events, P e := (h w).forall_mem

theorem held (h : m.Within P) (w : World) : (m w).world.held = w.held := (h w).held

/-- A projection that sees nothing of `P` sees nothing of the run. -/
theorem filterMap_eq_nil {γ : Type} {view : Event → Option γ} (h : m.Within P)
    (hP : ∀ e, P e → view e = none) (w : World) : (m w).events.filterMap view = [] := by
  rw [List.filterMap_eq_nil_iff]
  exact fun e he => hP e (h.forall_mem w e he)

/-! ### Parts and wholes -/

theorem pure (a : α) : (Pure.pure a : Run α).Within P := fun w => .nil w

theorem raise (fault : Fault) : (Run.raise fault : Run α).Within P := fun w => .nil w

theorem unfinished : (Run.unfinished : Run α).Within P := fun w => .nil w

theorem ask (f : World → α) : (Run.ask f).Within P := fun w => .nil w

theorem ofExcept (result : Except Fault α) : (Run.ofExcept result).Within P := by
  cases result with
  | error fault => exact raise fault
  | ok a => exact pure a

theorem check (failure : Option Fault) : (Run.check failure).Within P := by
  cases failure with
  | none => exact pure ()
  | some fault => exact raise fault

theorem bind {f : α → Run β} (hm : m.Within P) (hf : ∀ a, (f a).Within P) :
    (m >>= f).Within P := by
  intro w
  cases h : (m w).outcome with
  | done a => rw [bind_done h]; exact (hm w).append (hf a _)
  | raised fault => rw [bind_raised h]; exact hm w
  | unfinished => rw [bind_unfinished h]; exact hm w

theorem attempt (hm : m.Within P) : (Run.attempt m).Within P := by
  intro w
  cases h : (m w).outcome with
  | done a => rw [attempt_done h]; exact hm w
  | raised fault => rw [attempt_raised h]; exact hm w
  | unfinished => rw [attempt_unfinished h]; exact hm w

theorem rescue {handler : Fault → Run α} (hm : m.Within P)
    (hh : ∀ fault, (handler fault).Within P) : (Run.rescue m handler).Within P := by
  refine hm.attempt.bind fun ending => ?_
  cases ending with
  | error fault => exact hh fault
  | ok a => exact pure a

theorem ensure {last : Run Unit} (hm : m.Within P) (hl : last.Within P) :
    (Run.ensure m last).Within P :=
  hm.attempt.bind fun ending => hl.bind fun _ => ofExcept ending

theorem mapDriverError {f : Fault → Fault} (hm : m.Within P) : (m.mapDriverError f).Within P :=
  hm.rescue fun _ => raise _

/-! ### Single exchanges -/

theorem exchange {ρ : Type} {step : World → ρ × World} {event : ρ → Event}
    (hs : ∀ w, Step w (event (step w).1) (step w).2) (he : ∀ reply, P (event reply)) :
    (Run.exchange step event).Within P := fun w => .single (hs w) (he _)

theorem log {level : Level} {text : String} (he : P (.log level text)) :
    (Run.log level text).Within P := fun w => .single (.log level text w) he

theorem print {text : String} (he : P (.print text)) : (Run.print text).Within P :=
  fun w => .single (.print text w) he

theorem startProcess {command : Command} (he : ∀ reply, P (.command command reply)) :
    (Run.startProcess command).Within P :=
  (exchange (.command command) he).bind ofExcept

theorem rest {seconds : Number} (he : ∀ failure, P (.rest seconds failure)) :
    (Run.rest seconds).Within P :=
  (exchange (.rest seconds) he).bind check

theorem connect {login : Login} (he : ∀ failure, P (.connect login failure)) :
    (Run.connect login).Within P :=
  (exchange (.connect login) he).bind check

theorem openCursor {database : String} (he : ∀ failure, P (.cursor database failure)) :
    (Run.openCursor database).Within P :=
  (exchange (.cursor database) he).bind check

theorem execute {database statement : String}
    (he : ∀ failure, P (.execute database statement failure)) :
    (Run.execute database statement).Within P :=
  (exchange (.execute database statement) he).bind check

theorem fetch {database : String} (he : ∀ reply, P (.fetch database reply)) :
    (Run.fetch database).Within P :=
  (exchange (.fetch database) he).bind ofExcept

theorem close {database : String} (he : ∀ failure, P (.close database failure)) :
    (Run.close database).Within P :=
  (exchange (.close database) he).bind check

/-! ### Waiting for the user -/

theorem restRepeatedly (he : ∀ failure, P (.rest (.int 1) failure)) (count : Nat) :
    (Run.restRepeatedly count).Within P := by
  induction count with
  | zero => exact unfinished
  | succ count ih => exact (rest he).bind fun _ => ih

theorem restUntilInterrupted (he : ∀ failure, P (.rest (.int 1) failure)) :
    Run.restUntilInterrupted.Within P := by
  intro w
  unfold Run.restUntilInterrupted
  split
  · exact .single (.lastRest w ‹_›) (he _)
  · exact restRepeatedly he _ w

end Run.Within

/-! ## Runs that leave events of a kind -/

/-- All events of the run satisfy `P`, whatever it does to the container that is held. -/
def Run.Leaves {α : Type} (m : Run α) (P : Event → Prop) : Prop := ∀ w, ∀ e ∈ (m w).events, P e

theorem Run.Within.leaves {α : Type} {m : Run α} {P : Event → Prop} (h : m.Within P) :
    m.Leaves P := h.forall_mem

namespace Run.Leaves

variable {α β : Type} {P Q : Event → Prop} {m : Run α}

theorem mono (hPQ : ∀ e, P e → Q e) (h : m.Leaves P) : m.Leaves Q :=
  fun w e he => hPQ e (h w e he)

/-- A continuation adds its events to those of the first part. -/
theorem bind_tail {f : α → Run β} (hf : ∀ a, (f a).Leaves P) (w : World) :
    ∃ tail, ((m >>= f) w).events = (m w).events ++ tail ∧ ∀ e ∈ tail, P e := by
  cases h : (m w).outcome with
  | done a => exact ⟨_, by rw [bind_done h]; rfl, hf a _⟩
  | raised fault => exact ⟨[], by rw [bind_raised h]; simp, List.forall_mem_nil _⟩
  | unfinished => exact ⟨[], by rw [bind_unfinished h]; simp, List.forall_mem_nil _⟩

theorem rescue_tail {handler : Fault → Run α} (hh : ∀ fault, (handler fault).Leaves P)
    (w : World) :
    ∃ tail, (Run.rescue m handler w).events = (m w).events ++ tail ∧ ∀ e ∈ tail, P e := by
  cases h : (m w).outcome with
  | done a => exact ⟨[], by rw [rescue_done h]; simp, List.forall_mem_nil _⟩
  | raised fault => exact ⟨_, by rw [rescue_raised h]; rfl, hh fault _⟩
  | unfinished => exact ⟨[], by rw [rescue_unfinished h]; simp, List.forall_mem_nil _⟩

theorem ensure_tail {last : Run Unit} (hl : last.Leaves P) (w : World) :
    ∃ tail, (Run.ensure m last w).events = (m w).events ++ tail ∧ ∀ e ∈ tail, P e := by
  by_cases h : (m w).outcome = .unfinished
  · exact ⟨[], by rw [ensure_unfinished h]; simp, List.forall_mem_nil _⟩
  · exact ⟨_, ensure_events h last, hl _⟩

theorem bind {f : α → Run β} (hm : m.Leaves P) (hf : ∀ a, (f a).Leaves P) :
    (m >>= f).Leaves P := by
  intro w
  obtain ⟨tail, he, ht⟩ := bind_tail (m := m) hf w
  rw [he]
  exact List.forall_mem_append.2 ⟨hm w, ht⟩

theorem rescue {handler : Fault → Run α} (hm : m.Leaves P)
    (hh : ∀ fault, (handler fault).Leaves P) : (Run.rescue m handler).Leaves P := by
  intro w
  obtain ⟨tail, he, ht⟩ := rescue_tail (m := m) hh w
  rw [he]
  exact List.forall_mem_append.2 ⟨hm w, ht⟩

theorem ensure {last : Run Unit} (hm : m.Leaves P) (hl : last.Leaves P) :
    (Run.ensure m last).Leaves P := by
  intro w
  obtain ⟨tail, he, ht⟩ := ensure_tail (m := m) hl w
  rw [he]
  exact List.forall_mem_append.2 ⟨hm w, ht⟩

theorem hold (container : Option Container) : (Run.hold container).Leaves P :=
  fun _ => List.forall_mem_nil _

end Run.Leaves

end SeededServer
