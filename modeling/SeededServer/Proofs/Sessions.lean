import SeededServer.Proofs.Layers

/-!
# Sessions

At most one session with the server is open at a time, and a session that is open is closed before
anything else is done, whatever ends the operation. `Event.session?` follows the open session from
event to event and refuses an event that is out of place; every operation leads from no open session
to no open session.

## Main definitions

* `sessionAfter` — the session that is open after some events.
* `Run.Keeps` — a run that leaves the open session as it was.
* `Disciplined` — what is thereby known about the sessions in some events.
-/
namespace SeededServer

/-! ## The open session -/

/-- The session that is open after an event, by its database. There is no answer if the event is out
of place: without a session nothing is exchanged in one, and while there is one, nothing else is
connected to, no process is started, and nobody rests. -/
def Event.session? (current : Option String) : Event → Option (Option String)
  | .connect login failure =>
    if current = none then some (if failure.isNone then some login.database else none) else none
  | .rest .. | .command .. => if current = none then some none else none
  | .cursor database _ | .execute database _ _ | .fetch database _ =>
    if current = some database then some current else none
  | .close database _ => if current = some database then some none else none
  | .log .. | .print .. => some current

/-- The session that is open after some events, if all of them are in place. -/
def sessionAfter (current : Option String) (events : List Event) : Option (Option String) :=
  events.foldlM Event.session? current

section Following

variable {current after : Option String} {events first second : List Event} {database : String}

theorem sessionAfter_append (current : Option String) (first second : List Event) :
    sessionAfter current (first ++ second) =
      (sessionAfter current first).bind (sessionAfter · second) :=
  List.foldlM_append

theorem sessionAfter_cons (current : Option String) (e : Event) (events : List Event) :
    sessionAfter current (e :: events) = (e.session? current).bind (sessionAfter · events) :=
  List.foldlM_cons

theorem sessionAfter_close (failure : Option Fault) :
    sessionAfter (some database) [.close database failure] = some none := by
  simp [sessionAfter, Event.session?]

theorem sessionAfter_eq_self (h : ∀ e ∈ events, e.session? current = some current) :
    sessionAfter current events = some current := by
  induction events with
  | nil => rfl
  | cons e rest ih =>
    obtain ⟨he, hrest⟩ := List.forall_mem_cons.1 h
    rw [sessionAfter_cons, he]
    exact ih hrest

theorem Event.IsLocal.session?_eq (e : Event) (h : e.IsLocal) : e.session? none = some none := by
  cases e with
  | log | print | rest | command => rfl
  | _ => exact h.elim

theorem Event.InSession.session?_eq {S : String → Prop} (e : Event) (h : e.InSession database S) :
    e.session? (some database) = some (some database) := by
  cases e with
  | log => rfl
  | cursor | fetch => exact if_pos (congrArg some h.symm)
  | execute => exact if_pos (congrArg some h.1.symm)
  | _ => exact h.elim

end Following

/-! ## Runs that keep the session -/

/-- The run leaves the open session as it was, however it ends. -/
def Run.Keeps {α : Type} (m : Run α) (current : Option String) : Prop :=
  ∀ w, sessionAfter current (m w).events = some current

namespace Run.Keeps

variable {α β : Type} {m : Run α} {current : Option String}

theorem of_leaves {P : Event → Prop} (h : m.Leaves P)
    (hP : ∀ e, P e → e.session? current = some current) : m.Keeps current :=
  fun w => sessionAfter_eq_self fun e he => hP e (h w e he)

/-- Away from the server there is no session before and none after. -/
theorem of_local (h : m.Leaves Event.IsLocal) : m.Keeps none :=
  of_leaves h Event.IsLocal.session?_eq

theorem pure (a : α) : (Pure.pure a : Run α).Keeps current := fun _ => rfl

theorem raise (fault : Fault) : (Run.raise fault : Run α).Keeps current := fun _ => rfl

theorem ofExcept (result : Except Fault α) : (Run.ofExcept result).Keeps current := by
  cases result with
  | ok a => exact pure a
  | error fault => exact raise fault

theorem bind {f : α → Run β} (hm : m.Keeps current) (hf : ∀ a, (f a).Keeps current) :
    (m >>= f).Keeps current := by
  intro w
  cases h : (m w).outcome with
  | done a =>
    rw [bind_done h, Trace.after_events, sessionAfter_append, hm w]
    exact hf a _
  | raised fault => rw [bind_raised h]; exact hm w
  | unfinished => rw [bind_unfinished h]; exact hm w

theorem attempt (hm : m.Keeps current) : (Run.attempt m).Keeps current := by
  intro w
  cases h : (m w).outcome with
  | done a => rw [attempt_done h]; exact hm w
  | raised fault => rw [attempt_raised h]; exact hm w
  | unfinished => rw [attempt_unfinished h]; exact hm w

theorem rescue {handler : Fault → Run α} (hm : m.Keeps current)
    (hh : ∀ fault, (handler fault).Keeps current) : (Run.rescue m handler).Keeps current := by
  refine hm.attempt.bind fun ending => ?_
  cases ending with
  | ok a => exact pure a
  | error fault => exact hh fault

theorem ensure {last : Run Unit} (hm : m.Keeps current) (hl : last.Keeps current) :
    (Run.ensure m last).Keeps current :=
  hm.attempt.bind fun ending => hl.bind fun _ => ofExcept ending

end Run.Keeps

/-! ## Runs that end -/

/-- The run comes to its end in every world. -/
def Run.Ends {α : Type} (m : Run α) : Prop := ∀ w, (m w).outcome ≠ .unfinished

namespace Run.Ends

variable {α β : Type} {m : Run α}

theorem bind {f : α → Run β} (hm : m.Ends) (hf : ∀ a, (f a).Ends) : (m >>= f).Ends := by
  intro w
  cases h : (m w).outcome with
  | done a => rw [bind_done h]; exact hf a _
  | raised fault => rw [bind_raised h]; exact nofun
  | unfinished => exact absurd h (hm w)

theorem mapDriverError {f : Fault → Fault} (hm : m.Ends) : (m.mapDriverError f).Ends := by
  intro w
  rw [mapDriverError_apply]
  cases h : (m w).outcome with
  | unfinished => exact absurd h (hm w)
  | _ => exact nofun

theorem log (level : Level) (text : String) : (Run.log level text).Ends := fun _ => nofun

/-- An exchange that may be refused comes to its end. -/
theorem exchange {step : World → Option Fault × World} {event : Option Fault → Event} :
    (do Run.check (← Run.exchange step event) : Run Unit).Ends := by
  intro w
  cases h : (step w).1 with
  | none => rw [refusable_accepted h]; exact nofun
  | some fault => rw [refusable_refused h]; exact nofun

theorem fetch (database : String) : (Run.fetch database).Ends := by
  intro w
  unfold Run.fetch
  rw [exchange_bind]
  cases w.fetch.1 <;> exact nofun

end Run.Ends

/-- A session is closed after its body. If the close fails, its fault takes the place of how the
body ended. -/
theorem Run.ensure_close {α : Type} {body : Run α} {w : World} (database : String)
    (hends : (body w).outcome ≠ .unfinished) :
    ∃ failure : Option Fault, Run.ensure body (Run.close database) w =
      ⟨failure.elim (body w).outcome .raised, (body w).events ++ [.close database failure],
        (body w).world.close.2⟩ := by
  refine ⟨(body w).world.close.1, ?_⟩
  cases hreply : (body w).world.close.1 with
  | none =>
    have hclosing : Run.close database (body w).world =
        ⟨.done (), [.close database none], (body w).world.close.2⟩ := refusable_accepted hreply
    cases houtcome : (body w).outcome with
    | done a =>
      rw [ensure_done houtcome, bind_done (congrArg Trace.outcome hclosing), hclosing]
      rfl
    | raised fault =>
      rw [ensure_raised houtcome, bind_done (congrArg Trace.outcome hclosing), hclosing]
      rfl
    | unfinished => exact absurd houtcome hends
  | some failure =>
    have hclosing : Run.close database (body w).world =
        ⟨.raised failure, [.close database (some failure)], (body w).world.close.2⟩ :=
      refusable_refused hreply
    cases houtcome : (body w).outcome with
    | done a =>
      rw [ensure_done houtcome, bind_raised (congrArg Trace.outcome hclosing), hclosing]
      rfl
    | raised fault =>
      rw [ensure_raised houtcome, bind_raised (congrArg Trace.outcome hclosing), hclosing]
      rfl
    | unfinished => exact absurd houtcome hends

/-! ## Discipline -/

namespace Event

/-- The event opens a session. -/
def opens : Event → Bool
  | .connect _ none => true
  | _ => false

/-- The event closes a session. -/
def closes : Event → Bool
  | .close .. => true
  | _ => false

/-- What has no place in an open session: a connection, a rest, a process, and the end of one. -/
def breaksSession : Event → Bool
  | .connect .. | .rest .. | .command .. | .close .. => true
  | _ => false

variable {e : Event} {current after : Option String} {database : String}

theorem session?_of_open (h : e.session? (some database) = some after) :
    after = some database ∧ e.breaksSession = false ∨
      after = none ∧ ∃ failure, e = .close database failure := by
  cases e with
  | close name failure =>
    by_cases hname : some database = some name
    · cases hname
      exact .inr ⟨by simpa [session?] using h.symm, failure, rfl⟩
    · simp [session?, hname] at h
  | cursor | execute | fetch =>
    simp only [session?] at h
    split at h
    · exact .inl ⟨(Option.some.inj h).symm, rfl⟩
    · cases h
  | connect | rest | command => simp [session?] at h
  | log | print => exact .inl ⟨(Option.some.inj h).symm, rfl⟩

/-- An event opens a session where there is none, and closes one where there is one. -/
theorem session?_count (h : e.session? current = some after) :
    (if e.opens then 1 else 0) + current.toList.length =
      (if e.closes then 1 else 0) + after.toList.length := by
  cases e with
  | connect login failure =>
    cases current with
    | none => cases failure <;> cases h <;> rfl
    | some name => simp [session?] at h
  | rest | command =>
    cases current <;> cases h
    rfl
  | cursor | execute | fetch =>
    simp only [session?] at h
    split at h <;> cases h
    rfl
  | close name failure =>
    simp only [session?] at h
    split at h
    · rename_i hcurrent
      cases hcurrent
      cases h
      rfl
    · cases h
  | log | print => cases h; rfl

end Event

/-- What is known about the sessions in some events. -/
structure Disciplined (events : List Event) : Prop where
  /-- An opened session is closed before anything else is connected to, rested or started. -/
  closed : ∀ earlier login later, events = earlier ++ .connect login none :: later →
    ∃ inside failure rest, later = inside ++ .close login.database failure :: rest ∧
      ∀ e ∈ inside, e.breaksSession = false
  /-- At no point more sessions were closed than opened, and at most one is open. -/
  balanced : ∀ earlier, earlier <+: events →
    earlier.countP Event.closes ≤ earlier.countP Event.opens ∧
      earlier.countP Event.opens ≤ earlier.countP Event.closes + 1
  /-- In the end no session is open. -/
  settled : events.countP Event.opens = events.countP Event.closes

section Discipline

variable {current after : Option String} {events : List Event} {database : String}

theorem exists_close (h : sessionAfter (some database) events = some none) :
    ∃ inside failure rest, events = inside ++ .close database failure :: rest ∧
      ∀ e ∈ inside, e.breaksSession = false := by
  induction events with
  | nil => cases h
  | cons e events ih =>
    rw [sessionAfter_cons] at h
    obtain ⟨after, hstep, hrest⟩ := Option.bind_eq_some_iff.1 h
    -- As long as an event is not the close, the session is still open for the rest.
    rcases Event.session?_of_open hstep with ⟨rfl, he⟩ | ⟨rfl, failure, rfl⟩
    · obtain ⟨inside, failure, rest, rfl, hinside⟩ := ih hrest
      exact ⟨e :: inside, failure, rest, rfl, List.forall_mem_cons.2 ⟨he, hinside⟩⟩
    · exact ⟨[], failure, events, rfl, List.forall_mem_nil _⟩

theorem count_sessionAfter (h : sessionAfter current events = some after) :
    events.countP Event.opens + current.toList.length =
      events.countP Event.closes + after.toList.length := by
  induction events generalizing current with
  | nil => cases h; rfl
  | cons e events ih =>
    rw [sessionAfter_cons] at h
    obtain ⟨middle, hstep, hrest⟩ := Option.bind_eq_some_iff.1 h
    have hhere := Event.session?_count hstep
    have hlater := ih hrest
    rw [List.countP_cons, List.countP_cons]
    omega

theorem disciplined_of_sessionAfter (h : sessionAfter none events = some none) :
    Disciplined events where
  closed := by
    rintro earlier login later rfl
    rw [sessionAfter_append] at h
    obtain ⟨before, -, h⟩ := Option.bind_eq_some_iff.1 h
    rw [sessionAfter_cons] at h
    obtain ⟨opened, hopen, h⟩ := Option.bind_eq_some_iff.1 h
    simp only [Event.session?] at hopen
    split at hopen <;> cases hopen
    exact exists_close h
  balanced := by
    rintro earlier ⟨later, rfl⟩
    rw [sessionAfter_append] at h
    obtain ⟨middle, hearlier, -⟩ := Option.bind_eq_some_iff.1 h
    have hcount := count_sessionAfter hearlier
    have hmiddle : middle.toList.length ≤ 1 := by cases middle <;> simp
    simp only [Option.toList_none, List.length_nil] at hcount
    omega
  settled := by simpa using count_sessionAfter h

end Discipline

/-! ## The layers -/

namespace Access

variable {access : Access} {database : String}

/-- How an attempt to connect ends: the address is malformed, the connection is refused, or a
session is opened. -/
inductive ConnectEnds (database : String) (w : World) : Trace Unit → Prop where
  | malformed (fault : Fault) : ConnectEnds database w ⟨.raised fault, [], w⟩
  | refused (text : String) (login : Login) (failure fault : Fault) :
      ConnectEnds database w
        ⟨.raised fault, [.log .debug text, .connect login (some failure)], (w.connect login).2⟩
  | opened (text : String) (login : Login) : login.database = database →
      ConnectEnds database w
        ⟨.done (), [.log .debug text, .connect login none], (w.connect login).2⟩

theorem connect_ends (access : Access) (address database : String) (w : World) :
    ConnectEnds database w (access.connect address database w) := by
  unfold connect
  cases Address.split address with
  | error fault => exact .malformed fault
  | ok parts =>
    obtain ⟨host, port⟩ := parts
    simp only [Run.ofExcept, Run.pure_bind, Run.log_bind, orConnectionFailed,
      Run.mapDriverError_apply]
    generalize hlogin : Login.mk host port user access.password database access.loginTimeout
      true = login
    have hdatabase : login.database = database := by rw [← hlogin]
    cases hreply : (w.connect login).1 with
    | none =>
      rw [show Run.connect login w = _ from Run.refusable_accepted hreply]
      exact .opened _ login hdatabase
    | some failure =>
      rw [show Run.connect login w = _ from Run.refusable_refused hreply]
      exact .refused _ login failure _

/-- Whatever happens in a session, it is closed after it. -/
theorem withSession_keeps {α : Type} {body : Run α} {S : String → Prop} (address : String)
    (hends : body.Ends) (h : body.Within (Event.InSession database S)) :
    (access.withSession address database body).Keeps none := by
  have hbody : body.Keeps (some database) := .of_leaves h.leaves Event.InSession.session?_eq
  have hclose (w : World) : sessionAfter (some database) (Run.close database w).events =
      some none := by
    rw [show (Run.close database w).events = _ from Run.refusable_events]
    exact sessionAfter_close _
  intro w
  have hconnect := access.connect_ends address database w
  unfold withSession
  generalize hopening : access.connect address database w = opening at hconnect
  cases hconnect with
  | malformed | refused =>
    rw [Run.bind_raised (congrArg Trace.outcome hopening), hopening]
    rfl
  | opened text login hdatabase =>
    have hopen : sessionAfter none [.log .debug text, .connect login none] =
        some (some database) := congrArg (fun name => some (some name)) hdatabase
    rw [Run.bind_done (congrArg Trace.outcome hopening), hopening, Trace.after_events,
      Run.ensure_events (hends _), sessionAfter_append, hopen]
    change sessionAfter (some database) (_ ++ _) = some none
    rw [sessionAfter_append, hbody]
    exact hclose _

end Access

theorem Liveness.probe_keeps (access : Access) (address : String) :
    (probe access address).Keeps none := by
  have ends : (Access.orConnectionFailed address Access.masterDatabase do
      Run.openCursor Access.masterDatabase
      Run.execute Access.masterDatabase query
      Run.fetch Access.masterDatabase).Ends :=
    (Run.Ends.exchange.bind fun _ => Run.Ends.exchange.bind fun _ => .fetch _).mapDriverError
  refine (Access.withSession_keeps address ends (ask_within address)).bind fun row => ?_
  dsimp only
  split
  · exact .of_local (Run.Within.log trivial).leaves
  · exact .raise _

namespace Seeding

variable (access : Access) (address database : String)

theorem creating_ends : (creating database).Ends :=
  (Run.Ends.exchange.bind fun _ => .exchange).mapDriverError

theorem runFrom_ends (index : Nat) (statements : List String) :
    (runFrom database index statements).Ends := by
  induction statements generalizing index with
  | nil => exact fun _ => nofun
  | cons statement rest ih =>
    refine (Run.Ends.log _ _).bind fun _ => ?_
    exact Run.Ends.exchange.mapDriverError.bind fun _ => ih (index + 1)

theorem createDatabase_keeps : (createDatabase access address database).Keeps none := by
  refine (Access.withSession_keeps address (creating_ends database)
    (creating_within database)).bind fun _ => ?_
  exact .of_local (Run.Within.log trivial).leaves

theorem runStatements_keeps (statements : List String) :
    (runStatements access address database statements).Keeps none := by
  have ends : (applying database statements).Ends :=
    Run.Ends.exchange.bind fun _ => runFrom_ends database 0 statements
  refine (Access.withSession_keeps address ends
    (applying_within database statements)).bind fun _ => ?_
  exact .of_local (Run.Within.log trivial).leaves

theorem prepare_keeps (statements : List String) :
    (prepare access address database statements).Keeps none :=
  (createDatabase_keeps access address database).bind fun _ =>
    runStatements_keeps access address database statements

end Seeding

namespace Readiness

/-- A wait keeps the session if its parts do. -/
theorem poll_keeps {ι δ : Type} {time : Timing Run ι δ} {watch : Watch Run δ} (deadline : ι)
    (hafter : ∀ span, (time.after span).Keeps none) (hrest : ∀ span, (time.rest span).Keeps none)
    (hprobe : watch.probe.Keeps none) (hreport : ∀ n fault, (watch.report n fault).Keeps none)
    (fuel attempt : Nat) (interval : δ) :
    (poll time watch deadline fuel attempt interval).Keeps none := by
  induction fuel generalizing attempt interval with
  | zero => exact .pure Ending.unfinished
  | succ fuel ih =>
    refine hprobe.bind fun answer => ?_
    cases answer with
    | none => exact .pure (Ending.ready attempt)
    | some fault =>
      refine (hafter interval).bind fun instant => ?_
      split
      · exact .pure (Ending.late fault)
      · refine (hreport attempt fault).bind fun _ => ?_
        exact (hrest interval).bind fun _ => ih _ _

theorem await_keeps (interval ceiling : Number) (container : Container) {probe : Run Unit}
    (h : probe.Keeps none) (timeout : Number) :
    (await interval ceiling container probe timeout).Keeps none := by
  have probed : (notReady probe).Keeps none := by
    refine h.attempt.bind fun ending => ?_
    cases ending with
    | ok => exact .pure none
    | error fault =>
      dsimp only
      split
      · exact .pure (some fault)
      · exact .raise fault
  refine (Run.Keeps.of_local (Run.Within.print trivial).leaves).bind fun _ => ?_
  refine (Run.Keeps.of_local (clockAfter_within timeout).leaves).bind fun deadline => ?_
  refine (Run.Keeps.of_local (Run.Within.ask _).leaves).bind fun patience => ?_
  refine (poll_keeps deadline (fun span => .of_local (clockAfter_within span).leaves)
    (fun span => .of_local (Run.Within.rest fun _ => trivial).leaves) probed
    (fun _ _ => .of_local (Run.Within.log trivial).leaves) _ _ _).bind fun ending => ?_
  cases ending with
  | ready attempts =>
    refine .of_local (Run.Within.leaves ?_)
    exact (Run.Within.print trivial).bind fun _ => .log trivial
  | late fault => exact .raise _
  | unfinished => exact fun _ => rfl

end Readiness

namespace Runner

variable (runner : Runner)

theorem bringUp_keeps (container : Container) : (runner.bringUp container).Keeps none := by
  have probed : (runner.config.probe (.ofContainer container)).Keeps none :=
    (Run.Keeps.ofExcept _).bind fun address => Liveness.probe_keeps runner.config.access address
  refine (Readiness.await_keeps _ _ container probed _).bind fun _ => ?_
  refine (Run.Keeps.of_local (Run.Within.print trivial).leaves).bind fun _ => ?_
  exact (Run.Keeps.ofExcept _).bind fun address => Seeding.prepare_keeps _ address _ _

theorem start_keeps : runner.start.Keeps none := by
  have launched := runner.launch_within.leaves.mono Event.OfCommand.isLocal
  refine (Run.Keeps.of_local launched).bind fun container => ?_
  refine Run.Keeps.bind (fun _ => rfl) fun _ => ?_
  refine Run.Keeps.bind ((runner.bringUp_keeps container).rescue fun fault => ?_) fun _ => .pure _
  have cleaned := (runner.cleanUp_leaves container).mono Event.OfCommand.isLocal
  exact (Run.Keeps.of_local cleaned).bind fun _ => .raise fault

theorem run_keeps : runner.run.Keeps none := by
  refine Run.Keeps.ensure (Run.Keeps.rescue ?_ fun fault => ?_) ?_
  · refine (Run.Keeps.of_local (Run.Within.log trivial).leaves).bind fun _ => ?_
    refine runner.start_keeps.bind fun container => .of_local ?_
    exact (runner.followUp_within container).leaves.mono Event.OfCommand.isLocal
  · exact .of_local ((runner.report_within fault).leaves.mono Event.OfProcess.isLocal)
  · split
    · exact .pure ()
    · exact .of_local (runner.stop_leaves.mono Event.OfCommand.isLocal)

end Runner

/-! ## Logins -/

/-- The events log in as the administrator with this password and commit every statement on its own,
to the master database or to this one. -/
def LogsIn (password : WideText) (database : String) (events : List Event) : Prop :=
  ∀ login failure, .connect login failure ∈ events → login.user = "sa" ∧
    login.password = password ∧ login.autocommit = true ∧
      (login.database = "master" ∨ login.database = database)

theorem Event.OfSession.login {access : Access} {name database : String} {S : String → Prop}
    (hname : name = "master" ∨ name = database) {login : Login} {failure : Option Fault}
    (h : (Event.connect login failure).OfSession access name S) :
    login.user = "sa" ∧ login.password = access.password ∧ login.autocommit = true ∧
      (login.database = "master" ∨ login.database = database) := by
  obtain ⟨huser, hpassword, hcommit, hdatabase⟩ := h
  exact ⟨huser, hpassword, hcommit, hdatabase ▸ hname⟩

theorem Seeding.prepare_logsIn (access : Access) (address database : String)
    (statements : List String) (w : World) :
    LogsIn access.password database (prepare access address database statements w).events := by
  intro login failure he
  rcases (prepare_within access address database statements).forall_mem w _ he with h | h
  · exact h.login (.inl rfl)
  · exact h.login (.inr rfl)

theorem Runner.run_logsIn (runner : Runner) (w : World) :
    LogsIn runner.config.password runner.config.database (runner.run w).events := by
  intro login failure he
  rcases runner.run_leaves w _ he with hlocal | hprobe | hmaster | hseeds
  · exact hlocal.elim
  · exact Event.OfSession.login (.inl rfl) hprobe
  · exact hmaster.login (.inl rfl)
  · exact hseeds.login (.inr rfl)

/-- However a run, a probe or a seeding ends, every session it opened was closed, before anything
else was connected to, rested or started; and it logged in as the administrator only, to the master
database or to the configured one. -/
theorem sessions_disciplined :
    (∀ (runner : Runner) (w : World), Disciplined (runner.run w).events ∧
      LogsIn runner.config.password runner.config.database (runner.run w).events) ∧
    (∀ (access : Access) (address : String) (w : World),
      Disciplined (Liveness.probe access address w).events ∧
        LogsIn access.password "master" (Liveness.probe access address w).events) ∧
    ∀ (access : Access) (address database : String) (statements : List String) (w : World),
      Disciplined (Seeding.prepare access address database statements w).events ∧
        LogsIn access.password database
          (Seeding.prepare access address database statements w).events := by
  refine ⟨fun runner w => ⟨?_, runner.run_logsIn w⟩, fun access address w => ⟨?_, ?_⟩,
    fun access address database statements w =>
      ⟨?_, Seeding.prepare_logsIn access address database statements w⟩⟩
  · exact disciplined_of_sessionAfter (runner.run_keeps w)
  · exact disciplined_of_sessionAfter (Liveness.probe_keeps access address w)
  · intro login failure he
    exact ((Liveness.probe_within access address).forall_mem w _ he).login (.inl rfl)
  · exact disciplined_of_sessionAfter (Seeding.prepare_keeps access address database statements w)

end SeededServer
