import SeededServer.Proofs.Ready
import SeededServer.Proofs.Script

/-!
# The order of statements

A run of a preset first probes the server, then creates the database, then runs the seed statements
in order, and leaves this course at the first failure. The database is created only after a probe
that the server answered with the integer 1, and the seeds run only after the database was created.

## Main definitions

* `Config.seedScript` — the statements that create and seed a database.
* `Course` — events of probes, followed by events that come some way with the seeding.
-/
namespace SeededServer

/-! ## Views of events -/

namespace Event

/-- The statement that an event executes, with its database, and how it went. -/
def statement? : Event → Option ((String × String) × Option Fault)
  | .execute database statement failure => some ((database, statement), failure)
  | _ => none

/-- The database that an event connects to, and how it went. -/
def connection? : Event → Option (String × Option Fault)
  | .connect login failure => some (login.database, failure)
  | _ => none

theorem IsLocal.statement?_eq (e : Event) (h : e.IsLocal) : e.statement? = none := by
  cases e with
  | execute => exact h.elim
  | _ => rfl

theorem IsLocal.connection?_eq (e : Event) (h : e.IsLocal) : e.connection? = none := by
  cases e with
  | connect => exact h.elim
  | _ => rfl

theorem InSession.connection?_eq {database : String} {S : String → Prop} (e : Event)
    (h : e.InSession database S) : e.connection? = none := by
  cases e with
  | connect => exact h.elim
  | _ => rfl

theorem OfSession.statement?_eq {access : Access} {database : String} (e : Event)
    (h : e.OfSession access database fun _ => False) : e.statement? = none := by
  cases e with
  | execute => exact h.2.elim
  | _ => rfl

end Event

/-- The statements that were executed, each with its database. -/
def executed (events : List Event) : List (String × String) :=
  (tries Event.statement? events).map Prod.fst

/-- The databases that were connected to. -/
def connected (events : List Event) : List String :=
  (tries Event.connection? events).map Prod.fst

theorem exists_of_mem_executed {events : List Event} {database statement : String}
    (h : (database, statement) ∈ executed events) :
    ∃ failure, Event.execute database statement failure ∈ events := by
  obtain ⟨entry, hentry, hfst⟩ := List.mem_map.1 h
  obtain ⟨e, he, hview⟩ := List.mem_filterMap.1 hentry
  cases e with
  | execute name text failure =>
    cases hview
    cases hfst
    exact ⟨failure, he⟩
  | _ => cases hview

/-! ## Seeding -/

namespace Seeding

variable (access : Access) (address database : String)

theorem execute_follows (statement : String) :
    (Run.execute database statement).Follows Event.statement? [(database, statement)] :=
  .exchange fun _ => rfl

/-- A session adds no statement to those of its body. -/
theorem withSession_follows {α : Type} {body : Run α} {script : List (String × String)}
    (h : body.Follows Event.statement? script) :
    (access.withSession address database body).Follows Event.statement? script := by
  have opening : (access.connect address database).Follows Event.statement? [] :=
    .silent ((Access.connect_within address).mono Event.OfSession.statement?_eq)
  exact opening.silent_bind fun _ => h.ensure (.silent (.close fun _ => rfl))

/-- A session is one connection, if its body does not connect. -/
theorem withSession_connects {α : Type} {body : Run α} {S : String → Prop}
    (h : body.Within (Event.InSession database S)) :
    (access.withSession address database body).Follows Event.connection? [database] := by
  have opening : (access.connect address database).Follows Event.connection? [database] := by
    refine (Run.Follows.silent (.ofExcept _)).silent_bind fun (host, port) => ?_
    refine (Run.Follows.silent (.log rfl)).silent_bind fun _ => ?_
    exact (Run.Follows.exchange fun _ => rfl).mapDriverError
  refine opening.bind_silent fun _ => ?_
  exact (Run.Follows.silent (h.mono Event.InSession.connection?_eq)).ensure
    (.silent (.close fun _ => rfl))

theorem creating_follows :
    (creating database).Follows Event.statement? [(Access.masterDatabase, creation database)] := by
  refine Run.Follows.mapDriverError ?_
  refine (Run.Follows.silent (.openCursor fun _ => rfl)).silent_bind fun _ => ?_
  exact execute_follows Access.masterDatabase (creation database)

theorem createDatabase_follows :
    (createDatabase access address database).Follows Event.statement?
      [(Access.masterDatabase, creation database)] := by
  refine (withSession_follows access address _ (creating_follows database)).bind_silent fun _ => ?_
  exact .silent (.log rfl)

theorem createDatabase_connects :
    (createDatabase access address database).Follows Event.connection? [Access.masterDatabase] :=
  (withSession_connects access address _ (creating_within database)).bind_silent fun _ =>
    .silent (.log rfl)

/-- The seed statements run in order, up to the first that fails. -/
theorem runFrom_follows (index : Nat) (statements : List String) :
    (runFrom database index statements).Follows Event.statement?
      (statements.map (database, ·)) := by
  induction statements generalizing index with
  | nil => exact .silent (.pure ())
  | cons statement rest ih =>
    refine (Run.Follows.silent (.log rfl)).silent_bind fun _ => ?_
    exact (execute_follows database statement).mapDriverError.bind fun _ => ih (index + 1)

theorem runStatements_follows (statements : List String) :
    (runStatements access address database statements).Follows Event.statement?
      (statements.map (database, ·)) := by
  have body : (applying database statements).Follows Event.statement?
      (statements.map (database, ·)) :=
    (Run.Follows.silent (.openCursor fun _ => rfl)).silent_bind fun _ =>
      runFrom_follows database 0 statements
  exact (withSession_follows access address _ body).bind_silent fun _ => .silent (.log rfl)

theorem runStatements_connects (statements : List String) :
    (runStatements access address database statements).Follows Event.connection? [database] :=
  (withSession_connects access address _ (applying_within database statements)).bind_silent fun _ =>
    .silent (.log rfl)

end Seeding

namespace Config

/-- The statements that create and seed the configured database. -/
def seedScript (config : Config) : List (String × String) :=
  (Access.masterDatabase, Seeding.creation config.database) ::
    config.queries.map (config.database, ·)

variable (config : Config) (endpoint : Endpoint)

theorem seed_follows (h : ∀ name, (endpoint.address name).Within (Event.statement? · = none)) :
    (config.seed endpoint).Follows Event.statement? config.seedScript := by
  refine (Run.Follows.silent (h _)).silent_bind fun address => ?_
  exact (Seeding.createDatabase_follows _ address _).bind fun _ =>
    Seeding.runStatements_follows _ address _ _

theorem seed_connects (h : ∀ name, (endpoint.address name).Within (Event.connection? · = none)) :
    (config.seed endpoint).Follows Event.connection?
      [Access.masterDatabase, config.database] := by
  refine (Run.Follows.silent (h _)).silent_bind fun address => ?_
  exact (Seeding.createDatabase_connects _ address _).bind fun _ =>
    Seeding.runStatements_connects _ address _ _

end Config

/-! ## The course of a run -/

/-- Events of probes, and events that come some way with the seeding. -/
structure Course (config : Config) (probing seeding : List Event) : Prop where
  /-- Probes ask nothing but the liveness query. -/
  probes : ∀ statement ∈ executed probing, statement = (Access.masterDatabase, Liveness.query)
  /-- The seeding is left at the first failure. -/
  seeds : Progress config.seedScript (tries Event.statement? seeding)
  /-- The seeding opens its own sessions only. -/
  sessions : Progress [Access.masterDatabase, config.database] (tries Event.connection? seeding)
  /-- There is no seeding before a probe has passed. -/
  ready : tries Event.statement? seeding ≠ [] → EndsReady probing

/-- The events run a course, to its end if `whole`. -/
def RunsCourse (config : Config) (whole : Prop) (events : List Event) : Prop :=
  ∃ probing seeding, events = probing ++ seeding ∧ Course config probing seeding ∧
    (whole → tries Event.statement? seeding = config.seedScript.map (·, none))

/-- Nothing is tried away from the server. -/
theorem tries_local {γ : Type} {view : Event → Option (γ × Option Fault)}
    (hview : ∀ e, e.IsLocal → view e = none) {events : List Event}
    (h : ∀ e ∈ events, e.IsLocal) : tries view events = [] := by
  rw [List.filterMap_eq_nil_iff]
  exact fun e he => hview e (h e he)

theorem tries_append_local {γ : Type} {view : Event → Option (γ × Option Fault)}
    (hview : ∀ e, e.IsLocal → view e = none) (events : List Event) {after : List Event}
    (h : ∀ e ∈ after, e.IsLocal) : tries view (events ++ after) = tries view events := by
  rw [tries, List.filterMap_append, ← tries, ← tries, tries_local hview h, List.append_nil]

namespace RunsCourse

variable {config : Config} {whole : Prop} {events : List Event}

theorem of_local (h : ∀ e ∈ events, e.IsLocal) (hw : ¬whole) :
    RunsCourse config whole events := by
  refine ⟨events, [], (List.append_nil _).symm, ⟨?_, .nil, .nil, fun hne => absurd rfl hne⟩,
    fun h => absurd h hw⟩
  simp [executed, tries_local Event.IsLocal.statement?_eq h]

theorem mono {whole' : Prop} (h : RunsCourse config whole events) (hw : whole' → whole) :
    RunsCourse config whole' events := by
  obtain ⟨probing, seeding, he, hc, hall⟩ := h
  exact ⟨probing, seeding, he, hc, hall ∘ hw⟩

/-- What happens before a course away from the server does not change it. -/
theorem prepend (h : RunsCourse config whole events) {before : List Event}
    (hb : ∀ e ∈ before, e.IsLocal) : RunsCourse config whole (before ++ events) := by
  obtain ⟨probing, seeding, rfl, hc, hall⟩ := h
  refine ⟨before ++ probing, seeding, by simp, ⟨?_, hc.seeds, hc.sessions, ?_⟩, hall⟩
  · simpa [executed, tries_local Event.IsLocal.statement?_eq hb] using hc.probes
  · exact fun hne => (hc.ready hne).prepend before

/-- Nor does what happens after it. -/
theorem append (h : RunsCourse config whole events) {after : List Event}
    (ha : ∀ e ∈ after, e.IsLocal) : RunsCourse config whole (events ++ after) := by
  obtain ⟨probing, seeding, rfl, hc, hall⟩ := h
  have hs := tries_append_local Event.IsLocal.statement?_eq seeding ha
  have hn := tries_append_local Event.IsLocal.connection?_eq seeding ha
  refine ⟨probing, seeding ++ after, by simp, ⟨hc.probes, ?_, ?_, ?_⟩, ?_⟩
  · rw [hs]
    exact hc.seeds
  · rw [hn]
    exact hc.sessions
  · rw [hs]
    exact hc.ready
  · rw [hs]
    exact hall

variable {α β : Type} {m : Run α} {w : World}

theorem bind {f : α → Run β} (h : RunsCourse config whole (m w).events)
    (hf : ∀ a, (f a).Leaves Event.IsLocal) :
    RunsCourse config whole ((m >>= f) w).events := by
  obtain ⟨tail, he, htail⟩ := Run.Leaves.bind_tail (m := m) hf w
  exact he ▸ h.append htail

theorem rescue {handler : Fault → Run α} (h : RunsCourse config whole (m w).events)
    (hh : ∀ fault, (handler fault).Leaves Event.IsLocal) :
    RunsCourse config whole (Run.rescue m handler w).events := by
  obtain ⟨tail, he, htail⟩ := Run.Leaves.rescue_tail (m := m) hh w
  exact he ▸ h.append htail

theorem ensure {last : Run Unit} (h : RunsCourse config whole (m w).events)
    (hl : last.Leaves Event.IsLocal) :
    RunsCourse config whole (Run.ensure m last w).events := by
  obtain ⟨tail, he, htail⟩ := Run.Leaves.ensure_tail (m := m) hl w
  exact he ▸ h.append htail

end RunsCourse

namespace Runner

variable (runner : Runner)

theorem waitUntilReady_executed (container : Container) (w : World) :
    ∀ statement ∈ executed (runner.docker.waitUntilReady container
      (runner.config.probe (.ofContainer container)) (.real runner.config.waitTimeout) w).events,
      statement = (Access.masterDatabase, Liveness.query) := by
  rintro ⟨database, statement⟩ h
  obtain ⟨failure, he⟩ := exists_of_mem_executed h
  rcases (runner.waitUntilReady_within container).forall_mem w _ he with hcalm | hprobe
  · exact hcalm.elim
  · exact Prod.ext hprobe.1 hprobe.2

/-- Bringing a container up runs a course, to its end if it succeeds. -/
theorem bringUp_course (container : Container) (w : World) :
    RunsCourse runner.config ((runner.bringUp container w).outcome = .done ())
      (runner.bringUp container w).events := by
  have probes := runner.waitUntilReady_executed container w
  have asked := runner.waitUntilReady_concludes container w
  unfold bringUp
  generalize runner.docker.waitUntilReady container
    (runner.config.probe (.ofContainer container)) (.real runner.config.waitTimeout) = wait
    at probes asked ⊢
  have unseeded : Course runner.config (wait w).events [] :=
    ⟨probes, .nil, .nil, fun hne => absurd rfl hne⟩
  cases h : (wait w).outcome with
  | done =>
    obtain ⟨earlier, last, he, hready⟩ := asked () h
    have idle : ∀ e ∈ [Event.print "[blue]Initializing database...[/blue]"], e.IsIdle := by
      simp [Event.IsIdle, Event.OfProcess]
    have unseen := tries_local Event.IsLocal.statement?_eq fun e he => (idle e he).isLocal
    have seeds := runner.config.seed_follows (.ofContainer container) fun _ => .ofExcept _
    have sessions := runner.config.seed_connects (.ofContainer container) fun _ => .ofExcept _
    rw [Run.bind_done h, Run.print_bind]
    refine ⟨_, _, (List.append_assoc ..).symm, ⟨?_, seeds.progress _, sessions.progress _, ?_⟩,
      seeds.complete _ ()⟩
    · simpa [executed, unseen] using probes
    · intro _
      rw [he]
      exact (hready.prepend earlier).append_idle idle
  | raised fault =>
    rw [Run.bind_raised h]
    exact ⟨_, [], (List.append_nil _).symm, unseeded, by simp⟩
  | unfinished =>
    rw [Run.bind_unfinished h]
    exact ⟨_, [], (List.append_nil _).symm, unseeded, by simp⟩

/-- Starting a container runs a course, to its end if it succeeds. -/
theorem start_course (w : World) :
    RunsCourse runner.config (∃ container, (runner.start w).outcome = .done container)
      (runner.start w).events := by
  have launched := (runner.launch_within.mono Event.OfCommand.isLocal).forall_mem w
  unfold start
  cases h : (runner.launch w).outcome with
  | done container =>
    have course := runner.bringUp_course container
      { (runner.launch w).world with held := some container }
    rw [Run.bind_done h, Run.hold_bind, Trace.after_events, Trace.after_outcome]
    refine RunsCourse.prepend (.bind (.rescue (course.mono ?_) ?_) ?_) launched
    · rintro ⟨_, hdone⟩
      obtain ⟨_, hdone, -, -⟩ := Run.of_bind_done hdone
      exact Run.of_rescue_done (fun _ _ => Run.bind_raise_ne_done) hdone
    · intro fault
      have cleaned := (runner.cleanUp_leaves container).mono Event.OfCommand.isLocal
      exact cleaned.bind fun _ => (Run.Within.raise fault).leaves
    · exact fun _ => (Run.Within.pure container).leaves
  | raised fault =>
    rw [Run.bind_raised h]
    exact .of_local launched (by simp)
  | unfinished =>
    rw [Run.bind_unfinished h]
    exact .of_local launched (by simp)

/-- Serving runs the course of the start. -/
theorem serve_course (w : World) :
    RunsCourse runner.config (∃ container, (runner.start w).outcome = .done container)
      (runner.serve w).events := by
  unfold serve
  rw [Run.log_bind, Trace.after_events]
  refine RunsCourse.prepend (.bind (runner.start_course w) fun container => ?_)
    (by simp [Event.IsLocal, Event.OfProcess])
  exact ((runner.followUp_within container).mono Event.OfCommand.isLocal).leaves

/-- A run runs the course of the start. -/
theorem run_course (w : World) :
    RunsCourse runner.config (∃ container, (runner.start w).outcome = .done container)
      (runner.run w).events := by
  unfold run
  refine .ensure (.rescue (runner.serve_course w) fun fault => ?_) ?_
  · exact ((runner.report_within fault).mono Event.OfProcess.isLocal).leaves
  · split
    · exact (Run.Within.pure ()).leaves
    · exact runner.stop_leaves.mono Event.OfCommand.isLocal

/-- A run probes the server, then creates the database, then runs the queries in order. It creates
the database only after a probe that the server answered with the integer 1, and with no probe in
between; it runs a query only after the database was created; and if the start succeeds, then
nothing is left out. -/
theorem run_executes_in_order (w : World) :
    ∃ probing seeding, ∃ probes seeds : Nat, ∃ creating : Bool,
      (runner.run w).events = probing ++ seeding ∧
      executed probing = List.replicate probes (Access.masterDatabase, Liveness.query) ∧
      executed seeding =
        (if creating then
          [(Access.masterDatabase, Seeding.creation runner.config.database)] else []) ++
          (runner.config.queries.take seeds).map (runner.config.database, ·) ∧
      seeds ≤ runner.config.queries.length ∧
      connected seeding <+: [Access.masterDatabase, runner.config.database] ∧
      (creating → EndsReady probing) ∧
      (0 < seeds → creating ∧ (tries Event.statement? seeding).head? =
        some ((Access.masterDatabase, Seeding.creation runner.config.database), none)) ∧
      ((∃ container, (runner.start w).outcome = .done container) →
        creating ∧ seeds = runner.config.queries.length) := by
  obtain ⟨probing, seeding, hevents, course, hall⟩ := runner.run_course w
  have asked : executed probing =
      List.replicate (executed probing).length (Access.masterDatabase, Liveness.query) :=
    List.eq_replicate_of_mem course.probes
  have sessions : connected seeding <+: [Access.masterDatabase, runner.config.database] :=
    course.sessions.map_fst
  rcases course.seeds.cons_cases with hnone | ⟨failure, rest, hsome, hfailure, hrest⟩
  · -- Nothing was seeded, so the start cannot have succeeded either.
    refine ⟨probing, seeding, _, 0, false, hevents, asked, ?_, Nat.zero_le _, sessions, ?_⟩
    · simp [executed, hnone]
    · simp [hnone, Config.seedScript] at hall ⊢
      exact hall
  · have hseeds : executed seeding =
        [(Access.masterDatabase, Seeding.creation runner.config.database)] ++
          (runner.config.queries.take rest.length).map (runner.config.database, ·) := by
      rw [executed, hsome, List.map_cons, List.prefix_iff_eq_take.1 hrest, List.length_map,
        List.map_take]
      rfl
    refine ⟨probing, seeding, _, rest.length, true, hevents, asked, hseeds,
      by simpa using hrest.length_le, sessions, ?_, ?_, ?_⟩
    · intro _
      exact course.ready (by simp [hsome])
    · intro hpos
      rw [hfailure (List.ne_nil_of_length_pos hpos)] at hsome
      exact ⟨rfl, by rw [hsome]; rfl⟩
    · intro hstart
      have whole := congrArg List.length (hsome.symm.trans (hall hstart))
      exact ⟨rfl, by simpa [Config.seedScript] using whole⟩

/-- A preset for a shop. -/
def shop : Config :=
  { database := "shop", password := "secret", queries := ["create table item (id int)"],
    license := true, port := Config.serverPort, version := none, waitTimeout := 60 }

/-- A machine that starts containers, and where the user loses patience when logs are read. -/
def machine : World :=
  { processes := [("docker run", [{ reply := .ok (0, "c1\n", "") }]),
      ("docker port", [{ reply := .ok (0, "127.0.0.1:49153\n", "") }]),
      ("docker logs", [{ reply := .error .interruption }])] }

/-- The container that it starts for the shop. -/
def shopContainer : Container :=
  { runId := "0123456789", name := "mssqlpreset_0123456789", containerId := "c1",
    host := "127.0.0.1", ports := [(Container.defaultPort, 49153)] }

/-- A password from a byte of the command line that is no UTF-8. -/
def strayByte : WideText := ⟨"", [(0x4FF, "")]⟩

example : executed (run { config := shop } machine).events =
    [("master", "select 1"), ("master", "create database [shop]"),
      ("shop", "create table item (id int)")] := by decide +kernel

end Runner

end SeededServer
