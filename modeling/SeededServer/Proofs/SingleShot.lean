import SeededServer.Proofs.Sessions
import SeededServer.Proofs.StatementOrder

/-!
# One seeding for each database

A server that keeps a set of databases creates each of them once. From its creation on it knows the
database, whatever else happens to it; and a seeding whose database is known already is refused: it
executes no seed statement and changes no database.

## Main definitions

* `World.Knows` — the server keeps a set of databases, with a given one in it.
* `Later` — a world that another one may lead to, over any history of the server.
* `Seeding.Refused` — what is known about a seeding that finds its database there already.
-/
namespace SeededServer

/-! ## The creating statement -/

@[simp] theorem Text.Bracketed.undouble_double (cs : List Char) : undouble (double cs) = cs := by
  induction cs with
  | nil => rfl
  | cons c rest ih =>
    by_cases hc : c = ']'
    · subst hc
      simp [double, undouble, ih]
    · rw [double, if_neg hc, undouble, ih]
      intro _ hbracket
      exact absurd hbracket hc

theorem World.creationWords_eq : creationWords = "create database ".toList ++ ['['] := by decide

theorem Seeding.creation_toList (database : String) :
    (creation database).toList =
      World.creationWords ++ (Text.Bracketed.double database.toList ++ [']']) := by
  have hquoted (words : String) : (words ++ quotedName database).toList =
      words.toList ++ ['['] ++ (Text.Bracketed.double database.toList ++ [']']) := by
    simp [quotedName, Text.Bracketed.quote]
  rw [World.creationWords_eq]
  exact hquoted _

namespace World

/-- The server reads the name of a database off its creating statement, brackets and all. -/
theorem createdDatabase?_creation (database : String) :
    createdDatabase? (Seeding.creation database) = some database := by
  have hwords : creationWords.isPrefixOf (Seeding.creation database).toList = true := by
    rw [List.isPrefixOf_iff_prefix, Seeding.creation_toList]
    exact List.prefix_append _ _
  unfold createdDatabase?
  dsimp only
  rw [if_pos hwords, Seeding.creation_toList, List.drop_left, List.dropLast_concat,
    Text.Bracketed.undouble_double, String.ofList_toList]

/-- The failure that is scripted for the next execution of a statement. -/
def scriptedFailure (w : World) (statement : String) : Option Fault :=
  w.server.executeFailures.next.1 <|> Entries.get? w.server.failingStatements statement

/-- The server keeps a set of databases, and this one is in it. -/
structure Knows (w : World) (database : String) : Prop where
  stateful : w.server.stateful = true
  known : database ∈ w.databases

variable {w : World} {database statement : String}

theorem execute_scripted {fault : Fault} (h : w.scriptedFailure statement = some fault) :
    (w.execute statement).1 = some fault ∧ (w.execute statement).2.databases = w.databases := by
  simp only [execute, show (_ <|> _) = some fault from h, and_self]

/-- A database that the server knows is not created again. -/
theorem execute_known (hw : w.Knows database)
    (h : w.scriptedFailure (Seeding.creation database) = none) :
    (w.execute (Seeding.creation database)).1 = some (databaseExists database) ∧
      (w.execute (Seeding.creation database)).2.databases = w.databases := by
  simp only [execute, show (_ <|> _) = none from h, hw.stateful, createdDatabase?_creation,
    if_true, List.contains_iff_mem, hw.known, and_self]

/-- The creation of a database that the server knows fails and changes nothing. It is the server's
own refusal, unless another failure is scripted. -/
theorem execute_refused (hw : w.Knows database) :
    ∃ fault, (w.execute (Seeding.creation database)).1 = some fault ∧
      (w.execute (Seeding.creation database)).2.databases = w.databases ∧
      (w.scriptedFailure (Seeding.creation database) = none → fault = databaseExists database) := by
  cases hscript : w.scriptedFailure (Seeding.creation database) with
  | some fault =>
    obtain ⟨hreply, hdatabases⟩ := execute_scripted hscript
    exact ⟨fault, hreply, hdatabases, nofun⟩
  | none =>
    obtain ⟨hreply, hdatabases⟩ := execute_known hw hscript
    exact ⟨_, hreply, hdatabases, fun _ => rfl⟩

/-- A database whose creation succeeds is in the set from then on. -/
theorem execute_created (hw : w.server.stateful = true)
    (h : (w.execute (Seeding.creation database)).1 = none) :
    database ∈ (w.execute (Seeding.creation database)).2.databases := by
  have hscript : w.scriptedFailure (Seeding.creation database) = none := by
    cases hfailure : w.scriptedFailure (Seeding.creation database) with
    | none => rfl
    | some fault => cases (execute_scripted hfailure).1.symm.trans h
  have hnew : database ∉ w.databases := by
    intro hmem
    cases (execute_known ⟨hw, hmem⟩ hscript).1.symm.trans h
  simp only [execute, show (_ <|> _) = none from hscript, hw, createdDatabase?_creation, if_true,
    List.contains_iff_mem, hnew, if_false]
  exact List.mem_append_right _ (List.mem_singleton_self _)

end World

/-! ## What the server goes on knowing -/

namespace Step

variable {u v : World} {e : Event} {database : String}

theorem knows (h : Step u e v) (hu : u.Knows database) : v.Knows database where
  stateful := h.frame.stateful.trans hu.stateful
  known := h.frame.databases.subset hu.known

/-- What the server has created, it knows. -/
theorem knows_of_created {session : String} (h : Step u e v) (hu : u.server.stateful = true)
    (he : e = .execute session (Seeding.creation database) none) : v.Knows database := by
  refine ⟨h.frame.stateful.trans hu, ?_⟩
  cases h with
  | execute name statement =>
    obtain ⟨-, rfl, hreply⟩ := Event.execute.inj he
    exact World.execute_created hu hreply
  | _ => cases he

end Step

namespace History

variable {P : Event → Prop} {u v : World} {events : List Event} {database : String}

theorem knows (h : History P u events v) (hu : u.Knows database) : v.Knows database := by
  induction h with
  | nil => exact hu
  | cons hs _ _ ih => exact ih (hs.knows hu)

theorem knows_of_created {session : String} (h : History P u events v)
    (hu : u.server.stateful = true)
    (he : Event.execute session (Seeding.creation database) none ∈ events) :
    v.Knows database := by
  induction h with
  | nil => cases he
  | cons hs _ hrest ih =>
    rcases List.mem_cons.1 he with heq | hmem
    · exact hrest.knows (hs.knows_of_created hu heq.symm)
    · exact ih (hs.frame.stateful.trans hu) hmem

end History

/-- What may happen to a server: any exchange with it, and any change to the outside that leaves its
databases alone. -/
inductive Later : World → World → Prop where
  | refl (w : World) : Later w w
  | exchange {u v w : World} {e : Event} : Step u e v → Later v w → Later u w
  | change {u v w : World} : v.databases = u.databases →
      v.server.stateful = u.server.stateful → Later v w → Later u w

namespace Later

variable {u v w : World} {database : String}

theorem trans (h : Later u v) (g : Later v w) : Later u w := by
  induction h with
  | refl => exact g
  | exchange hs _ ih => exact .exchange hs (ih g)
  | change hdatabases hstateful _ ih => exact .change hdatabases hstateful (ih g)

theorem of_history {P : Event → Prop} {events : List Event} (h : History P u events v) :
    Later u v := by
  induction h with
  | nil w => exact .refl w
  | cons hs _ _ ih => exact .exchange hs ih

theorem knows (h : Later u v) (hu : u.Knows database) : v.Knows database := by
  induction h with
  | refl => exact hu
  | exchange hs _ ih => exact ih (hs.knows hu)
  | change hdatabases hstateful _ ih =>
    exact ih ⟨hstateful.trans hu.stateful, hdatabases ▸ hu.known⟩

end Later

/-! ## A seeding that is refused -/

/-- After a body that raised a fault, a session raises it too, unless its close fails. -/
theorem Run.ensure_close_raised {α : Type} {body : Run α} {w : World} {fault : Fault}
    (database : String) (h : (body w).outcome = .raised fault) :
    ∃ failure : Option Fault, Run.ensure body (Run.close database) w =
      ⟨.raised (failure.getD fault), (body w).events ++ [.close database failure],
        (body w).world.close.2⟩ := by
  obtain ⟨failure, hclosing⟩ := ensure_close database (by rw [h]; exact nofun)
  rw [hclosing, h]
  exact ⟨failure, by cases failure <;> rfl⟩

namespace Seeding

variable {access : Access} {address database : String} {w : World}

/-- In its session, the creation of a known database raises a fault and changes nothing. -/
theorem creating_refused (hw : w.Knows database) :
    ∃ fault, (creating database w).outcome = .raised fault ∧
      (creating database w).world.databases = w.databases ∧
      (.cursor Access.masterDatabase none ∈ (creating database w).events →
        w.scriptedFailure (creation database) = none →
          fault = creationFailed database (World.databaseExists database)) := by
  unfold creating
  rw [Run.mapDriverError_apply]
  cases hcursor : w.openCursor.1 with
  | some failure =>
    have hopen : Run.openCursor Access.masterDatabase w =
        ⟨.raised failure, [.cursor Access.masterDatabase (some failure)], w.openCursor.2⟩ :=
      Run.refusable_refused hcursor
    rw [Run.bind_raised (congrArg Trace.outcome hopen), hopen]
    exact ⟨_, rfl, rfl, by simp⟩
  | none =>
    have hopen : Run.openCursor Access.masterDatabase w =
        ⟨.done (), [.cursor Access.masterDatabase none], w.openCursor.2⟩ :=
      Run.refusable_accepted hcursor
    have hknown := (Step.cursor Access.masterDatabase w).knows hw
    obtain ⟨failure, hreply, hdatabases, hown⟩ := World.execute_refused hknown
    have hexecute : Run.execute Access.masterDatabase (creation database) w.openCursor.2 = _ :=
      Run.refusable_refused hreply
    rw [Run.bind_done (congrArg Trace.outcome hopen), hopen, hexecute]
    refine ⟨_, rfl, hdatabases, fun _ hscript => ?_⟩
    rw [hown hscript]
    rfl

/-- So does the whole session. Its fault is the server's own refusal if nothing else failed. -/
theorem creationSession_refused (access : Access) (address : String) (hw : w.Knows database) :
    let session := access.withSession address Access.masterDatabase (creating database) w
    ∃ fault, session.outcome = .raised fault ∧ session.world.databases = w.databases ∧
      ((∃ login, .connect login none ∈ session.events) →
        .cursor Access.masterDatabase none ∈ session.events →
        .close Access.masterDatabase none ∈ session.events →
        w.scriptedFailure (creation database) = none →
          fault = creationFailed database (World.databaseExists database)) := by
  have hconnect := access.connect_ends address Access.masterDatabase w
  unfold Access.withSession
  generalize hopening : access.connect address Access.masterDatabase w = opening at hconnect
  cases hconnect with
  | malformed fault =>
    rw [Run.bind_raised (congrArg Trace.outcome hopening), hopening]
    exact ⟨fault, rfl, rfl, by simp⟩
  | refused text login failure fault =>
    rw [Run.bind_raised (congrArg Trace.outcome hopening), hopening]
    exact ⟨fault, rfl, rfl, by simp⟩
  | opened text login =>
    rw [Run.bind_done (congrArg Trace.outcome hopening), hopening]
    obtain ⟨fault, hraised, hdatabases, hown⟩ := creating_refused ((Step.connect login w).knows hw)
    have hinside := (creating_within database).forall_mem (w.connect login).2
    obtain ⟨failure, hclosing⟩ := Run.ensure_close_raised Access.masterDatabase hraised
    dsimp only
    rw [hclosing]
    generalize creating database (w.connect login).2 = body at hdatabases hown hinside
    cases failure with
    | none =>
      refine ⟨fault, rfl, hdatabases, fun _ hcursor _ hscript => hown ?_ hscript⟩
      simpa using hcursor
    | some failure =>
      refine ⟨failure, rfl, hdatabases, fun _ _ hclosed => ?_⟩
      -- The only close in the session is the one that failed.
      have hbody : .close Access.masterDatabase none ∈ body.events := by simpa using hclosed
      exact (hinside _ hbody).elim

/-- A seeding that cannot create its database goes no further. -/
theorem prepare_of_session_raised (statements : List String) {fault : Fault}
    (h : (access.withSession address Access.masterDatabase (creating database) w).outcome =
      .raised fault) :
    prepare access address database statements w =
      access.withSession address Access.masterDatabase (creating database) w := by
  have hcreate : createDatabase access address database w =
      access.withSession address Access.masterDatabase (creating database) w := by
    change (access.withSession address Access.masterDatabase (creating database) >>= fun _ =>
      Run.log .info ("Created database " ++ database)) w = _
    rw [Run.bind_raised h, ← h]
  unfold prepare
  rw [Run.bind_raised (by rw [hcreate, h]), hcreate, ← h]

/-- What is known about a seeding, in a world where its database is there already. -/
structure Refused (database : String) (w : World) (seeding : Trace Unit) : Prop where
  raises : ∃ fault, seeding.outcome = .raised fault
  /-- Nothing but the creation is executed, at most once. -/
  executes : executed seeding.events <+: [(Access.masterDatabase, creation database)]
  connects : connected seeding.events <+: [Access.masterDatabase]
  databases : seeding.world.databases = w.databases
  /-- If nothing else fails, the fault is that of a database that cannot be created, and is caused
  by the refusal of the server's driver. -/
  refusal : (∃ login, .connect login none ∈ seeding.events) →
    .cursor Access.masterDatabase none ∈ seeding.events →
    .close Access.masterDatabase none ∈ seeding.events →
    w.scriptedFailure (creation database) = none →
      seeding.outcome = .raised (creationFailed database (World.databaseExists database))

theorem prepare_refused (access : Access) (address : String) (statements : List String)
    (hw : w.Knows database) :
    Refused database w (prepare access address database statements w) := by
  obtain ⟨fault, hraised, hdatabases, hown⟩ := creationSession_refused access address hw
  rw [prepare_of_session_raised statements hraised]
  have hexecutes : (access.withSession address Access.masterDatabase (creating database)).Follows
      Event.statement? [(Access.masterDatabase, creation database)] :=
    withSession_follows access address _ (creating_follows database)
  have hconnects : (access.withSession address Access.masterDatabase (creating database)).Follows
      Event.connection? [Access.masterDatabase] :=
    withSession_connects access address _ (creating_within database)
  exact {
    raises := ⟨fault, hraised⟩
    executes := (hexecutes.progress w).map_fst
    connects := (hconnects.progress w).map_fst
    databases := hdatabases
    refusal := fun hconnect hcursor hclose hscript => by
      rw [hraised, hown hconnect hcursor hclose hscript] }

/-- Once a seeding has created its database on a server that keeps a set of them, every later
seeding of that database is refused, whatever happens in between and whatever the statements
are. -/
theorem prepare_singleShot {access : Access} {address database : String}
    {statements : List String} {w v : World} (hserver : w.server.stateful = true)
    (hcreated : .execute Access.masterDatabase (creation database) none ∈
      (prepare access address database statements w).events)
    (hlater : Later (prepare access address database statements w).world v)
    (again : Access) (address' : String) (statements' : List String) :
    Refused database v (prepare again address' database statements' v) := by
  have hhistory := prepare_within access address database statements w
  have hknown := hhistory.knows_of_created hserver hcreated
  exact prepare_refused again address' statements' (hlater.knows hknown)

/-- A seeding of a shop, on a server that keeps a set of databases. Its own statement creates
another one. -/
def shopSeeding : Trace Unit :=
  prepare { password := "secret" } "127.0.0.1:1433" "shop" ["create database [ware]]house]"]
    { server := { stateful := true } }

/-- The seeding of a depot on the same server, after that of the shop. -/
def depotSeeding : Trace Unit :=
  prepare { password := "secret" } "127.0.0.1:1433" "depot" [] shopSeeding.world

/-- Later the server opens no session with the shop any more. -/
def closedShop : World :=
  { depotSeeding.world with
    server := { depotSeeding.world.server with
      failingDatabases := [("shop", .other .driver "login failed")] } }

/-- The shop is not seeded twice: its creation is refused, and no statement is tried. -/
theorem shop_seeded_once :
    .execute Access.masterDatabase (creation "shop") none ∈ shopSeeding.events ∧
      Later shopSeeding.world closedShop ∧
      Refused "shop" closedShop
        (prepare { password := "other" } "127.0.0.1:1433" "shop" ["drop table item"] closedShop) ∧
      (prepare { password := "other" } "127.0.0.1:1433" "shop" ["drop table item"]
        closedShop).outcome =
          .raised (creationFailed "shop" (World.databaseExists "shop")) := by
  have hcreated : .execute Access.masterDatabase (creation "shop") none ∈ shopSeeding.events :=
    List.mem_of_getElem? (i := 3) rfl
  have hlater : Later shopSeeding.world closedShop := by
    have hdepot : Later shopSeeding.world depotSeeding.world :=
      .of_history (prepare_within { password := "secret" } "127.0.0.1:1433" "depot" [] _)
    have hclosed : Later depotSeeding.world closedShop :=
      @Later.change depotSeeding.world closedShop closedShop rfl rfl (.refl closedShop)
    exact hdepot.trans hclosed
  have hrefused := prepare_singleShot rfl hcreated hlater { password := "other" }
    "127.0.0.1:1433" ["drop table item"]
  refine ⟨hcreated, hlater, hrefused, hrefused.refusal ?_ ?_ ?_ rfl⟩
  · exact ⟨_, List.mem_of_getElem? (i := 1) rfl⟩
  · exact List.mem_of_getElem? (i := 2) rfl
  · exact List.mem_of_getElem? (i := 4) rfl

end Seeding

end SeededServer
