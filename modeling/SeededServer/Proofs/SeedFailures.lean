import SeededServer.Proofs.Progress
import SeededServer.Proofs.Sessions

/-!
# Failures of a seeding

A seeding stops at its first failure and reports it. What it exchanges with the server up to there
is known in full: which sessions it opens, which statements it executes, and how each of them went.
A failure of the driver's own is wrapped in the fault of the stage that it belongs to; any other is
passed on as it is.

The closing of a session may fail as well, and its fault then takes the place of all others. Here
every session is closed without a failure.

## Main definitions

* `dialogue` — the exchanges with the server among some events.
* `Seeding.Ends` — how a seeding ends, and what it exchanged before.
-/
namespace SeededServer

/-! ## The dialogue with the server -/

namespace Event

/-- A request to the server. -/
def isDialogue : Event → Bool
  | .connect .. | .cursor .. | .execute .. | .fetch .. | .close .. => true
  | _ => false

/-- The close of a session that failed. -/
def isFailedClose : Event → Bool
  | .close _ (some _) => true
  | _ => false

end Event

/-- The exchanges with the server among some events. -/
def dialogue (events : List Event) : List Event := events.filter Event.isDialogue

@[simp] theorem dialogue_nil : dialogue [] = [] := rfl

@[simp] theorem dialogue_append (first second : List Event) :
    dialogue (first ++ second) = dialogue first ++ dialogue second := List.filter_append _ _

@[simp] theorem dialogue_log (level : Level) (text : String) (events : List Event) :
    dialogue (.log level text :: events) = dialogue events := rfl

@[simp] theorem dialogue_connect (login : Login) (failure : Option Fault) (events : List Event) :
    dialogue (.connect login failure :: events) = .connect login failure :: dialogue events := rfl

@[simp] theorem dialogue_cursor (database : String) (failure : Option Fault)
    (events : List Event) :
    dialogue (.cursor database failure :: events) = .cursor database failure :: dialogue events :=
  rfl

@[simp] theorem dialogue_execute (database statement : String) (failure : Option Fault)
    (events : List Event) :
    dialogue (.execute database statement failure :: events) =
      .execute database statement failure :: dialogue events := rfl

@[simp] theorem dialogue_fetch (database : String) (reply : Except Fault (Option Row))
    (events : List Event) :
    dialogue (.fetch database reply :: events) = .fetch database reply :: dialogue events := rfl

@[simp] theorem dialogue_close (database : String) (failure : Option Fault)
    (events : List Event) :
    dialogue (.close database failure :: events) = .close database failure :: dialogue events :=
  rfl

/-- A fault of the driver's own as it is reported; any other as it is. -/
def Fault.reported (f : Fault → Fault) (fault : Fault) : Fault :=
  if fault.isDriver then f fault else fault

theorem Run.mapDriverError_outcome_raised {α : Type} {m : Run α} {f : Fault → Fault} {w : World}
    {fault : Fault} (h : (m w).outcome = .raised fault) :
    (m.mapDriverError f w).outcome = .raised (fault.reported f) := by
  rw [mapDriverError_apply, h]
  rfl

/-- A record at the end changes neither the dialogue nor how a run ends. -/
theorem Run.bind_log {m : Run Unit} (level : Level) (text : String) (w : World) :
    dialogue ((m >>= fun _ => log level text) w).events = dialogue (m w).events ∧
      ((m >>= fun _ => log level text) w).outcome = (m w).outcome := by
  cases h : (m w).outcome with
  | done value =>
    rw [bind_done h]
    exact ⟨by simp [log, tell], rfl⟩
  | raised fault =>
    rw [bind_raised h]
    exact ⟨rfl, rfl⟩
  | unfinished =>
    rw [bind_unfinished h]
    exact ⟨rfl, rfl⟩

/-! ## Sessions -/

namespace Access

variable (access : Access) {address host port : String} (database : String)

/-- The login to a database at a host. -/
def login (host port : String) : Login where
  server := host
  port := port
  user := user
  password := access.password
  database := database
  timeout := access.loginTimeout
  autocommit := true

theorem connect_wellFormed (haddress : Address.split address = .ok (host, port)) (w : World) :
    dialogue (access.connect address database w).events
        = [.connect (access.login database host port)
            (w.connect (access.login database host port)).1] ∧
      (access.connect address database w).outcome =
        (match (w.connect (access.login database host port)).1 with
          | none => .done ()
          | some fault => .raised (fault.reported (Advice.connectionFailed address database))) := by
  have hconnect : access.connect address database w =
      (orConnectionFailed address database
        (Run.connect (access.login database host port)) w).after
          [.log .debug ("Connecting to " ++ database ++ " at " ++ address ++ " as " ++ user)] := by
    unfold connect
    rw [haddress]
    rfl
  rw [hconnect]
  unfold orConnectionFailed
  constructor
  · rw [Trace.after_events, Run.mapDriverError_events,
      show (Run.connect (access.login database host port) w).events = _ from Run.refusable_events]
    rfl
  · rw [Trace.after_outcome]
    cases hreply : (w.connect (access.login database host port)).1 with
    | none =>
      have hopen : Run.connect (access.login database host port) w = _ :=
        Run.refusable_accepted hreply
      exact Run.mapDriverError_done.2 (congrArg Trace.outcome hopen)
    | some fault =>
      have hrefused : Run.connect (access.login database host port) w = _ :=
        Run.refusable_refused hreply
      exact Run.mapDriverError_outcome_raised (congrArg Trace.outcome hrefused)

/-- The course of a session with a database: it is refused, or it is opened, used and closed. The
close may fail. -/
inductive SessionCourse {α : Type} (address host port : String) (body : Run α) :
    List Event → Outcome α → Prop
  | refused (fault : Fault) : SessionCourse address host port body
      [.connect (access.login database host port) (some fault)]
      (.raised (fault.reported (Advice.connectionFailed address database)))
  | closed (v : World) : SessionCourse address host port body
      (.connect (access.login database host port) none ::
        dialogue (body v).events ++ [.close database none])
      (body v).outcome
  | unclosed (v : World) (fault : Fault) : SessionCourse address host port body
      (.connect (access.login database host port) none ::
        dialogue (body v).events ++ [.close database (some fault)])
      (.raised fault)

theorem withSession_course (haddress : Address.split address = .ok (host, port)) {α : Type}
    {body : Run α} (hends : body.Ends) (w : World) :
    SessionCourse access database address host port body
      (dialogue (access.withSession address database body w).events)
      (access.withSession address database body w).outcome := by
  obtain ⟨hrow, houtcome⟩ := access.connect_wellFormed database haddress w
  unfold withSession
  cases hreply : (w.connect (access.login database host port)).1 with
  | some fault =>
    rw [hreply] at hrow houtcome
    rw [Run.bind_raised houtcome, hrow]
    exact .refused fault
  | none =>
    rw [hreply] at hrow houtcome
    obtain ⟨failure, hclosing⟩ := Run.ensure_close database
      (hends (access.connect address database w).world)
    rw [Run.bind_done houtcome, Trace.after_events, Trace.after_outcome, dialogue_append, hrow,
      hclosing, dialogue_append]
    cases failure with
    | none => exact .closed _
    | some fault => exact .unclosed _ fault

/-- How a session with a database ends: it is refused, or it is opened, used and closed. -/
inductive SessionEnds (address host port : String) (body : Run Unit) :
    List Event → Outcome Unit → Prop
  | refused (fault : Fault) : SessionEnds address host port body
      [.connect (access.login database host port) (some fault)]
      (.raised (fault.reported (Advice.connectionFailed address database)))
  | used (v : World) : SessionEnds address host port body
      (.connect (access.login database host port) none ::
        dialogue (body v).events ++ [.close database none])
      (body v).outcome

theorem withSession_dialogue (haddress : Address.split address = .ok (host, port))
    {body : Run Unit} (hends : body.Ends) {w : World}
    (hclose : ∀ e ∈ (access.withSession address database body w).events,
      e.isFailedClose = false) :
    SessionEnds access database address host port body
      (dialogue (access.withSession address database body w).events)
      (access.withSession address database body w).outcome := by
  have hcourse := access.withSession_course database haddress hends w
  have hquiet : ∀ e ∈ dialogue (access.withSession address database body w).events,
      e.isFailedClose = false := fun e he => hclose e (List.mem_filter.1 he).1
  generalize dialogue (access.withSession address database body w).events = row at hcourse hquiet ⊢
  generalize (access.withSession address database body w).outcome = outcome at hcourse ⊢
  cases hcourse with
  | refused fault => exact .refused fault
  | closed v => exact .used v
  | unclosed v fault => cases hquiet (.close database (some fault)) (by simp)

/-- A session that is followed by a record. -/
theorem loggedSession_dialogue (haddress : Address.split address = .ok (host, port))
    {body : Run Unit} (hends : body.Ends) {level : Level} {text : String} {w : World}
    (hclose : ∀ e ∈ ((access.withSession address database body >>= fun _ =>
      Run.log level text) w).events, e.isFailedClose = false) :
    SessionEnds access database address host port body
      (dialogue ((access.withSession address database body >>= fun _ =>
        Run.log level text) w).events)
      ((access.withSession address database body >>= fun _ => Run.log level text) w).outcome := by
  obtain ⟨hrow, houtcome⟩ :=
    Run.bind_log (m := access.withSession address database body) level text w
  rw [hrow, houtcome]
  exact access.withSession_dialogue database haddress hends fun e he =>
    hclose e (Run.mem_bind he _)

end Access

namespace Seeding

variable (database : String)

/-! ## What is done in the sessions -/

/-- How the creation of a database ends in its session. -/
inductive CreatingEnds : List Event → Outcome Unit → Prop
  | noCursor (fault : Fault) : CreatingEnds [.cursor Access.masterDatabase (some fault)]
      (.raised (fault.reported (creationFailed database)))
  | refused (fault : Fault) : CreatingEnds [.cursor Access.masterDatabase none,
      .execute Access.masterDatabase (creation database) (some fault)]
      (.raised (fault.reported (creationFailed database)))
  | created : CreatingEnds [.cursor Access.masterDatabase none,
      .execute Access.masterDatabase (creation database) none] (.done ())

theorem creating_dialogue (w : World) :
    CreatingEnds database (dialogue (creating database w).events)
      (creating database w).outcome := by
  unfold creating
  rw [Run.mapDriverError_events]
  cases hcursor : w.openCursor.1 with
  | some fault =>
    have hopen : Run.openCursor Access.masterDatabase w =
        ⟨.raised fault, [.cursor Access.masterDatabase (some fault)], w.openCursor.2⟩ :=
      Run.refusable_refused hcursor
    have hbody := Run.bind_raised (congrArg Trace.outcome hopen) fun _ =>
      Run.execute Access.masterDatabase (creation database)
    rw [Run.mapDriverError_outcome_raised (congrArg Trace.outcome hbody), hbody, hopen]
    exact .noCursor fault
  | none =>
    have hopen : Run.openCursor Access.masterDatabase w =
        ⟨.done (), [.cursor Access.masterDatabase none], w.openCursor.2⟩ :=
      Run.refusable_accepted hcursor
    have hbody := Run.bind_done (congrArg Trace.outcome hopen) fun _ =>
      Run.execute Access.masterDatabase (creation database)
    rw [hopen] at hbody
    cases hreply : (w.openCursor.2.execute (creation database)).1 with
    | some fault =>
      have hexecute : Run.execute Access.masterDatabase (creation database) w.openCursor.2 = _ :=
        Run.refusable_refused hreply
      rw [hexecute] at hbody
      rw [Run.mapDriverError_outcome_raised (congrArg Trace.outcome hbody), hbody]
      exact .refused fault
    | none =>
      have hexecute : Run.execute Access.masterDatabase (creation database) w.openCursor.2 = _ :=
        Run.refusable_accepted hreply
      rw [hexecute] at hbody
      rw [Run.mapDriverError_done.2 (congrArg Trace.outcome hbody), hbody]
      exact .created

/-- The statements that succeeded, in their order. -/
def succeeded (statements : List String) : List Event :=
  statements.map fun statement => .execute database statement none

/-- The statements from a position on run in order, up to the first that fails. -/
theorem runFrom_dialogue (index : Nat) (statements : List String) (w : World) :
    (dialogue (runFrom database index statements w).events = succeeded database statements ∧
      (runFrom database index statements w).outcome = .done ()) ∨
    ∃ before statement rest fault, statements = before ++ statement :: rest ∧
      dialogue (runFrom database index statements w).events =
        succeeded database before ++ [.execute database statement (some fault)] ∧
      (runFrom database index statements w).outcome =
        .raised (fault.reported (statementFailed (index + before.length) statement)) := by
  induction statements generalizing index w with
  | nil => exact .inl ⟨rfl, rfl⟩
  | cons statement rest ih =>
    unfold runFrom
    rw [Run.log_bind]
    cases hreply : (w.execute statement).1 with
    | some fault =>
      have hexecute : Run.execute database statement w = _ := Run.refusable_refused hreply
      have hraised := Run.mapDriverError_outcome_raised (f := statementFailed index statement)
        (congrArg Trace.outcome hexecute)
      rw [Run.bind_raised hraised, Run.mapDriverError_events, hexecute]
      exact .inr ⟨[], statement, rest, fault, rfl, rfl, rfl⟩
    | none =>
      have hexecute : Run.execute database statement w = _ := Run.refusable_accepted hreply
      have hdone := (Run.mapDriverError_done (f := statementFailed index statement)).2
        (congrArg Trace.outcome hexecute)
      rw [Run.bind_done hdone, Run.mapDriverError_events, hexecute]
      rcases ih (index + 1) _ with
        ⟨hrow, hended⟩ | ⟨before, failing, left, fault, hsplit, hrow, hended⟩
      · refine .inl ⟨?_, hended⟩
        simp [hrow, succeeded]
      · refine .inr ⟨statement :: before, failing, left, fault, by rw [hsplit]; rfl, ?_, ?_⟩
        · simp [hrow, succeeded]
        · rw [show index + (statement :: before).length = index + 1 + before.length by
            simp only [List.length_cons]; omega]
          exact hended

/-- How the run of the statements ends in its session. -/
inductive ApplyingEnds (statements : List String) : List Event → Outcome Unit → Prop
  | noCursor (fault : Fault) :
      ApplyingEnds statements [.cursor database (some fault)] (.raised fault)
  | failed (before : List String) (statement : String) (rest : List String) (fault : Fault) :
      statements = before ++ statement :: rest → ApplyingEnds statements
      (.cursor database none :: succeeded database before ++
        [.execute database statement (some fault)])
      (.raised (fault.reported (statementFailed before.length statement)))
  | applied : ApplyingEnds statements (.cursor database none :: succeeded database statements)
      (.done ())

theorem applying_dialogue (statements : List String) (w : World) :
    ApplyingEnds database statements (dialogue (applying database statements w).events)
      (applying database statements w).outcome := by
  unfold applying
  cases hcursor : w.openCursor.1 with
  | some fault =>
    have hopen : Run.openCursor database w = _ := Run.refusable_refused hcursor
    rw [Run.bind_raised (congrArg Trace.outcome hopen), hopen]
    exact .noCursor fault
  | none =>
    have hopen : Run.openCursor database w = _ := Run.refusable_accepted hcursor
    rw [Run.bind_done (congrArg Trace.outcome hopen), hopen, Trace.after_events,
      Trace.after_outcome, dialogue_append]
    rcases runFrom_dialogue database 0 statements w.openCursor.2 with
      ⟨hrow, houtcome⟩ | ⟨before, statement, rest, fault, hsplit, hrow, houtcome⟩
    · rw [hrow, houtcome]
      exact .applied
    · rw [hrow, houtcome, Nat.zero_add]
      exact .failed before statement rest fault hsplit

/-! ## The two sessions -/

section Ends

variable (access : Access) (address host port database : String)

/-- How the creation of a database ends, and what was exchanged by then. -/
inductive CreationEnds : List Event → Outcome Unit → Prop
  | unreachable (fault : Fault) : CreationEnds
      [.connect (access.login Access.masterDatabase host port) (some fault)]
      (.raised (fault.reported (Advice.connectionFailed address Access.masterDatabase)))
  | noCursor (fault : Fault) : CreationEnds
      [.connect (access.login Access.masterDatabase host port) none,
        .cursor Access.masterDatabase (some fault), .close Access.masterDatabase none]
      (.raised (fault.reported (creationFailed database)))
  | refused (fault : Fault) : CreationEnds
      [.connect (access.login Access.masterDatabase host port) none,
        .cursor Access.masterDatabase none,
        .execute Access.masterDatabase (creation database) (some fault),
        .close Access.masterDatabase none]
      (.raised (fault.reported (creationFailed database)))
  | created : CreationEnds
      [.connect (access.login Access.masterDatabase host port) none,
        .cursor Access.masterDatabase none,
        .execute Access.masterDatabase (creation database) none,
        .close Access.masterDatabase none]
      (.done ())

/-- How the run of the seed statements ends. The first that fails is reported with its position. -/
inductive StatementsEnd (statements : List String) : List Event → Outcome Unit → Prop
  | unreachable (fault : Fault) : StatementsEnd statements
      [.connect (access.login database host port) (some fault)]
      (.raised (fault.reported (Advice.connectionFailed address database)))
  | noCursor (fault : Fault) : StatementsEnd statements
      [.connect (access.login database host port) none, .cursor database (some fault),
        .close database none]
      (.raised fault)
  | failed (before : List String) (statement : String) (rest : List String) (fault : Fault) :
      statements = before ++ statement :: rest → StatementsEnd statements
      ([.connect (access.login database host port) none, .cursor database none] ++
        succeeded database before ++
        [.execute database statement (some fault), .close database none])
      (.raised (fault.reported (statementFailed before.length statement)))
  | applied : StatementsEnd statements
      ([.connect (access.login database host port) none, .cursor database none] ++
        succeeded database statements ++ [.close database none])
      (.done ())

/-- How a seeding ends: its database is not created, or the statements run in it. -/
inductive PreparationEnds (statements : List String) : List Event → Outcome Unit → Prop
  | notCreated {row : List Event} {fault : Fault} :
      CreationEnds access address host port database row (.raised fault) →
      PreparationEnds statements row (.raised fault)
  | created {creating row : List Event} {outcome : Outcome Unit} :
      CreationEnds access address host port database creating (.done ()) →
      StatementsEnd access address host port database statements row outcome →
      PreparationEnds statements (creating ++ row) outcome

variable {access address host port} (haddress : Address.split address = .ok (host, port))
include haddress

theorem createDatabase_ends {w : World}
    (hclose : ∀ e ∈ (createDatabase access address database w).events,
      e.isFailedClose = false) :
    CreationEnds access address host port database
      (dialogue (createDatabase access address database w).events)
      (createDatabase access address database w).outcome := by
  have hsession : Access.SessionEnds access Access.masterDatabase address host port
      (creating database) (dialogue (createDatabase access address database w).events)
      (createDatabase access address database w).outcome :=
    access.loggedSession_dialogue _ haddress (creating_ends database) hclose
  generalize dialogue (createDatabase access address database w).events = row at hsession ⊢
  generalize (createDatabase access address database w).outcome = outcome at hsession ⊢
  cases hsession with
  | refused fault => exact .unreachable fault
  | used v =>
    have hcreating := creating_dialogue database v
    generalize dialogue (creating database v).events = row at hcreating ⊢
    generalize (creating database v).outcome = outcome at hcreating ⊢
    cases hcreating with
    | noCursor fault => exact .noCursor fault
    | refused fault => exact .refused fault
    | created => exact .created

theorem runStatements_ends (statements : List String) {w : World}
    (hclose : ∀ e ∈ (runStatements access address database statements w).events,
      e.isFailedClose = false) :
    StatementsEnd access address host port database statements
      (dialogue (runStatements access address database statements w).events)
      (runStatements access address database statements w).outcome := by
  have hends : (applying database statements).Ends :=
    Run.Ends.exchange.bind fun _ => runFrom_ends database 0 statements
  have hsession : Access.SessionEnds access database address host port
      (applying database statements)
      (dialogue (runStatements access address database statements w).events)
      (runStatements access address database statements w).outcome :=
    access.loggedSession_dialogue _ haddress hends hclose
  generalize dialogue (runStatements access address database statements w).events = row
    at hsession ⊢
  generalize (runStatements access address database statements w).outcome = outcome at hsession ⊢
  cases hsession with
  | refused fault => exact .unreachable fault
  | used v =>
    have happlying := applying_dialogue database statements v
    generalize dialogue (applying database statements v).events = row at happlying ⊢
    generalize (applying database statements v).outcome = outcome at happlying ⊢
    cases happlying with
    | noCursor fault => exact .noCursor fault
    | failed before statement rest fault hsplit =>
      have hfailed : StatementsEnd access address host port database statements _ _ :=
        .failed before statement rest fault hsplit
      simpa using hfailed
    | applied => exact .applied

/-- A seeding at a well-formed address in which no close fails stops at its first failure and
reports it, and succeeds if there is none. -/
theorem prepare_reports_first_failure (statements : List String) (w : World)
    (hclose : ∀ e ∈ (prepare access address database statements w).events,
      e.isFailedClose = false) :
    PreparationEnds access address host port database statements
      (dialogue (prepare access address database statements w).events)
      (prepare access address database statements w).outcome := by
  have hcreation := createDatabase_ends database haddress (w := w) fun e he =>
    hclose e (Run.mem_bind he _)
  unfold prepare at hclose ⊢
  cases houtcome : (createDatabase access address database w).outcome with
  | done value =>
    rw [houtcome] at hcreation
    rw [Run.bind_done houtcome] at hclose ⊢
    rw [Trace.after_events, dialogue_append]
    refine .created hcreation (runStatements_ends database haddress statements fun e he =>
      hclose e (List.mem_append_right _ he))
  | raised fault =>
    rw [houtcome] at hcreation
    rw [Run.bind_raised houtcome]
    exact .notCreated hcreation
  | unfinished =>
    rw [houtcome] at hcreation
    generalize dialogue (createDatabase access address database w).events = row at hcreation
    cases hcreation

end Ends

/-- A seeding that repeats a statement, on a server that refuses the third one. -/
def brokenSeeding : Trace Unit :=
  prepare { password := "secret" } "127.0.0.1:1433" "shop"
    ["insert into item default values", "insert into item default values", "drop table order",
      "insert into item default values"]
    { server := { failingStatements := [("drop table order", .other .driver "no such table")] } }

theorem brokenSeeding_ends :
    PreparationEnds { password := "secret" } "127.0.0.1:1433" "127.0.0.1" "1433" "shop"
      ["insert into item default values", "insert into item default values", "drop table order",
        "insert into item default values"]
      (dialogue brokenSeeding.events) brokenSeeding.outcome ∧
    brokenSeeding.outcome = .raised (statementFailed 2 "drop table order"
      (.other .driver "no such table")) := by
  have haddress : Address.split "127.0.0.1:1433" = .ok ("127.0.0.1", "1433") := by rfl
  have hclose : ∀ e ∈ brokenSeeding.events, e.isFailedClose = false := by decide +kernel
  exact ⟨prepare_reports_first_failure "shop" haddress _ _ hclose, rfl⟩

end Seeding

end SeededServer
