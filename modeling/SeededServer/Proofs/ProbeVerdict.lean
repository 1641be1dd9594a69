import SeededServer.Proofs.DriverFailures
import SeededServer.Proofs.Numerals

/-!
# The verdict of a probe

A probe makes five calls to the driver: it connects, opens a cursor, executes the liveness query,
fetches a row and closes the session. The row is judged only if all five succeed. If the close
fails, its fault takes the place of everything before; any other failure ends the probe where it
happens. An answer with an integer of too many digits cannot be shown, so it is not refused: the
probe ends with the fault of the integer.

## Main definitions

* `Liveness.ProbeEnds` — how a probe can end, and what was exchanged by then.
* `Liveness.Verdict` — what a probe says about the driver's answers.
-/
namespace SeededServer

/-! ## The fetch of a row -/

theorem Run.fetch_ok {database : String} {w : World} {row : Option Row}
    (h : w.fetch.1 = .ok row) :
    Run.fetch database w = ⟨.done row, [.fetch database (.ok row)], w.fetch.2⟩ := by
  rw [Run.fetch, Run.exchange_bind, h]
  rfl

theorem Run.fetch_error {database : String} {w : World} {fault : Fault}
    (h : w.fetch.1 = .error fault) :
    Run.fetch database w = ⟨.raised fault, [.fetch database (.error fault)], w.fetch.2⟩ := by
  rw [Run.fetch, Run.exchange_bind, h]
  rfl

namespace Liveness

section Verdict

variable (access : Access) (address host port : String)

/-! ## The query -/

/-- What is done in the session of a probe. -/
def asking : Run (Option Row) :=
  Access.orConnectionFailed address Access.masterDatabase do
    Run.openCursor Access.masterDatabase
    Run.execute Access.masterDatabase query
    Run.fetch Access.masterDatabase

/-- How the liveness query ends in its session. -/
inductive AskingEnds : List Event → Outcome (Option Row) → Prop
  | noCursor (fault : Fault) : AskingEnds [.cursor Access.masterDatabase (some fault)]
      (.raised (fault.reported (Advice.connectionFailed address Access.masterDatabase)))
  | refused (fault : Fault) : AskingEnds [.cursor Access.masterDatabase none,
      .execute Access.masterDatabase query (some fault)]
      (.raised (fault.reported (Advice.connectionFailed address Access.masterDatabase)))
  | unanswered (fault : Fault) : AskingEnds [.cursor Access.masterDatabase none,
      .execute Access.masterDatabase query none, .fetch Access.masterDatabase (.error fault)]
      (.raised (fault.reported (Advice.connectionFailed address Access.masterDatabase)))
  | answered (row : Option Row) : AskingEnds [.cursor Access.masterDatabase none,
      .execute Access.masterDatabase query none, .fetch Access.masterDatabase (.ok row)]
      (.done row)

theorem asking_ends (w : World) :
    AskingEnds address (dialogue (asking address w).events) (asking address w).outcome := by
  unfold asking Access.orConnectionFailed
  rw [Run.mapDriverError_events]
  cases hcursor : w.openCursor.1 with
  | some fault =>
    have hopen : Run.openCursor Access.masterDatabase w = _ := Run.refusable_refused hcursor
    have hbody := Run.bind_raised (congrArg Trace.outcome hopen) fun _ => do
      Run.execute Access.masterDatabase query
      Run.fetch Access.masterDatabase
    rw [Run.mapDriverError_outcome_raised (congrArg Trace.outcome hbody), hbody, hopen]
    exact .noCursor fault
  | none =>
    have hopen : Run.openCursor Access.masterDatabase w = _ := Run.refusable_accepted hcursor
    have hbody := Run.bind_done (congrArg Trace.outcome hopen) fun _ => do
      Run.execute Access.masterDatabase query
      Run.fetch Access.masterDatabase
    rw [hopen] at hbody
    cases hexecute : (w.openCursor.2.execute query).1 with
    | some fault =>
      have hrefused : Run.execute Access.masterDatabase query w.openCursor.2 = _ :=
        Run.refusable_refused hexecute
      rw [Run.bind_raised (congrArg Trace.outcome hrefused), hrefused] at hbody
      rw [Run.mapDriverError_outcome_raised (congrArg Trace.outcome hbody), hbody]
      exact .refused fault
    | none =>
      have haccepted : Run.execute Access.masterDatabase query w.openCursor.2 = _ :=
        Run.refusable_accepted hexecute
      rw [Run.bind_done (congrArg Trace.outcome haccepted), haccepted] at hbody
      cases hfetch : (w.openCursor.2.execute query).2.fetch.1 with
      | error fault =>
        rw [Run.fetch_error hfetch] at hbody
        rw [Run.mapDriverError_outcome_raised (congrArg Trace.outcome hbody), hbody]
        exact .unanswered fault
      | ok row =>
        rw [Run.fetch_ok hfetch] at hbody
        rw [Run.mapDriverError_done.2 (congrArg Trace.outcome hbody), hbody]
        exact .answered row

theorem asking_terminates : (asking address).Ends := by
  refine Run.Ends.mapDriverError (Run.Ends.exchange.bind fun _ => ?_)
  exact Run.Ends.exchange.bind fun _ => .fetch _

/-! ## The probe -/

/-- A session in which all five calls succeed. -/
def answeredSession (row : Option Row) : List Event :=
  [.connect (access.login Access.masterDatabase host port) none,
    .cursor Access.masterDatabase none, .execute Access.masterDatabase query none,
    .fetch Access.masterDatabase (.ok row), .close Access.masterDatabase none]

/-- How a probe ends, and what was exchanged by then. -/
inductive ProbeEnds : List Event → Outcome Unit → Prop
  | unreachable (fault : Fault) : ProbeEnds
      [.connect (access.login Access.masterDatabase host port) (some fault)]
      (.raised (fault.reported (Advice.connectionFailed address Access.masterDatabase)))
  | failed {row : List Event} (fault : Fault) : AskingEnds address row (.raised fault) →
      ProbeEnds (.connect (access.login Access.masterDatabase host port) none :: row ++
        [.close Access.masterDatabase none]) (.raised fault)
  | unclosed {row : List Event} {asked : Outcome (Option Row)} (fault : Fault) :
      AskingEnds address row asked →
      ProbeEnds (.connect (access.login Access.masterDatabase host port) none :: row ++
        [.close Access.masterDatabase (some fault)]) (.raised fault)
  | healthy (rest : List Value) :
      ProbeEnds (answeredSession access host port (some (.int 1 :: rest))) (.done ())
  | unhealthy (row : Option Row) : isOne (answer row) = false →
      ProbeEnds (answeredSession access host port row) (.raised (unexpected (answer row)))

variable {access address host port}

theorem probe_ends (haddress : Address.split address = .ok (host, port)) (w : World) :
    ProbeEnds access address host port (dialogue (probe access address w).events)
      (probe access address w).outcome := by
  have heq : probe access address w = ((do
      let row ← access.withSession address Access.masterDatabase (asking address)
      if isOne (answer row) then Run.log .debug ("Healthcheck passed for " ++ address)
      else Run.raise (unexpected (answer row)) : Run Unit) w) := rfl
  rw [heq]
  have hcourse := access.withSession_course Access.masterDatabase haddress
    (asking_terminates address) w
  generalize access.withSession address Access.masterDatabase (asking address) = session
    at hcourse ⊢
  generalize houtcome : (session w).outcome = outcome at hcourse
  generalize hrow : dialogue (session w).events = row at hcourse
  cases hcourse with
  | refused fault =>
    rw [Run.bind_raised houtcome, hrow]
    exact .unreachable fault
  | unclosed v fault =>
    rw [Run.bind_raised houtcome, hrow]
    exact .unclosed fault (asking_ends address v)
  | closed v =>
    have hasking := asking_ends address v
    generalize dialogue (asking address v).events = exchanged at hasking hrow
    generalize (asking address v).outcome = asked at hasking houtcome
    cases asked with
    | unfinished => cases hasking
    | raised fault =>
      rw [Run.bind_raised houtcome, hrow]
      exact .failed fault hasking
    | done row =>
      rw [Run.bind_done houtcome, Trace.after_events, Trace.after_outcome, dialogue_append, hrow]
      cases hasking
      by_cases hone : isOne (answer row) = true
      · obtain ⟨rest, rfl⟩ := isOne_answer.1 hone
        rw [if_pos hone]
        exact .healthy rest
      · rw [if_neg hone]
        exact .unhealthy row (Bool.eq_false_iff.2 hone)

/-! ## What the end of a probe tells -/

theorem AskingEnds.failures_eq {row : List Event} {fault : Fault}
    (h : AskingEnds address row (.raised fault)) :
    ∃ cause, failures row = [cause] ∧
      fault = cause.reported (Advice.connectionFailed address Access.masterDatabase) := by
  cases h with
  | noCursor cause | refused cause | unanswered cause => exact ⟨cause, rfl, rfl⟩

/-- If all five calls succeed, the row decides. -/
theorem ProbeEnds.of_answered {row : Option Row} {outcome : Outcome Unit}
    (h : ProbeEnds access address host port (answeredSession access host port row) outcome) :
    outcome =
      if isOne (answer row) = true then .done () else .raised (unexpected (answer row)) := by
  generalize hexchanged : answeredSession access host port row = exchanged at h
  cases h with
  | unreachable => simp [answeredSession] at hexchanged
  | failed fault hasking => cases hasking <;> simp [answeredSession] at hexchanged
  | unclosed fault hasking => cases hasking <;> simp [answeredSession] at hexchanged
  | healthy rest =>
    obtain rfl : row = some (.int 1 :: rest) := by simpa [answeredSession] using hexchanged
    rfl
  | unhealthy other hother =>
    obtain rfl : row = other := by simpa [answeredSession] using hexchanged
    rw [if_neg (by simp [hother])]

/-- Unless the close fails, a failure of a call is reported. -/
theorem ProbeEnds.reports {row : List Event} {outcome : Outcome Unit}
    (h : ProbeEnds access address host port row outcome)
    (hclose : ∀ e ∈ row, e.isFailedClose = false) {fault : Fault} (hfault : fault ∈ failures row) :
    outcome = .raised
      (fault.reported (Advice.connectionFailed address Access.masterDatabase)) := by
  cases h with
  | unreachable cause =>
    obtain rfl : fault = cause := by simpa [Event.failure?] using hfault
    rfl
  | failed reported hasking =>
    obtain ⟨cause, hcause, rfl⟩ := hasking.failures_eq
    obtain rfl : fault = cause := by simpa [Event.failure?, hcause] using hfault
    rfl
  | unclosed failing =>
    cases hclose (.close Access.masterDatabase (some failing)) (by simp)
  | healthy | unhealthy => simp [answeredSession, Event.failure?] at hfault

/-- A fault that is no preset fault is never reported as an unexpected answer. -/
theorem reported_ne_unexpected {fault : Fault} (h : fault.isPreset = false) {value : Value}
    {message : String} {cause : Option Fault} :
    fault.reported (Advice.connectionFailed address Access.masterDatabase) ≠
      .preset (.unexpectedHealth value) message cause := by
  intro heq
  unfold Fault.reported at heq
  split at heq
  · cases heq
  · rw [heq] at h
    cases h

/-- An answer is refused only if it was given. -/
theorem ProbeEnds.of_unexpected {row : List Event} {value : Value} {message : String}
    {cause : Option Fault}
    (h : ProbeEnds access address host port row
      (.raised (.preset (.unexpectedHealth value) message cause)))
    (hforeign : ∀ fault ∈ failures row, fault.isPreset = false) :
    ∃ answered, row = answeredSession access host port answered ∧
      isOne (answer answered) = false ∧ value = answer answered ∧ value.isWritable = true := by
  generalize houtcome : Outcome.raised (.preset (.unexpectedHealth value) message cause)
    = outcome at h
  cases h with
  | unreachable fault =>
    have hfault : fault.isPreset = false := hforeign fault (by simp [Event.failure?])
    exact absurd (Outcome.raised.inj houtcome).symm (reported_ne_unexpected hfault)
  | failed fault hasking =>
    obtain ⟨first, hfirst, rfl⟩ := hasking.failures_eq
    have hfault : first.isPreset = false := hforeign first (by simp [hfirst])
    exact absurd (Outcome.raised.inj houtcome).symm (reported_ne_unexpected hfault)
  | unclosed fault =>
    have hfault : fault.isPreset = false := hforeign fault (by simp [Event.failure?])
    rw [← Outcome.raised.inj houtcome] at hfault
    cases hfault
  | healthy => cases houtcome
  | unhealthy answered hother =>
    have hfault := Outcome.raised.inj houtcome
    cases hwritable : (answer answered).isWritable with
    | true =>
      rw [unexpected_of_writable hwritable] at hfault
      injection hfault with hfailure
      injection hfailure with hvalue
      exact ⟨answered, rfl, hother, hvalue, hvalue ▸ hwritable⟩
    | false =>
      rw [unexpected_of_not_writable hwritable] at hfault
      cases hfault

/-! ## The verdict -/

variable (access address host port) in
/-- What a probe says about the driver's answers. -/
structure Verdict (t : Trace Unit) : Prop where
  /-- It passes if and only if all five calls succeed and the row starts with the integer 1. -/
  passes : t.outcome = .done () ↔
    ∃ rest, dialogue t.events = answeredSession access host port (some (.int 1 :: rest))
  /-- It refuses any other answer that can be shown, with the first value of the row, or null if
  there is none. -/
  refuses (value : Value) :
    (∃ message cause, t.outcome = .raised (.preset (.unexpectedHealth value) message cause)) ↔
      ∃ row, dialogue t.events = answeredSession access host port row ∧
        (¬ ∃ rest, row = some (.int 1 :: rest)) ∧ value = answer row ∧ value.isWritable = true
  /-- An answer that cannot be shown ends it with the fault of an integer of too many digits. -/
  unshown (row : Option Row) : dialogue t.events = answeredSession access host port row →
    (answer row).isWritable = false → t.outcome = .raised Number.tooLong
  /-- It reports an error of the driver, unless the close fails as well. -/
  reports : (∀ e ∈ t.events, e.isFailedClose = false) →
    ∀ fault ∈ failures t.events, fault.isDriver = true →
      t.outcome = .raised (Advice.connectionFailed address Access.masterDatabase fault)
  /-- It connects at most once. -/
  connects : connected t.events <+: [Access.masterDatabase]
  /-- It executes at most one statement. -/
  executes : executed t.events <+: [(Access.masterDatabase, query)]
  /-- It never rests. -/
  restless : ∀ seconds interrupted, .rest seconds interrupted ∉ t.events

/-- What follows a session leaves a record at most. -/
theorem judging_within {P : Event → Prop} {text : String} (h : P (.log .debug text))
    (row : Option Row) :
    (if isOne (answer row) then Run.log .debug text
      else Run.raise (unexpected (answer row)) : Run Unit).Within P := by
  split
  · exact .log h
  · exact .raise _

variable (access address) in
theorem probe_statements :
    (probe access address).Follows Event.statement? [(Access.masterDatabase, query)] := by
  have asked : (asking address).Follows Event.statement? [(Access.masterDatabase, query)] := by
    refine Run.Follows.mapDriverError ?_
    refine (Run.Follows.silent (.openCursor fun _ => rfl)).silent_bind fun _ => ?_
    refine (Seeding.execute_follows Access.masterDatabase query).bind_silent fun _ => ?_
    exact .silent (.fetch fun _ => rfl)
  exact (Seeding.withSession_follows access address _ asked).bind_silent fun row =>
    .silent (judging_within (P := (·.statement? = none)) rfl row)

variable (access address) in
theorem probe_connections :
    (probe access address).Follows Event.connection? [Access.masterDatabase] :=
  (Seeding.withSession_connects access address _ (ask_within address)).bind_silent fun row =>
    .silent (judging_within (P := (·.connection? = none)) rfl row)

variable (access address) in
theorem probe_failures (w : World) :
    failures (dialogue (probe access address w).events) =
      failures (probe access address w).events :=
  failures_dialogue fun e he =>
    Event.OfSession.failure?_eq e ((probe_within access address).forall_mem w e he)

end Verdict

/-- A probe of a server that answers with the truth value, which is no integer. -/
def truthfulProbe : Trace Unit :=
  probe { password := "secret" } "127.0.0.1:1433" { server := { lastRow := some [.bool true] } }

/-- A probe of a server that answers with an integer of too many digits. -/
def hugeProbe : Trace Unit :=
  probe { password := "secret" } "127.0.0.1:1433"
    { server := { lastRow := some [.int Number.leastTooLong] } }

end Liveness

end SeededServer
