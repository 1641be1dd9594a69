import Mathlib.Data.List.Infix
import SeededServer.Proofs.Removal

/-!
# The exit status

The exit status of a run is decided by how its start ended: it is 0 if the start succeeded or the
user interrupted it, and 1 otherwise. A run reports one error in the second case and none in the
first. The only fault that leaves a run is the one of the stop at the very end of an attached run.

Two things can come in between. After a start that succeeded there is no connection URL if the
password holds a surrogate, and a console may refuse the line that tells of a fault.

## Main definitions

* `errors` — the errors that are reported in some events.
* `Runner.served` — a run up to its very end.
* `Runner.ServedEnds` — how a run ends up to there, whatever the console takes.
* `Runner.ExitStatus` — what the status of a run means.
-/
namespace SeededServer

/-! ## Errors that are reported -/

/-- The text of the error that an event reports. -/
def Event.error? : Event → Option String
  | .log .error text => some text
  | _ => none

/-- The errors that are reported in some events. -/
def errors (events : List Event) : List String := events.filterMap Event.error?

@[simp] theorem errors_append (first second : List Event) :
    errors (first ++ second) = errors first ++ errors second := List.filterMap_append

theorem Event.OfCommand.error?_eq {A : List String → Prop} (e : Event) (h : e.OfCommand A) :
    e.error? = none := by
  cases e with
  | log level text =>
    cases level with
    | error => exact absurd rfl h
    | _ => rfl
  | _ => rfl

theorem Event.OfSession.error?_eq {access : Access} {database : String} {S : String → Prop}
    (e : Event) (h : e.OfSession access database S) : e.error? = none := by
  cases e with
  | log level text =>
    cases level with
    | error => exact absurd rfl h
    | _ => rfl
  | _ => rfl

theorem Run.Leaves.errors_eq_nil {α : Type} {m : Run α} (h : m.Leaves (·.error? = none))
    (w : World) : errors (m w).events = [] :=
  List.filterMap_eq_nil_iff.2 (h w)

/-! ## Waiting for the user -/

namespace Run

/-- No clock refuses the rest of a second. -/
theorem rest_second_ends (w : World) :
    (rest (.int 1) w).outcome = .raised .interruption ∨ (rest (.int 1) w).outcome = .done () := by
  unfold rest
  have hclock : World.restRefusal? (.int 1) = none := by decide
  rcases w.takeRest_ends hclock with hrest | hrest
  · rw [refusable_accepted hrest]
    exact .inr rfl
  · rw [refusable_refused hrest]
    exact .inl rfl

theorem restRepeatedly_ends (count : Nat) (w : World) :
    (restRepeatedly count w).outcome = .raised .interruption ∨
      (restRepeatedly count w).outcome = .unfinished := by
  induction count generalizing w with
  | zero => exact .inr rfl
  | succ count ih =>
    unfold restRepeatedly
    rcases rest_second_ends w with hraised | hdone
    · rw [bind_raised hraised]
      exact .inl rfl
    · rw [bind_done hdone]
      exact ih _

/-- Waiting for the user ends with an interrupt only. -/
theorem restUntilInterrupted_ends (w : World) :
    (restUntilInterrupted w).outcome = .raised .interruption ∨
      (restUntilInterrupted w).outcome = .unfinished := by
  unfold restUntilInterrupted
  split
  · exact .inl rfl
  · exact restRepeatedly_ends _ w

end Run

/-! ## Serving -/

namespace Runner

variable (runner : Runner)

/-- How serving ends, after the start. -/
inductive ServeEnds : Outcome Container → Outcome Int → Prop where
  | failed (fault : Fault) : ServeEnds (.raised fault) (.raised fault)
  /-- The connection URL cannot be written. -/
  | unannounced (container : Container) (message : String) :
      runner.config.password.isPlain = false →
        ServeEnds (.done container) (.raised (.other .unencodable message))
  | left (container : Container) : runner.config.password.isPlain = true →
      ServeEnds (.done container) (.done 0)
  | interrupted (container : Container) : runner.config.password.isPlain = true →
      ServeEnds (.done container) (.raised .interruption)
  | unfinished (start : Outcome Container) : ServeEnds start .unfinished

theorem serve_ends (w : World) :
    runner.ServeEnds (runner.start w).outcome (runner.serve w).outcome := by
  unfold serve
  rw [Run.log_bind, Trace.after_outcome]
  cases h : (runner.start w).outcome with
  | raised fault =>
    rw [Run.bind_raised h]
    exact .failed fault
  | unfinished =>
    rw [Run.bind_unfinished h]
    exact .unfinished _
  | done container =>
    obtain ⟨address, haddress⟩ := runner.address_of_start h
    rw [Run.bind_done h, Trace.after_outcome]
    cases hplain : runner.config.password.isPlain with
    | false =>
      have hwide : runner.config.access.password.isPlain = false := hplain
      obtain ⟨message, hurl⟩ := Access.url_of_not_plain address runner.config.database hwide
      have hannounce := runner.announce_of_no_url haddress hurl (runner.start w).world
      rw [Run.bind_raised (by rw [hannounce])]
      exact .unannounced container message hplain
    | true =>
      obtain ⟨url, hurl⟩ := runner.exists_url_of_plain hplain address
      have hannounce := runner.announce_of_url haddress hurl (runner.start w).world
      rw [Run.bind_done (by rw [hannounce]), Trace.after_outcome]
      generalize (runner.announce container (runner.start w).world).world = v
      cases hdetach : runner.detach with
      | true =>
        simp only [attend, hdetach, if_true, Run.print_bind]
        exact .left container hplain
      | false =>
        simp only [attend, hdetach, Bool.false_eq_true, if_false]
        have hwait : (waitForInterrupt v).outcome = (Run.restUntilInterrupted v).outcome := rfl
        rcases Run.restUntilInterrupted_ends v with hraised | hunfinished
        · rw [Run.bind_raised (hwait.trans hraised)]
          exact .interrupted container hplain
        · rw [Run.bind_unfinished (hwait.trans hunfinished)]
          exact .unfinished _

theorem serve_errors (w : World) : errors (runner.serve w).events = [] := by
  have started : runner.start.Leaves (·.error? = none) := by
    refine runner.start_leaves.mono fun e h => ?_
    rcases h with hordinary | hprobe | hmaster | hseeds
    · exact Event.OfCommand.error?_eq e hordinary
    · exact Event.OfSession.error?_eq e hprobe
    · exact Event.OfSession.error?_eq e hmaster
    · exact Event.OfSession.error?_eq e hseeds
  have served : runner.serve.Leaves (·.error? = none) := by
    refine Run.Leaves.bind (Run.Within.leaves (.log (by rfl))) fun _ => ?_
    refine started.bind fun container => ?_
    exact (runner.followUp_within container).leaves.mono Event.OfCommand.error?_eq
  exact served.errors_eq_nil w

/-- The line that tells of a fault. -/
def faultLine (fault : Fault) : String :=
  if fault.isPreset then "[bold red]Error:[/bold red] " ++ fault.text
  else "[bold red]Unexpected error:[/bold red] " ++ fault.text

/-- How a fault is reported: the status or the refusal of the console, and the errors. -/
inductive ReportEnds (fault : Fault) : Outcome Int → List String → Prop where
  | stopped : fault.isInterrupt = true → ReportEnds fault (.done 0) []
  | told (text : String) : fault.isInterrupt = false → runner.console (faultLine fault) = none →
      ReportEnds fault (.done 1) [text]
  | refused (refusal : Fault) : fault.isInterrupt = false →
      runner.console (faultLine fault) = some refusal → ReportEnds fault (.raised refusal) []

theorem tellFault_bind {α : Type} (line : String) (rest : Unit → Run α) (w : World) :
    (runner.tellFault line >>= rest) w = match runner.console line with
      | none => (rest () w).after [.print line]
      | some refusal => ⟨.raised refusal, [], w⟩ := by
  cases h : runner.console line with
  | none =>
    have htold : runner.tellFault line w = ⟨.done (), [.print line], w⟩ := by
      unfold tellFault
      rw [h]
      rfl
    rw [Run.bind_done (by rw [htold]), htold]
  | some refusal =>
    have hrefused : runner.tellFault line w = ⟨.raised refusal, [], w⟩ := by
      unfold tellFault
      rw [h]
      rfl
    rw [Run.bind_raised (by rw [hrefused]), hrefused]

/-- What is no interrupt is told to the user, and reported as an error. -/
theorem report_of_not_isInterrupt {fault : Fault} (h : fault.isInterrupt = false) :
    ∃ text, runner.report fault = (do
      runner.tellFault (faultLine fault)
      Run.log .error text
      pure 1) := by
  unfold report faultLine
  cases fault.isPreset with
  | true => exact ⟨fault.text, by simp [h]⟩
  | false => exact ⟨"Unexpected error", by simp [h]⟩

/-- An interrupt is not reported as an error, everything else is, and the status tells which. -/
theorem report_ends (fault : Fault) (w : World) :
    runner.ReportEnds fault (runner.report fault w).outcome
      (errors (runner.report fault w).events) := by
  cases hinterrupt : fault.isInterrupt with
  | true =>
    unfold report
    rw [hinterrupt]
    exact .stopped hinterrupt
  | false =>
    obtain ⟨text, hreport⟩ := runner.report_of_not_isInterrupt hinterrupt
    rw [hreport, tellFault_bind]
    cases hconsole : runner.console (faultLine fault) with
    | none => exact .told text hinterrupt hconsole
    | some refusal => exact .refused refusal hinterrupt hconsole

/-! ## The status -/

/-- The start succeeded: the server answered, and the database was created and seeded. -/
structure Completes (w : World) : Prop where
  started : ∃ container, (runner.start w).outcome = .done container
  seeded : RunsCourse runner.config True (runner.start w).events

theorem completes_iff {w : World} :
    runner.Completes w ↔ ∃ container, (runner.start w).outcome = .done container :=
  ⟨fun h => h.started, fun h => ⟨h, (runner.start_course w).mono fun _ => h⟩⟩

/-- The start did what it had to do, or the user interrupted it. -/
def StartsWell (w : World) : Prop :=
  runner.Completes w ∨
    ∃ fault, (runner.start w).outcome = .raised fault ∧ fault.isInterrupt = true

/-- A run fails with this fault: its start does, or the connection URL cannot be written. -/
inductive Fails (w : World) : Fault → Prop where
  | start {fault : Fault} : (runner.start w).outcome = .raised fault → fault.isInterrupt = false →
      Fails w fault
  | announcement (message : String) : runner.Completes w → runner.config.password.isPlain = false →
      Fails w (.other .unencodable message)

/-- All of a run but its very end. -/
def served : Run Int := Run.rescue runner.serve runner.report

/-- How a run ends up to its very end, and the errors that it reports. -/
inductive ServedEnds (w : World) : Outcome Int → List String → Prop where
  | well : runner.StartsWell w → (runner.Completes w → runner.config.password.isPlain = true) →
      ServedEnds w (.done 0) []
  | failed (fault : Fault) (text : String) : runner.Fails w fault →
      runner.console (faultLine fault) = none → ServedEnds w (.done 1) [text]
  | refused (fault refusal : Fault) : runner.Fails w fault →
      runner.console (faultLine fault) = some refusal → ServedEnds w (.raised refusal) []

variable {runner} in
theorem Fails.reported {w : World} {fault : Fault} (h : runner.Fails w fault)
    {outcome : Outcome Int} {reported : List String}
    (hreport : runner.ReportEnds fault outcome reported) :
    runner.ServedEnds w outcome reported := by
  cases hreport with
  | stopped hinterrupt =>
    cases h with
    | start _ hfailed => cases hfailed.symm.trans hinterrupt
    | announcement => cases hinterrupt
  | told text _ hconsole => exact .failed fault text h hconsole
  | refused refusal _ hconsole => exact .refused fault refusal h hconsole

/-- Up to its very end a run raises nothing but the refusal of the console, and its status tells how
the start went and how many errors were reported. -/
theorem served_ends {w : World} (hends : (runner.served w).outcome ≠ .unfinished) :
    runner.ServedEnds w (runner.served w).outcome (errors (runner.served w).events) := by
  have hserve := runner.serve_ends w
  have hquiet := runner.serve_errors w
  unfold served at hends ⊢
  generalize hstart : (runner.start w).outcome = start at hserve
  generalize ho : (runner.serve w).outcome = outcome at hserve
  have hreported (fault : Fault) (h : (runner.serve w).outcome = .raised fault) :
      runner.ReportEnds fault (Run.rescue runner.serve runner.report w).outcome
        (errors (Run.rescue runner.serve runner.report w).events) := by
    rw [Run.rescue_raised h, Trace.after_outcome, Trace.after_events, errors_append, hquiet,
      List.nil_append]
    exact runner.report_ends fault _
  have hcompletes {container : Container} (h : (runner.start w).outcome = .done container) :
      runner.Completes w := runner.completes_iff.2 ⟨container, h⟩
  cases hserve with
  | failed fault =>
    cases hinterrupt : fault.isInterrupt with
    | false => exact (Fails.start hstart hinterrupt).reported (hreported fault ho)
    | true =>
      have hreport := hreported fault ho
      generalize (Run.rescue runner.serve runner.report w).outcome = ending at hreport ⊢
      generalize errors (Run.rescue runner.serve runner.report w).events = reports at hreport ⊢
      cases hreport with
      | stopped =>
        refine .well (.inr ⟨fault, hstart, hinterrupt⟩) fun hdone => ?_
        obtain ⟨_, hdone⟩ := hdone.started
        cases hstart.symm.trans hdone
      | told _ hfailed | refused _ hfailed => cases hinterrupt.symm.trans hfailed
  | unannounced container message hwide =>
    exact (Fails.announcement message (hcompletes hstart) hwide).reported (hreported _ ho)
  | left container hplain =>
    rw [Run.rescue_done ho, ho, hquiet]
    exact .well (.inl (hcompletes hstart)) fun _ => hplain
  | interrupted container hplain =>
    -- The interrupt ends the waiting, not the start: the start has succeeded.
    have hreport := hreported _ ho
    generalize (Run.rescue runner.serve runner.report w).outcome = ending at hreport ⊢
    generalize errors (Run.rescue runner.serve runner.report w).events = reports at hreport ⊢
    cases hreport with
    | stopped => exact .well (.inl (hcompletes hstart)) fun _ => hplain
    | told _ hfailed | refused _ hfailed => cases hfailed
  | unfinished =>
    rw [Run.rescue_unfinished ho] at hends
    exact absurd ho hends

/-- A stop raises a fault only if the process that removes the container could not be run to its
end. -/
theorem removal_of_stop_raised {fault : Fault} {w : World}
    (h : (runner.stop w).outcome = .raised fault) :
    ∃ (container : Container) (cause : Fault), lifecycle (runner.stop w).events =
      [.removed (Docker.removalWords container.containerId) (some cause)] := by
  cases hheld : w.held with
  | none =>
    rw [runner.stop_of_held_none hheld] at h
    cases h
  | some container =>
    rcases runner.stop_ends hheld with ⟨hdone, -⟩ | ⟨_, cause, -, -, hlife⟩
    · cases hdone.symm.trans h
    · exact ⟨container, cause, hlife⟩

/-- If nothing keeps a run from telling how it went, it does so. -/
theorem served_returns {w : World} (hends : (runner.served w).outcome ≠ .unfinished)
    (hplain : runner.config.password.isPlain = true)
    (hconsole : ∀ fault, runner.Fails w fault → runner.console (faultLine fault) = none) :
    (runner.served w).outcome = .done 0 ∧ errors (runner.served w).events = [] ∧
        runner.StartsWell w ∨
      (runner.served w).outcome = .done 1 ∧ (errors (runner.served w).events).length = 1 ∧
        ¬runner.StartsWell w := by
  have hserved := runner.served_ends hends
  generalize (runner.served w).outcome = outcome at hserved ⊢
  generalize errors (runner.served w).events = reported at hserved ⊢
  cases hserved with
  | well hwell => exact .inl ⟨rfl, rfl, hwell⟩
  | failed fault text hfails =>
    refine .inr ⟨rfl, rfl, ?_⟩
    cases hfails with
    | start hstart hinterrupt =>
      rintro (hdone | ⟨other, hraised, hother⟩)
      · obtain ⟨_, hdone⟩ := hdone.started
        cases hstart.symm.trans hdone
      · cases hstart.symm.trans hraised
        cases hinterrupt.symm.trans hother
    | announcement _ _ hwide => cases hwide.symm.trans hplain
  | refused fault refusal hfails hrefused =>
    cases (hconsole fault hfails).symm.trans hrefused

/-- What is known about the end of a run that tells how it went. -/
structure ExitStatus (w : World) : Prop where
  detached_returns : runner.detach = true → ∃ status, (runner.run w).outcome = .done status
  /-- The last that an attached run does is a stop. -/
  attached_stops : runner.detach = false → (runner.run w).events =
    (runner.served w).events ++ (runner.stop (runner.served w).world).events
  /-- An attached run raises the fault of this stop, whose process could not be run to its end, and
  nothing else. -/
  attached_raises : runner.detach = false → ∀ fault, (runner.run w).outcome = .raised fault ↔
    (runner.stop (runner.served w).world).outcome = .raised fault ∧
      ∃ (container : Container) (cause : Fault),
        lifecycle (runner.stop (runner.served w).world).events =
          [.removed (Docker.removalWords container.containerId) (some cause)]
  /-- The status that a run returns tells how many errors it reported, and how its start went. -/
  returned : ∀ status, (runner.run w).outcome = .done status →
    (status = 0 ∨ status = 1) ∧
      (status = 1 ↔ (errors (runner.run w).events).length = 1) ∧
      (status = 0 ↔ errors (runner.run w).events = []) ∧
      (status = 0 ↔ runner.StartsWell w)

/-- What is done last in a run. -/
def ending : Run Unit := if runner.detach then pure () else runner.stop

theorem ending_of_attached (h : runner.detach = false) : runner.ending = runner.stop := by
  simp [ending, h]

theorem run_eq_ensure : runner.run = Run.ensure runner.served runner.ending := rfl

theorem ending_errors (w : World) : errors (runner.ending w).events = [] := by
  refine Run.Leaves.errors_eq_nil ?_ w
  unfold ending
  split
  · exact (Run.Within.pure ()).leaves
  · exact runner.stop_leaves.mono Event.OfCommand.error?_eq

/-- A run that comes to its end is served to its end, and what is done last reports no error. -/
theorem run_errors {w : World} (hends : (runner.run w).outcome ≠ .unfinished) :
    (runner.served w).outcome ≠ .unfinished ∧
      (runner.run w).events =
        (runner.served w).events ++ (runner.ending (runner.served w).world).events ∧
      errors (runner.run w).events = errors (runner.served w).events := by
  rw [run_eq_ensure] at hends
  have hfinished : (runner.served w).outcome ≠ .unfinished := by
    intro hunfinished
    rw [Run.ensure_unfinished hunfinished] at hends
    exact hends hunfinished
  have hevents : (runner.run w).events =
      (runner.served w).events ++ (runner.ending (runner.served w).world).events :=
    Run.ensure_events hfinished runner.ending
  exact ⟨hfinished, hevents, by rw [hevents, errors_append, ending_errors, List.append_nil]⟩

theorem exitStatus_of_returns {w : World} (hends : (runner.run w).outcome ≠ .unfinished)
    (hplain : runner.config.password.isPlain = true)
    (hconsole : ∀ fault, runner.Fails w fault → runner.console (faultLine fault) = none) :
    runner.ExitStatus w := by
  obtain ⟨hfinished, hevents, herrors⟩ := runner.run_errors hends
  have hserved := runner.served_returns hfinished hplain hconsole
  obtain ⟨value, hvalue⟩ : ∃ value, (runner.served w).outcome = .done value := by
    rcases hserved with ⟨hzero, -⟩ | ⟨hone, -⟩
    · exact ⟨0, hzero⟩
    · exact ⟨1, hone⟩
  refine ⟨fun hdetached => ?_, fun hattached => ?_, fun hattached fault => ?_,
    fun status hdone => ?_⟩
  · exact ⟨value, (runner.run_of_detached hdetached w).2.trans hvalue⟩
  · rw [hevents, runner.ending_of_attached hattached]
  · have hraises : (runner.run w).outcome = .raised fault ↔
        (runner.ending (runner.served w).world).outcome = .raised fault :=
      Run.ensure_outcome_raised hvalue
    rw [runner.ending_of_attached hattached] at hraises
    constructor
    · intro h
      have hstop := hraises.1 h
      exact ⟨hstop, runner.removal_of_stop_raised hstop⟩
    · rintro ⟨hstop, -⟩
      exact hraises.2 hstop
  · have hstatus := (Run.ensure_outcome_done.1 hdone).1
    rw [herrors]
    rcases hserved with ⟨hzero, hnone, hwell⟩ | ⟨hone, hcount, hwell⟩
    · cases hzero.symm.trans hstatus
      simp [hnone, hwell]
    · cases hone.symm.trans hstatus
      have hne : errors (runner.served w).events ≠ [] := List.ne_nil_of_length_eq_add_one hcount
      simp [hcount, hne, hwell]

/-- The run raised an interrupt. -/
def wasInterrupted {α : Type} : Outcome α → Bool
  | .raised fault => fault.isInterrupt
  | _ => false

theorem exists_of_wasInterrupted {α : Type} {outcome : Outcome α}
    (h : wasInterrupted outcome = true) :
    ∃ fault, outcome = .raised fault ∧ fault.isInterrupt = true := by
  cases outcome with
  | raised fault => exact ⟨fault, rfl, h⟩
  | done | unfinished => cases h

/-- The machine with a docker that is interrupted while it removes a container. -/
def stuckMachine : World :=
  { machine with
    processes := machine.processes ++ [("docker rm", [{ reply := .error .interruption }])] }

/-- A console that takes the tag which closes nothing for a mistake. -/
def markupConsole (line : String) : Option Fault :=
  if "[/]".toList <:+: line.toList then some (.outside .markup) else none

/-- A machine with a server that refuses a statement in which such a tag stands. -/
def taggedMachine : World :=
  { machine with
    processes := machine.processes.take 2
    server := { failingStatements := [("select '[/]'", .other .driver "refused")] } }

/-- The shop with a password that no connection URL shows. -/
def strayShop : Runner where
  config := { shop with password := strayByte }
  detach := true

/-- The shop that fails with the tag in its message. -/
def taggedShop : Runner where
  config := { shop with queries := ["select '[/]'"] }
  detach := true
  console := markupConsole

end Runner

end SeededServer
