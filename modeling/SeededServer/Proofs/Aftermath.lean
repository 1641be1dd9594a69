import SeededServer.Proofs.ExitStatus
import SeededServer.Proofs.PortLookup

/-!
# The aftermath of a failed start

A container that runs but cannot be brought up leaves up to three faults that compete: the one that
it failed with, one of the look at its logs, and one of its removal. The look at the logs may fail
with a preset fault only; any other fault ends the start before the removal. The removal may not
fail at all. A container that could not be removed is still held.

## Main definitions

* `Docker.Tolerated` — a look at the logs that does not end the start.
* `Runner.Aftermath` — what is started after the failure, how the start ends and what is held.
* `Runner.FailedStart` — a start whose container ran but could not be brought up.
-/
namespace SeededServer

namespace Docker

section Logs

variable (commands : CommandRunner)

/-- The process that reads a container's logs; it inherits its environment. -/
def logsProcess (containerId : String) : Command :=
  commands.processFor (logsRequest containerId 50) []

/-- The look at the logs of a container does not end a start: it ends well, or with a preset
fault. -/
def Tolerated (containerId : String) (reply : Except Fault Completed) : Prop :=
  ∃ ending, (logsRequest containerId 50).Settles (some logsTimeout) reply ending ∧
    ∀ fault, ending = .raised fault → fault.isPreset = true

theorem tolerated_ok (containerId : String) (result : Completed) :
    Tolerated containerId (.ok result) := by
  by_cases hstatus : result.status = 0
  · exact ⟨_, .success result hstatus, nofun⟩
  · exact ⟨_, .ignored result hstatus rfl, nofun⟩

/-- A look at the logs is one process, which may fail to run to its end. -/
theorem logs_course (container : Container) (w : World) :
    (∃ text result, (logs commands container 50 w).outcome = .done text ∧
      acts (logs commands container 50 w).events =
        [.command (logsProcess commands container.containerId) (.ok result)]) ∨
    ∃ cause fault, (logs commands container 50 w).outcome = .raised fault ∧
      acts (logs commands container 50 w).events =
        [.command (logsProcess commands container.containerId) (.error cause)] ∧
      (logsRequest container.containerId 50).Settles (some logsTimeout) (.error cause)
        (.raised fault) := by
  have hrun := commands.run_unchecked_settles (r := logsRequest container.containerId 50)
    (by simp [logsRequest]) rfl rfl w
  have hprocess : commands.processFor (logsRequest container.containerId 50) w.environment =
    logsProcess commands container.containerId := rfl
  rw [hprocess] at hrun
  rw [logs_eq]
  rcases hrun with ⟨result, hdone, hrow⟩ | ⟨cause, fault, hraised, hrow, hsettles⟩
  · rw [Run.bind_done hdone]
    exact .inl ⟨_, result, rfl, by simpa using hrow⟩
  · rw [Run.bind_raised hraised]
    exact .inr ⟨cause, fault, rfl, hrow, hsettles⟩

theorem stop_course (container : Container) (w : World) :
    (∃ result, (stop commands container w).outcome = .done () ∧
      acts (stop commands container w).events =
        [.command (removalProcess commands container.containerId) (.ok result)]) ∨
    ∃ cause fault, (stop commands container w).outcome = .raised fault ∧
      acts (stop commands container w).events =
        [.command (removalProcess commands container.containerId) (.error cause)] ∧
      (removal container.containerId).Settles commands.defaultTimeout (.error cause)
        (.raised fault) := by
  unfold stop
  rw [Run.print_bind, Run.log_bind]
  rcases removal_course commands container.containerId w with
    ⟨result, hdone, hrow⟩ | ⟨cause, fault, hraised, hrow, hsettles⟩
  · rw [Run.bind_done hdone]
    exact .inl ⟨result, rfl, by simpa using hrow⟩
  · rw [Run.bind_raised hraised]
    exact .inr ⟨cause, fault, rfl, by simpa using hrow, hsettles⟩

end Logs

end Docker

namespace Runner

open Docker (Tolerated logsProcess removalProcess logsRequest removal logsTimeout)

variable (runner : Runner)

/-! ## Cleaning up -/

/-- A look at the logs ends the cleaning up only with a fault that is no preset fault. -/
theorem readLogs_course (container : Container) (w : World) :
    (∃ text reply, (runner.readLogs container w).outcome = .done text ∧
      Tolerated container.containerId reply ∧ acts (runner.readLogs container w).events =
        [.command (logsProcess runner.commands container.containerId) reply]) ∨
    ∃ cause fault, (runner.readLogs container w).outcome = .raised fault ∧
      fault.isPreset = false ∧ acts (runner.readLogs container w).events =
        [.command (logsProcess runner.commands container.containerId) (.error cause)] ∧
      (logsRequest container.containerId 50).Settles (some logsTimeout) (.error cause)
        (.raised fault) := by
  unfold readLogs
  rcases Docker.logs_course runner.commands container w with
    ⟨text, result, hdone, hrow⟩ | ⟨cause, fault, hraised, hrow, hsettles⟩
  · rw [Run.rescue_done hdone]
    exact .inl ⟨text, .ok result, hdone, Docker.tolerated_ok _ result, hrow⟩
  · rw [Run.rescue_raised hraised]
    cases hpreset : fault.isPreset with
    | true =>
      refine .inl ⟨"", .error cause, by simp, ⟨_, hsettles, ?_⟩, by simp [hrow]⟩
      intro _ h
      cases h
      exact hpreset
    | false =>
      exact .inr ⟨cause, fault, rfl, hpreset, by simp [hrow, Run.raise], hsettles⟩

/-- The container that is held is removed, and held on to if the removal fails. -/
theorem stop_course {container : Container} {w : World} (hheld : w.held = some container) :
    (∃ result, (runner.stop w).outcome = .done () ∧ (runner.stop w).world.held = none ∧
      acts (runner.stop w).events =
        [.command (removalProcess runner.commands container.containerId) (.ok result)]) ∨
    ∃ cause fault, (runner.stop w).outcome = .raised fault ∧
      (runner.stop w).world.held = some container ∧ acts (runner.stop w).events =
        [.command (removalProcess runner.commands container.containerId) (.error cause)] ∧
      (removal container.containerId).Settles runner.commands.defaultTimeout (.error cause)
        (.raised fault) := by
  unfold stop
  rw [Run.ask_bind, hheld]
  rcases Docker.stop_course runner.commands container w with
    ⟨result, hdone, hrow⟩ | ⟨cause, fault, hraised, hrow, hsettles⟩
  · simp only [Run.bind_done hdone]
    exact .inl ⟨result, rfl, rfl, by simpa [Run.hold] using hrow⟩
  · have kept := (Docker.stop_within runner.commands container).held w
    simp only [Run.bind_raised hraised]
    exact .inr ⟨cause, fault, rfl, kept.trans hheld, hrow, hsettles⟩

/-- What is started to clean up after a container, how that ends, and what is held then;
`otherwise` is the end if nothing goes wrong. -/
inductive Aftermath (container : Container) {α : Type} (otherwise : Outcome α) :
    List Event → Outcome α → Option Container → Prop
  /-- The look at the logs raises what is no preset fault, and there is no removal. -/
  | unread (cause second : Fault) :
      (logsRequest container.containerId 50).Settles (some logsTimeout) (.error cause)
        (.raised second) → second.isPreset = false →
      Aftermath container otherwise
        [.command (logsProcess runner.commands container.containerId) (.error cause)]
        (.raised second) (some container)
  /-- The removal raises a fault of its own. -/
  | unremoved (reply : Except Fault Completed) (cause second : Fault) :
      Tolerated container.containerId reply →
      (removal container.containerId).Settles runner.commands.defaultTimeout (.error cause)
        (.raised second) →
      Aftermath container otherwise
        [.command (logsProcess runner.commands container.containerId) reply,
          .command (removalProcess runner.commands container.containerId) (.error cause)]
        (.raised second) (some container)
  | removed (reply : Except Fault Completed) (result : Completed) :
      Tolerated container.containerId reply →
      Aftermath container otherwise
        [.command (logsProcess runner.commands container.containerId) reply,
          .command (removalProcess runner.commands container.containerId) (.ok result)]
        otherwise none

theorem cleanUp_aftermath {container : Container} {w : World} (hheld : w.held = some container) :
    runner.Aftermath container (.done ()) (acts (runner.cleanUp container w).events)
      (runner.cleanUp container w).outcome (runner.cleanUp container w).world.held := by
  have kept := (runner.readLogs_within container).held w
  unfold cleanUp
  rcases runner.readLogs_course container w with
    ⟨text, reply, hdone, htolerated, hlook⟩ | ⟨cause, second, hraised, hpreset, hlook, hsettles⟩
  · -- The record of the logs starts nothing, so what follows is the removal.
    have told (v : World) : ∃ before, acts before = [] ∧
        (if !text.isEmpty then do
          Run.log .debug ("Container logs:\n" ++ text)
          runner.stop
        else runner.stop : Run Unit) v = (runner.stop v).after before := by
      split
      · exact ⟨_, rfl, Run.log_bind ..⟩
      · exact ⟨[], rfl, rfl⟩
    obtain ⟨before, hquiet, hbefore⟩ := told (runner.readLogs container w).world
    rw [Run.bind_done hdone, hbefore]
    simp only [Trace.after_outcome, Trace.after_world, Trace.after_events, acts_append, hlook,
      hquiet, List.nil_append]
    rcases runner.stop_course (kept.trans hheld) with
      ⟨result, hstop, hlet, hrow⟩ | ⟨cause, second, hstop, hstill, hrow, hsettles⟩
    · rw [hstop, hlet, hrow]
      exact .removed reply result htolerated
    · rw [hstop, hstill, hrow]
      exact .unremoved reply cause second htolerated hsettles
  · rw [Run.bind_raised hraised]
    simp only [hlook, kept, hheld]
    exact .unread cause second hsettles hpreset

/-- What leaves the container alone changes only the end that it had if nothing went wrong. -/
theorem Aftermath.bind {runner : Runner} {container : Container} {row : List Event} {α β : Type}
    {m : Run α} {w : World} {otherwise : Outcome α} {ending : Outcome β} {f : α → Run β}
    (h : runner.Aftermath container otherwise row (m w).outcome (m w).world.held)
    (hworld : ∀ a v, (f a v).world = v)
    (hending : (m w).outcome = otherwise → ((m >>= f) w).outcome = ending) :
    runner.Aftermath container ending row ((m >>= f) w).outcome ((m >>= f) w).world.held := by
  rw [Run.bind_world hworld]
  generalize (m w).world.held = held at h ⊢
  generalize houtcome : (m w).outcome = outcome at h hending
  cases h with
  | unread cause second hsettles hpreset =>
    rw [Run.bind_raised houtcome]
    exact .unread cause second hsettles hpreset
  | unremoved reply cause second htolerated hsettles =>
    rw [Run.bind_raised houtcome]
    exact .unremoved reply cause second htolerated hsettles
  | removed reply result htolerated =>
    rw [hending rfl]
    exact .removed reply result htolerated

/-- The fault of the container is raised again after the cleaning up. -/
theorem prepare_aftermath {container : Container} {fault : Fault} {w : World}
    (hheld : w.held = some container)
    (hfault : (runner.bringUp container w).outcome = .raised fault) :
    (runner.prepare container w).events = (runner.bringUp container w).events ++
        (runner.cleanUp container (runner.bringUp container w).world).events ∧
      runner.Aftermath container (.raised fault)
        (acts (runner.cleanUp container (runner.bringUp container w).world).events)
        (runner.prepare container w).outcome (runner.prepare container w).world.held := by
  have kept := ((runner.bringUp_within container).held w).trans hheld
  unfold prepare
  rw [Run.rescue_raised hfault, Trace.after_events, Trace.after_outcome, Trace.after_world,
    Run.bind_events fun _ _ => rfl]
  refine ⟨rfl, (runner.cleanUp_aftermath kept).bind (fun _ _ => rfl) fun hdone => ?_⟩
  rw [Run.bind_done hdone]
  rfl

/-! ## Failed starts -/

section FailedStart

variable (container : Container) (fault : Fault) (w : World)

/-- The world in which a container that was just launched is brought up. -/
def launched : World := { (runner.launch w).world with held := some container }

/-- The world after bringing the container up. -/
def broughtUp : World := (runner.bringUp container (runner.launched container w)).world

/-- A start whose container ran but could not be brought up. -/
structure FailedStart (t : Trace Container) : Prop where
  /-- Nothing but the cleaning up comes after the fault. -/
  events : t.events = (runner.launch w).events ++
    (runner.bringUp container (runner.launched container w)).events ++
    (runner.cleanUp container (runner.broughtUp container w)).events
  /-- The cleaning up opens no session and asks no probe. -/
  quiet : ∀ e ∈ (runner.cleanUp container (runner.broughtUp container w)).events, e.IsOrdinary
  /-- Up to the fault no logs were read and nothing was removed. -/
  untouched : ∃ output, lifecycle ((runner.launch w).events ++
    (runner.bringUp container (runner.launched container w)).events) = [.launched output]
  aftermath : runner.Aftermath container (.raised fault)
    (acts (runner.cleanUp container (runner.broughtUp container w)).events) t.outcome t.world.held

variable {container fault w}

/-- If a container runs but cannot be brought up, its logs are read and it is removed. The start
ends with the fault that the container failed with, unless reading the logs raises what is no preset
fault, or the removal raises any fault. In these two cases the container is still held. -/
theorem failed_start_cleans_up (hlaunch : (runner.launch w).outcome = .done container)
    (hfault : (runner.bringUp container (runner.launched container w)).outcome = .raised fault) :
    runner.FailedStart container fault w (runner.start w) := by
  obtain ⟨hevents, haftermath⟩ := runner.prepare_aftermath (w := runner.launched container w) rfl
    hfault
  have heq : runner.start w = ((runner.prepare container >>= fun _ => pure container)
      (runner.launched container w)).after (runner.launch w).events := by
    unfold start
    rw [Run.bind_done hlaunch, Run.hold_bind]
    rfl
  rw [heq]
  refine ⟨?_, runner.cleanUp_leaves container _, ?_, ?_⟩
  · rw [Trace.after_events, Run.bind_events fun _ _ => rfl, hevents, List.append_assoc]
    rfl
  · have hends := runner.launch_ends w
    rw [hlaunch] at hends
    generalize hlife : lifecycle (runner.launch w).events = milestones at hends
    cases hends with
    | started output =>
      exact ⟨output, by simp [hlife, (runner.bringUp_harmless container).lifecycle_eq]⟩
  · exact haftermath.bind (fun _ _ => rfl) fun hraised => by rw [Run.bind_raised hraised]

end FailedStart

/-- The machine with a server that cannot seed the shop, where reading the logs takes too long and
the user interrupts the removal. -/
def crowdedMachine : World :=
  { fullMachine with
    processes := machine.processes.take 2 ++
      [("docker logs", [{ reply := .error (.other .timeout "timed out") }]),
        ("docker rm", [{ reply := .error .interruption }])] }

/-- Of three faults the last one ends the start of the shop: the seeding fails, the logs cannot be
read in time, and the removal is interrupted. -/
theorem shop_failure_hidden :
    (launch { config := shop } crowdedMachine).outcome = .done shopContainer ∧
      ∃ fault, (bringUp { config := shop } shopContainer
          (launched { config := shop } shopContainer crowdedMachine)).outcome = .raised fault ∧
        fault.isPreset = true ∧
        FailedStart { config := shop } shopContainer fault crowdedMachine
          (start { config := shop } crowdedMachine) ∧
        wasInterrupted (start { config := shop } crowdedMachine).outcome = true := by
  have hvalue :
      valueOf (launch { config := shop } crowdedMachine).outcome = some shopContainer := by
    decide +kernel
  have htest : (faultOf (bringUp { config := shop } shopContainer
      (launched { config := shop } shopContainer crowdedMachine)).outcome).any Fault.isPreset =
        true := by decide +kernel
  have hend : wasInterrupted (start { config := shop } crowdedMachine).outcome = true := by
    decide +kernel
  have hlaunch := eq_done_of_valueOf hvalue
  obtain ⟨fault, hfault, hpreset⟩ := exists_of_faultOf htest
  exact ⟨hlaunch, fault, hfault, hpreset, failed_start_cleans_up _ hlaunch hfault, hend⟩

end Runner

end SeededServer
