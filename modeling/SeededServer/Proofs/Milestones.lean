import SeededServer.Proofs.Layers

/-!
# Milestones

What is done to containers with the docker command line: one is launched, its logs are consulted,
one is removed. Each of these commands is tried once, so a single reply tells how it ends.

## Main definitions

* `Milestone` — what is done to containers.
* `lifecycle` — the milestones of some events.
* `Docker.StartEnds` — how the start of a container can end, with its milestones.
-/
namespace SeededServer

open Run (Within)

/-! ## Milestones -/

/-- What is done to containers. -/
inductive Milestone where
  /-- A container runs, and this is what docker wrote about it. -/
  | launched (output : String)
  /-- Logs were asked for. -/
  | consulted (failure : Option Fault)
  /-- A removal was started with these words. -/
  | removed (words : List String) (failure : Option Fault)

/-- The fault of a process that could not be run to its end. -/
def failureOf : Except Fault Completed → Option Fault
  | .ok _ => none
  | .error fault => some fault

/-- What an event does to containers, if it does anything. -/
def Event.milestone? : Event → Option Milestone
  | .command process reply =>
    if process.argv.take 2 = ["docker", "run"] then
      match reply with
      | .ok result =>
        if result.status = 0 then some (.launched (result.stdout.getD "")) else none
      | .error _ => none
    else if process.argv.take 2 = ["docker", "logs"] then some (.consulted (failureOf reply))
    else if process.argv.take 2 = ["docker", "rm"] then
      some (.removed (process.argv.drop 2) (failureOf reply))
    else none
  | _ => none

/-- What was done to containers, in order. -/
def lifecycle (events : List Event) : List Milestone := events.filterMap Event.milestone?

@[simp] theorem lifecycle_nil : lifecycle [] = [] := rfl

@[simp] theorem lifecycle_append (first second : List Event) :
    lifecycle (first ++ second) = lifecycle first ++ lifecycle second :=
  List.filterMap_append

@[simp] theorem lifecycle_log (level : Level) (text : String) (events : List Event) :
    lifecycle (.log level text :: events) = lifecycle events := rfl

@[simp] theorem lifecycle_print (text : String) (events : List Event) :
    lifecycle (.print text :: events) = lifecycle events := rfl

/-- The arguments of a process that does nothing to containers. -/
def IsHarmless (argv : List String) : Prop :=
  argv.take 2 ≠ ["docker", "run"] ∧ argv.take 2 ≠ ["docker", "logs"] ∧
    argv.take 2 ≠ ["docker", "rm"]

theorem Event.OfProcess.milestone?_eq {A : List String → Prop}
    (hA : ∀ argv, A argv → IsHarmless argv) (e : Event) (h : e.OfProcess A) :
    e.milestone? = none := by
  cases e with
  | command process reply =>
    obtain ⟨hrun, hlogs, hrm⟩ := hA _ h
    simp [milestone?, hrun, hlogs, hrm]
  | _ => rfl

theorem Event.OfCommand.milestone?_eq {A : List String → Prop}
    (hA : ∀ argv, A argv → IsHarmless argv) (e : Event) (h : e.OfCommand A) :
    e.milestone? = none :=
  OfProcess.milestone?_eq hA e (h.ofProcess e)

theorem Event.OfSession.milestone?_eq {access : Access} {database : String} {S : String → Prop}
    (e : Event) (h : e.OfSession access database S) : e.milestone? = none := by
  cases e with
  | command => exact h.elim
  | _ => rfl

theorem lifecycle_asides {events : List Event} (h : ∀ e ∈ events, e.IsAside) :
    lifecycle events = [] :=
  List.filterMap_eq_nil_iff.2 fun e he =>
    Event.OfCommand.milestone?_eq (A := fun _ => False) (fun _ h => h.elim) e
      (Event.IsAside.ofCommand e (h e he))

/-- Nothing is done to containers. -/
def Run.Harmless {α : Type} (m : Run α) : Prop := m.Within (·.milestone? = none)

theorem Run.Harmless.lifecycle_eq {α : Type} {m : Run α} (h : m.Harmless) (w : World) :
    lifecycle (m w).events = [] :=
  h.filterMap_eq_nil (fun _ he => he) w

/-! ## Commands that are tried once -/

namespace Fault

/-- The command runner has no preset fault for it. -/
def escapes (fault : Fault) : Bool := !(fault.isPreset || fault.isTimeout || fault.isSystem)

theorem isSystem_of_isMissingFile {fault : Fault} (h : fault.isMissingFile = true) :
    fault.isSystem = true := by
  cases fault with
  | preset => cases h
  | other kind message => cases kind <;> first | rfl | cases h

end Fault

/-- The time limit can be shown. -/
def CommandRunner.IsShown (limit : Option Number) : Prop := ∃ text, limitText limit = .ok text

/-- How a command ends that is tried once, after the reply to its only attempt. A time limit that
cannot be shown leaves open what a time-out becomes. -/
inductive Request.Ends (r : Request) (limit : Option Number) :
    Except Fault Completed → Outcome Completed → Prop where
  | success (result : Completed) : result.status = 0 ∨ r.check = false →
      Ends r limit (.ok result) (.done result)
  | badExit (result : Completed) (fault : Fault) : result.status ≠ 0 → r.check = true →
      Ends r limit (.ok result) (.raised fault)
  | failure (cause fault : Fault) :
      (CommandRunner.IsShown limit → fault.isPreset = !cause.escapes) →
        Ends r limit (.error cause) (.raised fault)

namespace CommandRunner

theorem attempt_startProcess (command : Command) (w : World) :
    Run.attempt (Run.startProcess command) w =
      ⟨.done (w.runProcess command).1, [.command command (w.runProcess command).1],
        (w.runProcess command).2⟩ := by
  unfold Run.startProcess
  simp only [Run.attempt, Run.exchange_bind]
  cases (w.runProcess command).1 with
  | ok result => rfl
  | error fault => rfl

/-- What follows from the reply to the only attempt at a command. -/
theorem judge_ends {r : Request} (hargv : r.argv ≠ []) (limit : Option Number)
    (reply : Except Fault Completed) (w : World) :
    r.Ends limit reply ((match judge r reply with
      | .settled ending => Run.ofExcept ending
      | .unsettled trouble => trouble.giveUp r limit) w).outcome := by
  cases reply with
  | ok result =>
    by_cases hstatus : result.status = 0
    · simp only [judge, hstatus]
      exact .success result (.inl hstatus)
    · simp only [judge, hstatus, Trouble.giveUp]
      cases hcheck : r.check with
      | true => exact .badExit result _ hstatus hcheck
      | false => exact .success result (.inr hcheck)
  | error cause =>
    by_cases hmissing : cause.isMissingFile = true
    · have hsystem := Fault.isSystem_of_isMissingFile hmissing
      obtain ⟨program, words, hcons⟩ := List.exists_cons_of_ne_nil hargv
      simp only [judge, hmissing, missingProgram, hcons]
      exact .failure cause _ fun _ => by
        simp [Fault.causedBy, Fault.isPreset, Fault.escapes, hsystem]
    by_cases htimeout : cause.isTimeout = true
    · simp only [judge, hmissing, htimeout, Trouble.giveUp]
      refine .failure cause _ fun hshown => ?_
      obtain ⟨text, htext⟩ := hshown
      simp [htext, Fault.showing, Fault.causedBy, Fault.isPreset, Fault.escapes, htimeout]
    by_cases hsystem : cause.isSystem = true
    · simp only [judge, hmissing, htimeout, hsystem]
      exact .failure cause _ fun _ => by
        simp [Fault.causedBy, Fault.isPreset, Fault.escapes, hsystem]
    · simp only [judge, hmissing, htimeout, hsystem]
      exact .failure cause cause fun _ => by simp [Fault.escapes, htimeout, hsystem]

theorem logOutput_apply (reply : Except Fault Completed) (w : World) :
    (logOutput reply w).outcome = .done () ∧ (logOutput reply w).world = w := by
  unfold logOutput
  split
  · split <;> exact ⟨rfl, rfl⟩
  · exact ⟨rfl, rfl⟩

/-- Every attempt starts with the process, whose output may be logged. -/
theorem attemptFrom_succ (process : Command) (r : Request) (attempt left : Nat) (w : World) :
    attemptFrom process r attempt (left + 1) w =
      ((match judge r (w.runProcess process).1 with
        | .settled ending => Run.ofExcept ending
        | .unsettled trouble =>
          if left = 0 then trouble.giveUp r process.timeout
          else do
            backOff r attempt (trouble.reason r)
            attemptFrom process r (attempt + 1) left) (w.runProcess process).2).after
        (.command process (w.runProcess process).1 ::
          (logOutput (w.runProcess process).1 (w.runProcess process).2).events) := by
  have hstart := attempt_startProcess process w
  obtain ⟨hlog, hlogged⟩ := logOutput_apply (w.runProcess process).1 (w.runProcess process).2
  rw [attemptFrom, Run.bind_done (congrArg Trace.outcome hstart), hstart, Run.bind_done hlog,
    hlogged]
  exact Trace.after_after _ _ _

/-- A command that is tried once starts its process first; nothing but asides follow. -/
theorem attemptFrom_once {r : Request} (hargv : r.argv ≠ []) (process : Command) (w : World) :
    r.Ends process.timeout (w.runProcess process).1 (attemptFrom process r 1 1 w).outcome ∧
      ∃ asides, (attemptFrom process r 1 1 w).events =
        .command process (w.runProcess process).1 :: asides ∧ ∀ e ∈ asides, e.IsAside := by
  rw [attemptFrom_succ]
  generalize (w.runProcess process).1 = reply
  generalize (w.runProcess process).2 = v
  have haside : (match judge r reply with
      | .settled ending => Run.ofExcept ending
      | .unsettled trouble => trouble.giveUp r process.timeout).Within Event.IsAside := by
    split
    · exact .ofExcept _
    · exact giveUp_within r _ _
  have hends := judge_ends hargv process.timeout reply v
  simp only [if_true, Trace.after_outcome, Trace.after_events, List.cons_append]
  refine ⟨hends, _, rfl, ?_⟩
  exact List.forall_mem_append.2 ⟨(logOutput_within reply).forall_mem v, haside.forall_mem v⟩

/-- A command that is tried once leaves the one process that it is run as, and ends as the reply
says. -/
theorem run_once (commands : CommandRunner) {r : Request} (hargv : r.argv ≠ [])
    (honce : r.attempts = 1) (w : World) :
    ∃ reply asides,
      r.Ends (r.timeout <|> commands.defaultTimeout) reply (commands.run r w).outcome ∧
      (commands.run r w).events = .log .debug ("Executing: " ++ r.line) ::
        .command (commands.processFor r w.environment) reply :: asides ∧
      ∀ e ∈ asides, e.IsAside := by
  obtain ⟨hends, asides, hevents, hasides⟩ :=
    attemptFrom_once hargv (commands.processFor r w.environment) w
  rw [run_apply, honce]
  exact ⟨_, asides, hends, congrArg _ hevents, hasides⟩

/-- To containers it does what its one process does. -/
theorem run_once_lifecycle (commands : CommandRunner) {r : Request} (hargv : r.argv ≠ [])
    (honce : r.attempts = 1) (w : World) :
    ∃ process reply, process.argv = r.argv ∧
      r.Ends (r.timeout <|> commands.defaultTimeout) reply (commands.run r w).outcome ∧
      lifecycle (commands.run r w).events = lifecycle [.command process reply] := by
  obtain ⟨reply, asides, hends, hevents, hasides⟩ := commands.run_once hargv honce w
  refine ⟨commands.processFor r w.environment, reply, rfl, hends, ?_⟩
  rw [hevents, lifecycle_log, ← List.singleton_append, lifecycle_append,
    lifecycle_asides hasides, List.append_nil]

/-- A command whose exit does not matter fails only if its process could not be run to its end. -/
theorem run_unchecked (commands : CommandRunner) {r : Request} (hargv : r.argv ≠ [])
    (honce : r.attempts = 1) (hcheck : r.check = false) (w : World) :
    ∃ process, process.argv = r.argv ∧
      ((∃ result, (commands.run r w).outcome = .done result ∧
        lifecycle (commands.run r w).events = lifecycle [.command process (.ok result)]) ∨
      ∃ fault cause, (commands.run r w).outcome = .raised fault ∧
        (IsShown (r.timeout <|> commands.defaultTimeout) → fault.isPreset = !cause.escapes) ∧
        lifecycle (commands.run r w).events = lifecycle [.command process (.error cause)]) := by
  obtain ⟨process, reply, hsame, hends, hevents⟩ := commands.run_once_lifecycle hargv honce w
  refine ⟨process, hsame, ?_⟩
  rw [hevents]
  generalize (commands.run r w).outcome = outcome at hends
  cases hends with
  | success result => exact .inl ⟨result, rfl, rfl⟩
  | badExit result fault _ hchecked => cases hcheck.symm.trans hchecked
  | failure cause fault hpreset => exact .inr ⟨fault, cause, rfl, hpreset, rfl⟩

end CommandRunner

/-! ## What docker does -/

namespace Docker

variable (docker : Docker) (commands : CommandRunner)

/-- The words of a forced removal, with the volumes of the container. -/
def removalWords (containerId : String) : List String := ["-f", "-v", containerId]

/-- A removal is started once, whatever docker says. -/
theorem removal_ends (containerId : String) (w : World) :
    (∃ result, (commands.run (removal containerId) w).outcome = .done result ∧
      lifecycle (commands.run (removal containerId) w).events =
        [.removed (removalWords containerId) none]) ∨
    ∃ fault cause, (commands.run (removal containerId) w).outcome = .raised fault ∧
      lifecycle (commands.run (removal containerId) w).events =
        [.removed (removalWords containerId) (some cause)] := by
  obtain ⟨process, hargv, hends⟩ :=
    commands.run_unchecked (r := removal containerId) (by simp [removal]) rfl rfl w
  have hlife (reply : Except Fault Completed) : lifecycle [.command process reply] =
      [.removed (removalWords containerId) (failureOf reply)] := by
    simp [lifecycle, Event.milestone?, hargv, removal, removalWords]
  rcases hends with ⟨result, hdone, hevents⟩ | ⟨fault, cause, hraised, -, hevents⟩
  · exact .inl ⟨result, hdone, hevents.trans (hlife _)⟩
  · exact .inr ⟨fault, cause, hraised, hevents.trans (hlife _)⟩

/-- A container is launched if docker says so. -/
theorem run_launches {r : Request} (hwords : r.argv.take 2 = ["docker", "run"])
    (honce : r.attempts = 1) (hcheck : r.check = true) (w : World) :
    (∃ result, (commands.run r w).outcome = .done result ∧
      lifecycle (commands.run r w).events = [.launched (result.stdout.getD "")]) ∨
    ∃ fault, (commands.run r w).outcome = .raised fault ∧
      lifecycle (commands.run r w).events = [] := by
  have hargv : r.argv ≠ [] := by
    intro hnil
    rw [hnil] at hwords
    cases hwords
  obtain ⟨process, reply, hsame, hends, hevents⟩ := commands.run_once_lifecycle hargv honce w
  have hrun : process.argv.take 2 = ["docker", "run"] := by rw [hsame, hwords]
  rw [hevents]
  generalize (commands.run r w).outcome = outcome at hends
  cases hends with
  | success result hgood =>
    have hstatus : result.status = 0 := by simpa [hcheck] using hgood
    exact .inl ⟨result, rfl, by simp [lifecycle, Event.milestone?, hrun, hstatus]⟩
  | badExit result fault hstatus =>
    exact .inr ⟨fault, rfl, by simp [lifecycle, Event.milestone?, hrun, hstatus]⟩
  | failure cause fault =>
    exact .inr ⟨fault, rfl, by simp [lifecycle, Event.milestone?, hrun]⟩

theorem warnUnlicensed_apply (blueprint : Blueprint) (w : World) :
    ∃ told, warnUnlicensed blueprint w = ⟨.done (), told, w⟩ ∧ ∀ e ∈ told, e.IsAside := by
  unfold warnUnlicensed
  split
  · exact ⟨[], rfl, List.forall_mem_nil _⟩
  · exact ⟨_, rfl, List.forall_mem_singleton.2 nofun⟩

theorem launch_ends (name runId : String) (blueprint : Blueprint) (w : World) :
    (∃ output, (docker.launch commands name runId blueprint w).outcome =
        .done (Text.strip output) ∧
      lifecycle (docker.launch commands name runId blueprint w).events = [.launched output]) ∨
    ∃ fault, (docker.launch commands name runId blueprint w).outcome = .raised fault ∧
      lifecycle (docker.launch commands name runId blueprint w).events = [] := by
  obtain ⟨told, hwarn, htold⟩ := warnUnlicensed_apply blueprint w
  unfold launch
  rw [Run.bind_done (by rw [hwarn]), hwarn, Run.print_bind]
  simp only [Trace.after_outcome, Trace.after_events, lifecycle_append, lifecycle_asides htold,
    lifecycle_print, lifecycle_nil, List.nil_append]
  let request : Request :=
    { argv := docker.runArguments name runId blueprint, capture := true,
      environment := itemValues blueprint.environment }
  rcases run_launches commands (r := request) rfl rfl rfl w with
    ⟨result, hdone, hlife⟩ | ⟨fault, hraised, hlife⟩
  · rw [Run.bind_done hdone]
    exact .inl ⟨_, rfl, by simpa using hlife⟩
  · rw [Run.bind_raised hraised]
    exact .inr ⟨fault, rfl, hlife⟩

/-- The ports of a new container are found, or the container is removed. -/
theorem publish_ends (name containerId : String) (ports : List (String × NamedPort)) (w : World) :
    (∃ numbers, (publish commands name containerId ports w).outcome = .done numbers ∧
      lifecycle (publish commands name containerId ports w).events = []) ∨
    (∃ fault failure, (publish commands name containerId ports w).outcome = .raised fault ∧
      lifecycle (publish commands name containerId ports w).events =
        [.removed (removalWords containerId) failure]) ∨
    (publish commands name containerId ports w).outcome = .unfinished := by
  have harmless : (lookUpPorts commands containerId ports).Harmless := by
    refine (lookUpPorts_within commands containerId ports).mono
      (Event.OfCommand.milestone?_eq fun argv h => ?_)
    have hwords : argv.take 2 = ["docker", "port"] := by
      simpa [List.take_take] using congrArg (List.take 2) h
    simp [IsHarmless, hwords]
  have quiet := harmless.lifecycle_eq w
  unfold publish
  cases h : (lookUpPorts commands containerId ports w).outcome with
  | done numbers =>
    rw [Run.rescue_done h]
    exact .inl ⟨numbers, h, quiet⟩
  | raised cause =>
    rw [Run.rescue_raised h, Run.log_bind]
    rcases removal_ends commands containerId (lookUpPorts commands containerId ports w).world with
      ⟨result, hdone, hlife⟩ | ⟨fault, failure, hraised, hlife⟩
    · rw [Run.bind_done hdone]
      exact .inr (.inl ⟨cause, none, rfl, by simp [quiet, hlife, Run.raise]⟩)
    · rw [Run.bind_raised hraised]
      exact .inr (.inl ⟨fault, some failure, rfl, by simp [quiet, hlife]⟩)
  | unfinished =>
    rw [Run.rescue_unfinished h]
    exact .inr (.inr h)

/-- How a container is started: what was done to it, and how it ends. -/
inductive StartEnds : List Milestone → Outcome Container → Prop where
  | notLaunched (fault : Fault) : StartEnds [] (.raised fault)
  | unpublished (output : String) (failure : Option Fault) (fault : Fault) :
      StartEnds [.launched output, .removed (removalWords (Text.strip output)) failure]
        (.raised fault)
  | started (output : String) (container : Container) :
      container.containerId = Text.strip output →
        StartEnds [.launched output] (.done container)
  | unfinished (milestones : List Milestone) : StartEnds milestones .unfinished

theorem start_ends (blueprint : Blueprint) (w : World) :
    StartEnds (lifecycle (docker.start commands blueprint w).events)
      (docker.start commands blueprint w).outcome := by
  unfold start
  rw [Run.ask_bind]
  generalize runIdOf w = runId
  rcases launch_ends docker commands (containerName runId) runId blueprint w with
    ⟨output, hlaunch, hlife⟩ | ⟨fault, hlaunch, hlife⟩
  · rw [Run.bind_done hlaunch]
    rcases publish_ends commands (containerName runId) (Text.strip output) blueprint.ports
        (docker.launch commands (containerName runId) runId blueprint w).world with
      ⟨numbers, hpublish, hports⟩ | ⟨fault, failure, hpublish, hports⟩ | hpublish
    · rw [Run.bind_done hpublish, Run.log_bind]
      simp only [Trace.after_outcome, Trace.after_events, lifecycle_append, hlife, hports]
      exact .started output _ rfl
    · rw [Run.bind_raised hpublish]
      simp only [Trace.after_outcome, Trace.after_events, lifecycle_append, hlife, hports]
      exact .unpublished output failure fault
    · rw [Run.bind_unfinished hpublish]
      exact .unfinished _
  · rw [Run.bind_raised hlaunch]
    rw [hlife]
    exact .notLaunched fault

/-- The container is removed, or it is not known to be. -/
theorem stop_ends (container : Container) (w : World) :
    ((stop commands container w).outcome = .done () ∧
      lifecycle (stop commands container w).events =
        [.removed (removalWords container.containerId) none]) ∨
    ∃ fault cause, (stop commands container w).outcome = .raised fault ∧
      lifecycle (stop commands container w).events =
        [.removed (removalWords container.containerId) (some cause)] := by
  unfold stop
  rw [Run.print_bind, Run.log_bind]
  rcases removal_ends commands container.containerId w with
    ⟨result, hdone, hlife⟩ | ⟨fault, cause, hraised, hlife⟩
  · rw [Run.bind_done hdone]
    exact .inl ⟨rfl, by simpa using hlife⟩
  · rw [Run.bind_raised hraised]
    exact .inr ⟨fault, cause, rfl, by simpa using hlife⟩

/-- Logs are asked for once; a fault of the docker process becomes a preset fault unless it
escapes. -/
theorem logs_ends (container : Container) (w : World) :
    (∃ text, (logs commands container 50 w).outcome = .done text ∧
      lifecycle (logs commands container 50 w).events = [.consulted none]) ∨
    ∃ fault cause, (logs commands container 50 w).outcome = .raised fault ∧
      fault.isPreset = !cause.escapes ∧
      lifecycle (logs commands container 50 w).events = [.consulted (some cause)] := by
  rw [logs_eq]
  obtain ⟨process, hargv, hends⟩ := commands.run_unchecked
    (r := logsRequest container.containerId 50) (by simp [logsRequest]) rfl rfl w
  have hlife (reply : Except Fault Completed) :
      lifecycle [.command process reply] = [.consulted (failureOf reply)] := by
    simp [lifecycle, Event.milestone?, hargv, logsRequest]
  rcases hends with ⟨result, hdone, hevents⟩ | ⟨fault, cause, hraised, hpreset, hevents⟩
  · rw [Run.bind_done hdone]
    exact .inl ⟨_, rfl, by simpa [failureOf] using hevents.trans (hlife _)⟩
  · rw [Run.bind_raised hraised]
    exact .inr ⟨fault, cause, rfl, hpreset ⟨_, rfl⟩, hevents.trans (hlife _)⟩

end Docker

end SeededServer
