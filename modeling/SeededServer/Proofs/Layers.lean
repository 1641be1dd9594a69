import SeededServer.Proofs.Step
import SeededServer.Runner

/-!
# What the layers leave

Which events the operations of each layer can leave. Commands leave records, rests and starts of
their own process; what talks to the server leaves records, rests and exchanges of one account's
sessions.
-/
namespace SeededServer

/-! ## Kinds of events -/

namespace Event

/-- A record, a printed line, a rest, or the start of a process with such arguments. -/
def OfProcess (A : List String → Prop) : Event → Prop
  | .log .. | .print .. | .rest .. => True
  | .command process _ => A process.argv
  | _ => False

/-- A record below the level of errors, or a rest. -/
def IsAside : Event → Prop
  | .log level _ => level ≠ .error
  | .rest .. => True
  | _ => False

/-- A record below the level of errors, a printed line, a rest, or the start of a process with such
arguments. -/
def OfCommand (A : List String → Prop) : Event → Prop
  | .log level _ => level ≠ .error
  | .print .. | .rest .. => True
  | .command process _ => A process.argv
  | _ => False

/-- A record below the level of errors, or an exchange that leaves a session with a database open,
where only such statements are executed. -/
def InSession (database : String) (S : String → Prop) : Event → Prop
  | .log level _ => level ≠ .error
  | .cursor name _ | .fetch name _ => name = database
  | .execute name statement _ => name = database ∧ S statement
  | _ => False

/-- What an administrator's session with a database leaves, its opening and its end included. -/
def OfSession (access : Access) (database : String) (S : String → Prop) : Event → Prop
  | .connect login _ => login.user = Access.user ∧ login.password = access.password ∧
      login.autocommit = true ∧ login.database = database
  | .close name _ => name = database
  | e => e.InSession database S

/-- A record below the level of errors, a printed line or a rest. -/
def IsCalm : Event → Prop := OfCommand fun _ => False

/-- Anything but an error and an exchange with the server. -/
def IsOrdinary : Event → Prop := OfCommand fun _ => True

/-- A record, a printed line or a rest. -/
def IsIdle : Event → Prop := OfProcess fun _ => False

/-- Anything but an exchange with the server. -/
def IsLocal : Event → Prop := OfProcess fun _ => True

/-- What a probe of a configured server leaves. -/
def OfProbe (config : Config) : Event → Prop :=
  OfSession config.access Access.masterDatabase (· = Liveness.query)

/-- What the seeding of a configured server leaves. -/
def OfSeeding (config : Config) (e : Event) : Prop :=
  e.OfSession config.access Access.masterDatabase (· = Seeding.creation config.database) ∨
    e.OfSession config.access config.database (· ∈ config.queries)

variable {A B : List String → Prop} {S T : String → Prop} {database : String}

theorem OfProcess.mono (hAB : ∀ argv, A argv → B argv) (e : Event) (h : OfProcess A e) :
    OfProcess B e := by
  cases e with
  | command process reply => exact hAB _ h
  | _ => exact h

theorem OfProcess.isLocal (e : Event) (h : OfProcess A e) : e.IsLocal :=
  OfProcess.mono (fun _ _ => trivial) e h

theorem OfCommand.mono (hAB : ∀ argv, A argv → B argv) (e : Event) (h : OfCommand A e) :
    OfCommand B e := by
  cases e with
  | command process reply => exact hAB _ h
  | _ => exact h

theorem IsAside.ofCommand (e : Event) (h : e.IsAside) : OfCommand A e := by
  cases e with
  | log | rest => exact h
  | _ => exact h.elim

theorem OfCommand.isOrdinary (e : Event) (h : OfCommand A e) : e.IsOrdinary :=
  OfCommand.mono (fun _ _ => trivial) e h

theorem OfCommand.ofProcess (e : Event) (h : OfCommand A e) : OfProcess A e := by
  cases e with
  | log => trivial
  | _ => exact h

theorem OfCommand.isLocal (e : Event) (h : OfCommand A e) : e.IsLocal :=
  (h.ofProcess e).isLocal

theorem InSession.mono (hST : ∀ statement, S statement → T statement) (e : Event)
    (h : InSession database S e) : InSession database T e := by
  cases e with
  | execute name statement failure => exact ⟨h.1, hST _ h.2⟩
  | _ => exact h

theorem InSession.ofSession (access : Access) (e : Event) (h : InSession database S e) :
    OfSession access database S e := by
  cases e with
  | connect login failure => exact h.elim
  | close name failure => exact h.elim
  | _ => exact h

end Event

open Run (Within)

/-! ## Commands -/

namespace CommandRunner

theorem reportRetry_within (r : Request) (attempt : Nat) (reason : String) :
    (reportRetry r attempt reason).Within Event.IsAside := by
  unfold reportRetry
  split
  · exact .log nofun
  · refine (Within.ask _).bind fun strict => ?_
    split
    · exact .raise _
    · exact .pure ()

theorem backOff_within (r : Request) (attempt : Nat) (reason : String) :
    (backOff r attempt reason).Within Event.IsAside :=
  (reportRetry_within r attempt reason).bind fun _ => .rest fun _ => trivial

theorem giveUp_within (r : Request) (limit : Option Number) (trouble : Trouble) :
    (trouble.giveUp r limit).Within Event.IsAside := by
  cases trouble with
  | tooSlow cause => exact .raise _
  | badExit result =>
    simp only [Trouble.giveUp]
    split
    · exact .raise _
    · exact (Within.log nofun).bind fun _ => .pure result

theorem logOutput_within (reply : Except Fault Completed) :
    (logOutput reply).Within Event.IsAside := by
  unfold logOutput
  split
  · split
    · exact .pure ()
    · exact .log nofun
  · exact .pure ()

variable {P : Event → Prop}

/-- However often a command is tried, it is the same process that is started. -/
theorem attemptFrom_within (aside : ∀ e, e.IsAside → P e) {process : Command}
    (started : ∀ reply, P (.command process reply)) (r : Request) (attempt left : Nat) :
    (attemptFrom process r attempt left).Within P := by
  induction left generalizing attempt with
  | zero => exact .raise _
  | succ left ih =>
    refine (Within.startProcess started).attempt.bind fun reply => ?_
    refine ((logOutput_within reply).mono aside).bind fun _ => ?_
    split
    · exact .ofExcept _
    · split
      · exact (giveUp_within r _ _).mono aside
      · exact ((backOff_within r attempt _).mono aside).bind fun _ => ih (attempt + 1)

/-- The process that a request is run as, over an inherited environment. -/
def processFor (runner : CommandRunner) (r : Request) (inherited : Environment) : Command where
  argv := r.argv
  capture := r.capture
  timeout := r.timeout <|> runner.defaultTimeout
  environment :=
    if r.environment.isEmpty then none else some (Entries.overlay inherited r.environment)

theorem run_apply (runner : CommandRunner) (r : Request) (w : World) :
    runner.run r w = (attemptFrom (runner.processFor r w.environment) r 1 r.attempts w).after
      [.log .debug ("Executing: " ++ r.line)] := rfl

/-- A request starts no process but its own. -/
theorem run_within_of_process (aside : ∀ e, e.IsAside → P e) (runner : CommandRunner) {r : Request}
    (started : ∀ inherited reply, P (.command (runner.processFor r inherited) reply)) :
    (runner.run r).Within P := by
  refine (Within.log (aside (.log .debug _) nofun)).bind fun _ => ?_
  refine (Within.ask _).bind fun inherited => ?_
  exact attemptFrom_within aside (started inherited) r 1 r.attempts

/-- A command starts no process with other arguments. -/
theorem run_within (runner : CommandRunner) (r : Request) :
    (runner.run r).Within (Event.OfCommand (· = r.argv)) :=
  runner.run_within_of_process Event.IsAside.ofCommand fun _ _ => rfl

end CommandRunner

/-! ## The docker runtime -/

namespace Docker

variable {docker : Docker} (commands : CommandRunner)

theorem validateEnvironment_within :
    (validateEnvironment commands).Within (Event.OfCommand (· = ["docker", "--version"])) := by
  refine (Within.print trivial).bind fun _ => ?_
  refine (commands.run_within _).bind fun _ => ?_
  exact .print trivial

/-- What a command runner is asked for to look up a port. -/
def lookupRequest (containerId : String) (port : NamedPort) : Request where
  argv := ["docker", "port", containerId, portSpec port]
  capture := true
  retries := lookupRetries
  backoff := lookupBackoff

/-- What a command runner is asked for to read the last lines that a container wrote. -/
def logsRequest (containerId : String) (tail : Int64) : Request where
  argv := ["docker", "logs", "--tail", Number.intText tail.toInt, containerId]
  check := false
  capture := true
  timeout := some logsTimeout

theorem logs_eq (container : Container) (tail : Int64) : logs commands container tail =
    (commands.run (logsRequest container.containerId tail) >>= fun result =>
      pure (joinOutputs [result.stdout.getD "", result.stderr.getD ""])) := rfl

theorem lookUpPorts_within_of_process {P : Event → Prop} (aside : ∀ e, e.IsAside → P e)
    {containerId : String} {ports : List (String × NamedPort)}
    (started : ∀ entry ∈ ports, ∀ inherited reply,
      P (.command (commands.processFor (lookupRequest containerId entry.2) inherited) reply)) :
    (lookUpPorts commands containerId ports).Within P := by
  induction ports with
  | nil => exact .pure []
  | cons entry rest ih =>
    obtain ⟨hentry, hrest⟩ := List.forall_mem_cons.1 started
    have lookup : (lookUpPort commands containerId entry.2).Within P :=
      (commands.run_within_of_process aside hentry).bind fun _ => .ofExcept _
    exact lookup.bind fun _ => (ih hrest).bind fun _ => .pure _

theorem lookUpPorts_within (containerId : String) (ports : List (String × NamedPort)) :
    (lookUpPorts commands containerId ports).Within
      (Event.OfCommand fun argv => argv.take 3 = ["docker", "port", containerId]) :=
  lookUpPorts_within_of_process commands Event.IsAside.ofCommand fun _ _ _ _ => rfl

theorem logs_within (container : Container) (tail : Int64) :
    (logs commands container tail).Within (Event.OfCommand
      (· = ["docker", "logs", "--tail", Number.intText tail.toInt, container.containerId])) :=
  (commands.run_within _).bind fun _ => .pure _

theorem stop_within (container : Container) :
    (stop commands container).Within
      (Event.OfCommand (· = ["docker", "rm", "-f", "-v", container.containerId])) := by
  refine (Within.print trivial).bind fun _ => ?_
  refine (Within.log nofun).bind fun _ => ?_
  exact (commands.run_within (removal container.containerId)).bind fun _ => .pure ()

theorem warnUnlicensed_within (blueprint : Blueprint) :
    (warnUnlicensed blueprint).Within Event.IsAside := by
  unfold warnUnlicensed
  split
  · exact .pure ()
  · exact .log nofun

theorem launch_within (docker : Docker) (name runId : String) (blueprint : Blueprint) :
    (docker.launch commands name runId blueprint).Within
      (Event.OfCommand (· = docker.runArguments name runId blueprint)) := by
  refine ((warnUnlicensed_within blueprint).mono Event.IsAside.ofCommand).bind fun _ => ?_
  refine (Within.print trivial).bind fun _ => ?_
  exact (commands.run_within _).bind fun _ => .pure _

theorem publish_within (name containerId : String) (ports : List (String × NamedPort)) :
    (publish commands name containerId ports).Within
      (Event.OfCommand fun argv => argv.take 3 = ["docker", "port", containerId] ∨
        argv = (removal containerId).argv) := by
  have lookup := (lookUpPorts_within commands containerId ports).mono
    (Event.OfCommand.mono fun argv h => Or.inl (b := argv = (removal containerId).argv) h)
  refine lookup.rescue fun fault => ?_
  refine (Within.log nofun).bind fun _ => ?_
  have remove := (commands.run_within (removal containerId)).mono
    (Event.OfCommand.mono fun argv h =>
      Or.inr (a := argv.take 3 = ["docker", "port", containerId]) h)
  exact remove.bind fun _ => .raise fault

/-- Only processes are started until a container runs. -/
theorem start_within (docker : Docker) (blueprint : Blueprint) :
    (docker.start commands blueprint).Within Event.IsOrdinary := by
  refine (Within.ask _).bind fun token => ?_
  have launched (name runId : String) :=
    (launch_within commands docker name runId blueprint).mono Event.OfCommand.isOrdinary
  refine (launched _ _).bind fun containerId => ?_
  have published (name : String) :=
    (publish_within commands name containerId blueprint.ports).mono Event.OfCommand.isOrdinary
  refine (published _).bind fun ports => ?_
  exact (Within.log nofun).bind fun _ => .pure _

end Docker

/-! ## Sessions -/

namespace Access

variable {access : Access} {database : String} {S : String → Prop}

theorem connect_within (address : String) :
    (access.connect address database).Within (Event.OfSession access database S) := by
  refine (Within.ofExcept _).bind fun (host, port) => ?_
  refine (Within.log nofun).bind fun _ => ?_
  exact (Within.connect fun _ => ⟨rfl, rfl, rfl, rfl⟩).mapDriverError

theorem withSession_within {α : Type} {body : Run α} (address : String)
    (h : body.Within (Event.InSession database S)) :
    (access.withSession address database body).Within (Event.OfSession access database S) := by
  refine (connect_within address).bind fun _ => ?_
  exact (h.mono (Event.InSession.ofSession access)).ensure (.close fun _ => rfl)

end Access

theorem Liveness.ask_within (address : String) :
    (Access.orConnectionFailed address Access.masterDatabase do
      Run.openCursor Access.masterDatabase
      Run.execute Access.masterDatabase query
      Run.fetch Access.masterDatabase).Within
        (Event.InSession Access.masterDatabase (· = query)) := by
  refine Within.mapDriverError ?_
  refine (Within.openCursor fun _ => rfl).bind fun _ => ?_
  refine (Within.execute fun _ => ⟨rfl, rfl⟩).bind fun _ => ?_
  exact .fetch fun _ => rfl

/-- A probe talks to the master database only, and asks nothing but the liveness query. -/
theorem Liveness.probe_within (access : Access) (address : String) :
    (Liveness.probe access address).Within
      (Event.OfSession access Access.masterDatabase (· = Liveness.query)) := by
  refine (Access.withSession_within address (ask_within address)).bind fun row => ?_
  dsimp only
  split
  · exact .log nofun
  · exact .raise _

namespace Seeding

variable (access : Access) (address database : String)

/-- What is done in the session that creates a database. -/
def creating : Run Unit :=
  Run.mapDriverError
    (do
      Run.openCursor Access.masterDatabase
      Run.execute Access.masterDatabase (creation database))
    (creationFailed database)

/-- What is done in the session that seeds a database. -/
def applying (statements : List String) : Run Unit := do
  Run.openCursor database
  runFrom database 0 statements

theorem creating_within :
    (creating database).Within
      (Event.InSession Access.masterDatabase (· = creation database)) := by
  refine Within.mapDriverError ?_
  refine (Within.openCursor fun _ => rfl).bind fun _ => ?_
  exact .execute fun _ => ⟨rfl, rfl⟩

theorem createDatabase_within :
    (createDatabase access address database).Within
      (Event.OfSession access Access.masterDatabase (· = creation database)) :=
  (Access.withSession_within address (creating_within database)).bind fun _ => .log nofun

theorem runFrom_within (index : Nat) (statements : List String) :
    (runFrom database index statements).Within (Event.InSession database (· ∈ statements)) := by
  induction statements generalizing index with
  | nil => exact .pure ()
  | cons statement rest ih =>
    refine (Within.log nofun).bind fun _ => ?_
    refine (Within.execute fun _ => ⟨rfl, List.mem_cons_self⟩).mapDriverError.bind fun _ => ?_
    exact (ih (index + 1)).mono
      (Event.InSession.mono fun _ h => List.mem_cons_of_mem statement h)

theorem applying_within (statements : List String) :
    (applying database statements).Within (Event.InSession database (· ∈ statements)) :=
  (Within.openCursor fun _ => rfl).bind fun _ => runFrom_within database 0 statements

theorem runStatements_within (statements : List String) :
    (runStatements access address database statements).Within
      (Event.OfSession access database (· ∈ statements)) :=
  (Access.withSession_within address (applying_within database statements)).bind fun _ => .log nofun

theorem prepare_within (statements : List String) :
    (prepare access address database statements).Within
      (fun e => e.OfSession access Access.masterDatabase (· = creation database) ∨
        e.OfSession access database (· ∈ statements)) := by
  refine ((createDatabase_within _ _ _).mono fun _ h => .inl h).bind fun _ => ?_
  exact (runStatements_within _ _ _ _).mono fun _ h => .inr h

end Seeding

/-! ## Waiting until ready -/

namespace Readiness

variable {P : Event → Prop}

theorem poll_within {ι δ : Type} {time : Timing Run ι δ} {watch : Watch Run δ} (deadline : ι)
    (hafter : ∀ span, (time.after span).Within P) (hrest : ∀ span, (time.rest span).Within P)
    (hprobe : watch.probe.Within P) (hreport : ∀ n fault, (watch.report n fault).Within P)
    (fuel attempt : Nat) (interval : δ) :
    (poll time watch deadline fuel attempt interval).Within P := by
  induction fuel generalizing attempt interval with
  | zero => exact .pure Ending.unfinished
  | succ fuel ih =>
    refine hprobe.bind fun answer => ?_
    cases answer with
    | none => exact .pure (Ending.ready attempt)
    | some fault =>
      refine (hafter interval).bind fun instant => ?_
      split
      · exact .pure (Ending.late fault)
      · refine (hreport attempt fault).bind fun _ => ?_
        exact (hrest interval).bind fun _ => ih _ _

theorem clockAfter_within (span : Number) : (clockAfter span).Within P :=
  (Within.ask _).bind fun _ => (Within.ofExcept _).bind fun _ => .pure _

theorem notReady_within {probe : Run Unit} (h : probe.Within P) : (notReady probe).Within P := by
  refine h.attempt.bind fun ending => ?_
  cases ending with
  | ok => exact .pure none
  | error fault =>
    dsimp only
    split
    · exact .pure (some fault)
    · exact .raise fault

/-- A wait leaves two lines, the events of its probes, and what stands beside them. -/
theorem await_within (aside : ∀ e, e.IsAside → P e)
    (waiting : P (.print "[yellow]Waiting for database to be ready...[/yellow]"))
    (ready : P (.print "[green]Database is ready.[/green]")) (interval ceiling : Number)
    (container : Container) {probe : Run Unit} (h : probe.Within P) (timeout : Number) :
    (await interval ceiling container probe timeout).Within P := by
  refine (Within.print waiting).bind fun _ => ?_
  refine (clockAfter_within timeout).bind fun deadline => ?_
  refine (Within.ask _).bind fun patience => ?_
  refine (poll_within deadline clockAfter_within (fun _ => .rest fun _ => aside _ trivial)
    (notReady_within h) (fun _ _ => .log (aside (.log .debug _) nofun)) _ _ _).bind fun ending => ?_
  cases ending with
  | ready attempts => exact (Within.print ready).bind fun _ => .log (aside (.log .info _) nofun)
  | late fault => exact .raise _
  | unfinished => exact .unfinished

end Readiness

/-! ## The preset and the runner -/

namespace Config

variable (config : Config) (container : Container)

theorem probe_within : (config.probe (.ofContainer container)).Within (Event.OfProbe config) :=
  (Within.ofExcept _).bind fun address => Liveness.probe_within config.access address

theorem seed_within : (config.seed (.ofContainer container)).Within (Event.OfSeeding config) :=
  (Within.ofExcept _).bind fun address => Seeding.prepare_within config.access address _ _

end Config

namespace Runner

variable (runner : Runner) (container : Container)

theorem waitUntilReady_within :
    (runner.docker.waitUntilReady container (runner.config.probe (.ofContainer container))
      (.real runner.config.waitTimeout)).Within
        (fun e => e.IsCalm ∨ e.OfProbe runner.config) :=
  Readiness.await_within (fun e h => .inl (h.ofCommand e)) (.inl trivial) (.inl trivial) _ _ _
    ((runner.config.probe_within container).mono fun _ h => .inr h) _

theorem bringUp_within :
    (runner.bringUp container).Within
      (fun e => e.IsCalm ∨ e.OfProbe runner.config ∨ e.OfSeeding runner.config) := by
  refine ((runner.waitUntilReady_within container).mono fun e h => ?_).bind fun _ => ?_
  · exact h.imp_right .inl
  refine (Within.print (.inl trivial)).bind fun _ => ?_
  exact (runner.config.seed_within container).mono fun _ h => .inr (.inr h)

theorem readLogs_within_of {P : Event → Prop} (aside : ∀ e, e.IsAside → P e)
    (looked : (Docker.logs runner.commands container).Within P) :
    (runner.readLogs container).Within P := by
  refine looked.rescue fun fault => ?_
  split
  · exact (Within.log (aside (.log .debug _) nofun)).bind fun _ => .pure ""
  · exact .raise fault

theorem readLogs_within :
    (runner.readLogs container).Within (Event.OfCommand
      (· = ["docker", "logs", "--tail", "50", container.containerId])) :=
  runner.readLogs_within_of container Event.IsAside.ofCommand
    (Docker.logs_within runner.commands container 50)

theorem waitForInterrupt_within : waitForInterrupt.Within Event.IsCalm :=
  (Within.print trivial).bind fun _ => .restUntilInterrupted fun _ => trivial

theorem announce_within : (runner.announce container).Within Event.IsCalm := by
  refine (Within.print trivial).bind fun _ => ?_
  refine (Within.ofExcept _).bind fun address => ?_
  refine (Within.print trivial).bind fun _ => ?_
  refine ((Within.ofExcept _).bind fun _ => .ofExcept _).bind fun url => ?_
  exact .print trivial

/-- The lines that tell of a container before its connection URL. -/
def greeting (container : Container) (address : String) : List Event :=
  [.print ("[bold green]Container " ++ container.name ++ " is ready.[/bold green]"),
    .print ("Address: " ++ address)]

section Announce

variable {container : Container} {address : String}
  (haddress : container.address Container.defaultPort = .ok address)
include haddress

theorem url_of_address : runner.config.url (.ofContainer container) =
    Run.ofExcept (runner.config.access.url address runner.config.database) := by
  unfold Config.url
  simp only [Endpoint.ofContainer, haddress]
  rfl

theorem announce_of_url {url : String}
    (hurl : runner.config.access.url address runner.config.database = .ok url) (w : World) :
    runner.announce container w =
      ⟨.done (), greeting container address ++ [.print ("Connection URL: " ++ url)], w⟩ := by
  unfold announce
  rw [runner.url_of_address haddress, haddress, hurl]
  rfl

/-- Without a connection URL the fault of the password comes after the address. -/
theorem announce_of_no_url {fault : Fault}
    (hurl : runner.config.access.url address runner.config.database = .error fault) (w : World) :
    runner.announce container w = ⟨.raised fault, greeting container address, w⟩ := by
  unfold announce
  rw [runner.url_of_address haddress, haddress, hurl]
  rfl

end Announce

theorem attend_within : (runner.attend container).Within Event.IsCalm := by
  unfold attend
  split
  · exact .print trivial
  · exact waitForInterrupt_within

/-- Nothing happens after a start but records, lines and rests. -/
theorem followUp_within :
    (do
      runner.announce container
      runner.attend container
      pure 0 : Run Int).Within Event.IsCalm :=
  (runner.announce_within container).bind fun _ =>
    (runner.attend_within container).bind fun _ => .pure 0

theorem tellFault_within {P : Event → Prop} {line : String} (he : P (.print line)) :
    (runner.tellFault line).Within P :=
  (Within.check _).bind fun _ => .print he

theorem report_within (fault : Fault) : (runner.report fault).Within Event.IsIdle := by
  unfold report
  split
  · exact (Within.print trivial).bind fun _ => (Within.log trivial).bind fun _ => .pure 0
  · split
    · refine (runner.tellFault_within trivial).bind fun _ => ?_
      exact (Within.log trivial).bind fun _ => .pure 1
    · refine (runner.tellFault_within trivial).bind fun _ => ?_
      exact (Within.log trivial).bind fun _ => .pure 1

theorem stop_leaves_of {P : Event → Prop}
    (removed : ∀ container, (Docker.stop runner.commands container).Within P) :
    runner.stop.Leaves P := by
  refine (Within.ask World.held).leaves.bind fun held => ?_
  cases held with
  | none => exact (Within.pure ()).leaves
  | some container => exact (removed container).leaves.bind fun _ => .hold none

theorem cleanUp_leaves_of {P : Event → Prop} (aside : ∀ e, e.IsAside → P e)
    (looked : (Docker.logs runner.commands container).Within P) (stopped : runner.stop.Leaves P) :
    (runner.cleanUp container).Leaves P := by
  refine (runner.readLogs_within_of container aside looked).leaves.bind fun logs => ?_
  dsimp only
  split
  · exact (Within.log (aside (.log .debug _) nofun)).leaves.bind fun _ => stopped
  · exact stopped

/-- Removing the container that is held starts processes only. -/
theorem stop_leaves : runner.stop.Leaves Event.IsOrdinary :=
  runner.stop_leaves_of fun container =>
    (Docker.stop_within runner.commands container).mono Event.OfCommand.isOrdinary

theorem cleanUp_leaves : (runner.cleanUp container).Leaves Event.IsOrdinary :=
  runner.cleanUp_leaves_of container Event.IsAside.ofCommand
    ((Docker.logs_within runner.commands container 50).mono Event.OfCommand.isOrdinary)
    runner.stop_leaves

/-- A line that the console refuses leaves no more than a warning. -/
theorem startContainer_within {P : Event → Prop} (aside : ∀ e, e.IsAside → P e)
    (started : (runner.docker.start runner.commands runner.config.blueprint).Within P) :
    runner.startContainer.Within P := by
  refine (Within.ask _).bind fun refusal => ?_
  cases refusal with
  | none => exact started
  | some refusal => exact ((Docker.warnUnlicensed_within _).mono aside).bind fun _ => .raise refusal

/-- Only processes are started until a container runs. -/
theorem launch_within : runner.launch.Within Event.IsOrdinary := by
  have checked := Docker.validateEnvironment_within runner.commands
  refine (checked.mono Event.OfCommand.isOrdinary).bind fun _ => ?_
  exact runner.startContainer_within Event.IsAside.ofCommand
    (Docker.start_within runner.commands runner.docker _)

/-- A start leaves what a launch leaves and what bringing a container up leaves, or what cleaning up
after that leaves. -/
theorem start_leaves_of {P : Event → Prop} (launched : runner.launch.Leaves P)
    (broughtUp : ∀ container, (runner.bringUp container).Leaves P)
    (cleanedUp : ∀ container, (runner.cleanUp container).Leaves P) : runner.start.Leaves P := by
  refine launched.bind fun container => (Run.Leaves.hold _).bind fun _ => ?_
  have prepared : (runner.prepare container).Leaves P :=
    (broughtUp container).rescue fun fault =>
      (cleanedUp container).bind fun _ => (Within.raise fault).leaves
  exact prepared.bind fun _ => (Within.pure container).leaves

/-- A run leaves what its parts leave, a record in front of them. -/
theorem run_leaves_of {P : Event → Prop}
    (record : P (.log .info "Starting SQL Server container..."))
    (started : runner.start.Leaves P)
    (announced : ∀ container, (runner.announce container).Leaves P)
    (attended : ∀ container, (runner.attend container).Leaves P)
    (reported : ∀ fault, (runner.report fault).Leaves P) (stopped : runner.stop.Leaves P) :
    runner.run.Leaves P := by
  refine Run.Leaves.ensure (Run.Leaves.rescue ?_ reported) ?_
  · refine (Within.log record).leaves.bind fun _ => started.bind fun container => ?_
    refine (announced container).bind fun _ => (attended container).bind fun _ => ?_
    exact (Within.pure 0).leaves
  · split
    · exact (Within.pure ()).leaves
    · exact stopped

/-- A start talks to the server in probes and in the seeding only, and reports no error. -/
theorem start_leaves :
    runner.start.Leaves
      (fun e => e.IsOrdinary ∨ e.OfProbe runner.config ∨ e.OfSeeding runner.config) := by
  refine runner.start_leaves_of (runner.launch_within.leaves.mono fun e h => .inl h)
    (fun container => ?_) fun container => (runner.cleanUp_leaves container).mono fun e h => .inl h
  refine ((runner.bringUp_within container).mono fun e h => ?_).leaves
  exact h.imp_left (Event.OfCommand.isOrdinary e)

/-- Outside of probes and of the seeding, a run leaves the server alone. -/
theorem run_leaves :
    runner.run.Leaves
      (fun e => e.IsLocal ∨ e.OfProbe runner.config ∨ e.OfSeeding runner.config) := by
  have calm {m : Run Unit} (h : m.Within Event.IsCalm) : m.Leaves
      (fun e => e.IsLocal ∨ e.OfProbe runner.config ∨ e.OfSeeding runner.config) :=
    h.leaves.mono fun e he => .inl (Event.OfCommand.isLocal e he)
  refine runner.run_leaves_of (.inl trivial) ?_ (fun container => calm (runner.announce_within _))
    (fun container => calm (runner.attend_within _)) (fun fault => ?_) ?_
  · exact runner.start_leaves.mono fun e h => h.imp_left (Event.OfCommand.isLocal e)
  · exact (runner.report_within fault).leaves.mono fun e h => .inl (Event.OfProcess.isLocal e h)
  · exact runner.stop_leaves.mono fun e h => .inl (Event.OfCommand.isLocal e h)

end Runner

end SeededServer
