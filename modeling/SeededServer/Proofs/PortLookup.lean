import SeededServer.Proofs.Attempts
import SeededServer.Proofs.Delivery
import SeededServer.Proofs.Progress

/-!
# The lookup of ports

A start of a container runs it, looks up its ports one after the other, and removes it again if a
lookup fails in any way: with a command that fails for good, with an output that names no port, or
with an interrupted rest. What is started for that is known in full, as is how it ends.

## Main definitions

* `Docker.LookupEnds` — how the lookup of a port ends.
* `Docker.AllFound` — all ports are found, in order.
* `Docker.StartCourse` — the course of the start of a container.
* `Docker.AllOrNothing` — a container with all its ports, or none.
-/
namespace SeededServer.Docker

section Lookup

variable (commands : CommandRunner) (containerId : String)

/-! ## One port -/

/-- The process that looks up a port; it inherits its environment. -/
def lookupProcess (port : NamedPort) : Command :=
  commands.processFor (lookupRequest containerId port) []

/-- Docker answers, after failures that were worth another attempt: at most three. -/
def Answered (port : NamedPort) (row : List Event) (result : Completed) : Prop :=
  ∃ earlier : List (Except Fault Completed), (∀ failure ∈ earlier, retryable failure = true) ∧
    earlier.length ≤ 3 ∧
    row = earlier.flatMap ((lookupRequest containerId port).again
        (lookupProcess commands containerId port)) ++
      [.command (lookupProcess commands containerId port) (.ok result)] ∧
    result.status = 0

variable {commands containerId} in
theorem Answered.tried {port : NamedPort} {row : List Event} {result : Completed}
    (h : Answered commands containerId port row result) :
    (lookupRequest containerId port).Tried (lookupProcess commands containerId port) 3 row
      (.done result) := by
  obtain ⟨earlier, hearlier, hlength, rfl, hstatus⟩ := h
  refine .settled earlier (.ok result) hearlier hlength (fun hretry => ?_) (.success result hstatus)
  simp [retryable, hstatus] at hretry

/-- How the lookup of a port ends, and what is started for it. -/
inductive LookupEnds (port : NamedPort) : List Event → Outcome Int → Prop
  | found {row : List Event} (result : Completed) (number : Int) :
      Answered commands containerId port row result →
      publishedPort (result.stdout.getD "") = .ok number → LookupEnds port row (.done number)
  | unreadable {row : List Event} (result : Completed) (fault : Fault) :
      Answered commands containerId port row result →
      publishedPort (result.stdout.getD "") = .error fault → LookupEnds port row (.raised fault)
  | failed {row : List Event} (fault : Fault) :
      (lookupRequest containerId port).Tried (lookupProcess commands containerId port) 3 row
        (.raised fault) → LookupEnds port row (.raised fault)

theorem lookUpPort_ends (port : NamedPort) (w : World) :
    LookupEnds commands containerId port (acts (lookUpPort commands containerId port w).events)
      (lookUpPort commands containerId port w).outcome := by
  have hattempts : (lookupRequest containerId port).attempts = 3 + 1 := rfl
  have hreport : (lookupRequest containerId port).Reportable := ⟨by rw [hattempts]; decide, rfl⟩
  have htried := commands.run_tried (by simp [lookupRequest]) hreport rfl hattempts w
  have heq : lookUpPort commands containerId port w =
      (commands.run (lookupRequest containerId port) >>= fun result =>
        Run.ofExcept (publishedPort (result.stdout.getD ""))) w := rfl
  rw [heq]
  cases houtcome : (commands.run (lookupRequest containerId port) w).outcome with
  | unfinished =>
    rw [houtcome] at htried
    exact absurd htried Request.Tried.not_unfinished
  | raised fault =>
    rw [houtcome] at htried
    rw [Run.bind_raised houtcome]
    exact .failed fault htried
  | done result =>
    rw [houtcome] at htried
    have hanswered : Answered commands containerId port _ result := htried.of_done rfl
    rw [Run.bind_done houtcome, Trace.after_events, Trace.after_outcome, acts_append]
    cases hport : publishedPort (result.stdout.getD "") with
    | ok number =>
      have hfound : LookupEnds commands containerId port _ _ := .found result number hanswered hport
      simpa [Run.ofExcept] using hfound
    | error fault =>
      have hunreadable : LookupEnds commands containerId port _ _ :=
        .unreadable result fault hanswered hport
      simpa [Run.ofExcept, Run.raise] using hunreadable

/-! ## All ports -/

/-- All ports are found in order, each with its number. -/
inductive AllFound : List (String × NamedPort) → List Event → List (String × Int) → Prop
  | nil : AllFound [] [] []
  | cons {name : String} {port : NamedPort} {ports : List (String × NamedPort)}
      {row rows : List Event} {number : Int} {numbers : List (String × Int)} :
      LookupEnds commands containerId port row (.done number) → AllFound ports rows numbers →
      AllFound ((name, port) :: ports) (row ++ rows) ((name, number) :: numbers)

/-- The first lookup that fails ends the lookups; the ports before it were found. -/
inductive FirstFails (ports : List (String × NamedPort)) : List Event → Fault → Prop
  | intro {before after : List (String × NamedPort)} {name : String} {port : NamedPort}
      {rows row : List Event} {numbers : List (String × Int)} {fault : Fault} :
      ports = before ++ (name, port) :: after → AllFound commands containerId before rows numbers →
      LookupEnds commands containerId port row (.raised fault) →
      FirstFails ports (rows ++ row) fault

variable {commands containerId}

theorem FirstFails.cons {name : String} {port : NamedPort} {ports : List (String × NamedPort)}
    {row rows : List Event} {number : Int} {fault : Fault}
    (hfound : LookupEnds commands containerId port row (.done number))
    (h : FirstFails commands containerId ports rows fault) :
    FirstFails commands containerId ((name, port) :: ports) (row ++ rows) fault := by
  cases h with
  | intro hsplit hbefore hfailing =>
    rw [← List.append_assoc]
    exact .intro (by rw [hsplit]; rfl) (hbefore.cons hfound) hfailing

variable (commands containerId)

theorem lookUpPorts_ends (ports : List (String × NamedPort)) (w : World) :
    (∃ numbers, (lookUpPorts commands containerId ports w).outcome = .done numbers ∧
      AllFound commands containerId ports
        (acts (lookUpPorts commands containerId ports w).events) numbers) ∨
    ∃ fault, (lookUpPorts commands containerId ports w).outcome = .raised fault ∧
      FirstFails commands containerId ports
        (acts (lookUpPorts commands containerId ports w).events) fault := by
  induction ports generalizing w with
  | nil => exact .inl ⟨[], rfl, .nil⟩
  | cons entry rest ih =>
    obtain ⟨name, port⟩ := entry
    have hlookup := lookUpPort_ends commands containerId port w
    unfold lookUpPorts
    cases houtcome : (lookUpPort commands containerId port w).outcome with
    | unfinished =>
      rw [houtcome] at hlookup
      cases hlookup
    | raised fault =>
      rw [houtcome] at hlookup
      rw [Run.bind_raised houtcome]
      exact .inr ⟨fault, rfl, .intro (List.nil_append _).symm .nil hlookup⟩
    | done number =>
      rw [houtcome] at hlookup
      rw [Run.bind_done houtcome, Trace.after_events, Trace.after_outcome, acts_append]
      rcases ih (lookUpPort commands containerId port w).world with
        ⟨numbers, hdone, hfound⟩ | ⟨fault, hraised, hfails⟩
      · rw [Run.bind_done hdone]
        refine .inl ⟨(name, number) :: numbers, rfl, ?_⟩
        simpa using hfound.cons hlookup
      · rw [Run.bind_raised hraised]
        exact .inr ⟨fault, rfl, hfails.cons hlookup⟩

/-! ## Removal -/

/-- The process that removes a container; it inherits its environment. -/
def removalProcess : Command := commands.processFor (removal containerId) []

/-- The container is removed if a lookup fails. The fault of the lookup ends the start, unless the
removal raises one of its own. -/
inductive PublishFails (ports : List (String × NamedPort)) : List Event → Fault → Prop
  | removed {row : List Event} {fault : Fault} (result : Completed) :
      FirstFails commands containerId ports row fault → PublishFails ports
        (row ++ [.command (removalProcess commands containerId) (.ok result)]) fault
  | unremoved {row : List Event} {fault : Fault} (cause second : Fault) :
      FirstFails commands containerId ports row fault →
      (removal containerId).Settles commands.defaultTimeout (.error cause) (.raised second) →
      PublishFails ports
        (row ++ [.command (removalProcess commands containerId) (.error cause)]) second

/-- A removal is one process, which may fail to run to its end. -/
theorem removal_course (w : World) :
    (∃ result, (commands.run (removal containerId) w).outcome = .done result ∧
      acts (commands.run (removal containerId) w).events =
        [.command (removalProcess commands containerId) (.ok result)]) ∨
    ∃ cause fault, (commands.run (removal containerId) w).outcome = .raised fault ∧
      acts (commands.run (removal containerId) w).events =
        [.command (removalProcess commands containerId) (.error cause)] ∧
      (removal containerId).Settles commands.defaultTimeout (.error cause) (.raised fault) :=
  commands.run_unchecked_settles (r := removal containerId) (by simp [removal]) rfl rfl w

theorem publish_course (name : String) (ports : List (String × NamedPort)) (w : World) :
    (∃ numbers, (publish commands name containerId ports w).outcome = .done numbers ∧
      AllFound commands containerId ports
        (acts (publish commands name containerId ports w).events) numbers) ∨
    ∃ fault, (publish commands name containerId ports w).outcome = .raised fault ∧
      PublishFails commands containerId ports
        (acts (publish commands name containerId ports w).events) fault := by
  unfold publish
  rcases lookUpPorts_ends commands containerId ports w with
    ⟨numbers, hdone, hfound⟩ | ⟨fault, hraised, hfails⟩
  · rw [Run.rescue_done hdone]
    exact .inl ⟨numbers, hdone, hfound⟩
  · rw [Run.rescue_raised hraised, Run.log_bind, Trace.after_after, Trace.after_events,
      Trace.after_outcome]
    right
    rcases removal_course commands containerId (lookUpPorts commands containerId ports w).world with
      ⟨result, hremoved, hrow⟩ | ⟨cause, second, hremoved, hrow, hsettles⟩
    · rw [Run.bind_done hremoved]
      refine ⟨fault, rfl, ?_⟩
      simpa [hrow, Run.raise] using PublishFails.removed result hfails
    · rw [Run.bind_raised hremoved]
      refine ⟨second, rfl, ?_⟩
      simpa [hrow] using PublishFails.unremoved cause second hfails hsettles

end Lookup

/-! ## The start -/

section Start

variable (docker : Docker) (commands : CommandRunner) (blueprint : Blueprint) (w : World)

/-- The name of the container that a start in this world gives. -/
def nameOf : String := containerName (runIdOf w)

/-- The process that starts the container. -/
def launchProcess : Command :=
  commands.processFor (docker.launchRequest (nameOf w) (runIdOf w) blueprint) w.environment

/-- The id of a container, from what docker says about its start. -/
def idOf (result : Completed) : String := Text.strip (result.stdout.getD "")

/-- The course of the start of a container: what is started for it, and how it ends. -/
inductive StartCourse : List Event → Outcome Container → Prop
  | notRun (reply : Except Fault Completed) (fault : Fault) :
      (∀ result, reply = .ok result → result.status ≠ 0) →
      StartCourse [.command (docker.launchProcess commands blueprint w) reply] (.raised fault)
  | started {row : List Event} {numbers : List (String × Int)} (result : Completed) :
      result.status = 0 → AllFound commands (idOf result) blueprint.ports row numbers →
      StartCourse (.command (docker.launchProcess commands blueprint w) (.ok result) :: row)
        (.done { runId := runIdOf w, name := nameOf w, containerId := idOf result,
                 host := docker.host, ports := numbers })
  | unpublished {row : List Event} {fault : Fault} (result : Completed) :
      result.status = 0 → PublishFails commands (idOf result) blueprint.ports row fault →
      StartCourse (.command (docker.launchProcess commands blueprint w) (.ok result) :: row)
        (.raised fault)

theorem launch_apply (name runId : String) :
    ∃ told, acts told = [] ∧ docker.launch commands name runId blueprint w =
      ((commands.run (docker.launchRequest name runId blueprint) >>= fun result =>
        pure (idOf result)) w).after told := by
  have hwarn : ∃ told, acts told = [] ∧ warnUnlicensed blueprint w = ⟨.done (), told, w⟩ := by
    unfold warnUnlicensed
    split
    · exact ⟨[], rfl, rfl⟩
    · exact ⟨_, rfl, rfl⟩
  obtain ⟨told, hacts, hwarn⟩ := hwarn
  unfold launch
  rw [Run.bind_done (congrArg Trace.outcome hwarn), hwarn, Run.print_bind, Trace.after_after]
  exact ⟨_, by simp [hacts], rfl⟩

/-- A launch is one process; it gives an id if that process exits well. -/
theorem launch_course :
    (∃ result, (docker.launch commands (nameOf w) (runIdOf w) blueprint w).outcome
        = .done (idOf result) ∧ result.status = 0 ∧
      acts (docker.launch commands (nameOf w) (runIdOf w) blueprint w).events
        = [.command (docker.launchProcess commands blueprint w) (.ok result)]) ∨
    ∃ fault reply, (docker.launch commands (nameOf w) (runIdOf w) blueprint w).outcome
        = .raised fault ∧ (∀ result, reply = .ok result → result.status ≠ 0) ∧
      acts (docker.launch commands (nameOf w) (runIdOf w) blueprint w).events
        = [.command (docker.launchProcess commands blueprint w) reply] := by
  obtain ⟨told, htold, heq⟩ :=
    docker.launch_apply commands blueprint w (nameOf w) (runIdOf w)
  obtain ⟨reply, hrow, hsettles⟩ := commands.run_settles
    (r := docker.launchRequest (nameOf w) (runIdOf w) blueprint)
    (by simp [launchRequest, runArguments]) rfl w
  change _ = [Event.command (docker.launchProcess commands blueprint w) reply] at hrow
  rw [heq, Trace.after_outcome, Trace.after_events, acts_append, htold, List.nil_append]
  generalize houtcome : (commands.run _ w).outcome = outcome at hsettles
  cases hsettles with
  | success result hstatus =>
    rw [Run.bind_done houtcome]
    exact .inl ⟨result, rfl, hstatus, by simpa using hrow⟩
  | ignored _ _ hunchecked => cases hunchecked
  | badExit result hstatus =>
    rw [Run.bind_raised houtcome]
    exact .inr ⟨_, .ok result, rfl, fun _ h => Except.ok.inj h ▸ hstatus, hrow⟩
  | missing cause | tooSlow cause | unshown cause | system cause | other cause =>
    rw [Run.bind_raised houtcome]
    exact .inr ⟨_, .error cause, rfl, by simp, hrow⟩

theorem start_course :
    StartCourse docker commands blueprint w (acts (docker.start commands blueprint w).events)
      (docker.start commands blueprint w).outcome := by
  have heq : docker.start commands blueprint w =
      (docker.launch commands (nameOf w) (runIdOf w) blueprint >>= fun containerId =>
        publish commands (nameOf w) containerId blueprint.ports >>= fun ports =>
          Run.log .info ("Container " ++ nameOf w ++ " started with ports " ++ portsText ports)
            >>= fun _ => pure { runId := runIdOf w, name := nameOf w, containerId,
                                host := docker.host, ports }) w := rfl
  rw [heq]
  rcases docker.launch_course commands blueprint w with
    ⟨result, hlaunch, hstatus, hrow⟩ | ⟨fault, reply, hlaunch, hbad, hrow⟩
  · rw [Run.bind_done hlaunch, Trace.after_events, Trace.after_outcome, acts_append, hrow]
    rcases publish_course commands (idOf result) (nameOf w) blueprint.ports
        (docker.launch commands (nameOf w) (runIdOf w) blueprint w).world with
      ⟨numbers, hpublish, hfound⟩ | ⟨fault, hpublish, hfails⟩
    · rw [Run.bind_done hpublish, Run.log_bind, Trace.after_after, Trace.after_events,
        Trace.after_outcome]
      simpa using StartCourse.started result hstatus hfound
    · rw [Run.bind_raised hpublish]
      exact .unpublished result hstatus hfails
  · rw [Run.bind_raised hlaunch, hrow]
    exact .notRun reply fault hbad

/-! ## All or nothing -/

/-- What a start comes to: a container with all its ports, or none. -/
structure AllOrNothing (t : Trace Container) : Prop where
  course : StartCourse docker commands blueprint w (acts t.events) t.outcome
  /-- A container is returned if and only if it runs and all its ports are found. -/
  returns_iff : (∃ container, t.outcome = .done container) ↔
    ∃ result row numbers, result.status = 0 ∧
      acts t.events = .command (docker.launchProcess commands blueprint w) (.ok result) :: row ∧
      AllFound commands (idOf result) blueprint.ports row numbers
  /-- Its ports have the names that were asked for, in their order. -/
  names (container : Container) : t.outcome = .done container →
    container.ports.map Prod.fst = blueprint.ports.map Prod.fst
  /-- It is not removed. -/
  keeps (container : Container) : t.outcome = .done container →
    ∀ e ∈ t.events, ¬ e.StartsWith ["docker", "rm"]
  /-- A container that runs but is not returned is removed last, and only once. -/
  removes (fault : Fault) (result : Completed) (row : List Event) : t.outcome = .raised fault →
    result.status = 0 →
    acts t.events = .command (docker.launchProcess commands blueprint w) (.ok result) :: row →
    ∃ lookups reply,
      row = lookups ++ [.command (removalProcess commands (idOf result)) reply] ∧
      ∀ e ∈ lookups, ¬ e.StartsWith ["docker", "rm"]

variable {docker commands blueprint w}

theorem LookupEnds.removes_nothing {containerId : String} {port : NamedPort} {row : List Event}
    {outcome : Outcome Int} (h : LookupEnds commands containerId port row outcome) :
    ∀ e ∈ row, ¬ e.StartsWith ["docker", "rm"] := by
  have htried : ∃ ending, (lookupRequest containerId port).Tried
      (lookupProcess commands containerId port) 3 row ending := by
    cases h with
    | found result _ hanswered | unreadable result _ hanswered =>
      exact ⟨_, hanswered.tried⟩
    | failed fault htried => exact ⟨_, htried⟩
  obtain ⟨ending, htried⟩ := htried
  intro e he
  rcases htried.forall_mem e he with ⟨reply, rfl⟩ | ⟨failure, rfl⟩
  · intro hwords
    simp [Event.StartsWith, lookupProcess, CommandRunner.processFor, lookupRequest] at hwords
  · exact not_false

theorem AllFound.removes_nothing {containerId : String} {ports : List (String × NamedPort)}
    {row : List Event} {numbers : List (String × Int)}
    (h : AllFound commands containerId ports row numbers) :
    ∀ e ∈ row, ¬ e.StartsWith ["docker", "rm"] := by
  induction h with
  | nil => exact List.forall_mem_nil _
  | cons hfound _ ih => exact List.forall_mem_append.2 ⟨hfound.removes_nothing, ih⟩

theorem AllFound.names {containerId : String} {ports : List (String × NamedPort)}
    {row : List Event} {numbers : List (String × Int)}
    (h : AllFound commands containerId ports row numbers) :
    numbers.map Prod.fst = ports.map Prod.fst := by
  induction h with
  | nil => rfl
  | cons _ _ ih => simp [ih]

/-- What ends with a fault after the container runs ends with its removal. -/
theorem PublishFails.removes {containerId : String} {ports : List (String × NamedPort)}
    {row : List Event} {fault : Fault} (h : PublishFails commands containerId ports row fault) :
    ∃ lookups reply, row = lookups ++ [.command (removalProcess commands containerId) reply] ∧
      ∀ e ∈ lookups, ¬ e.StartsWith ["docker", "rm"] := by
  have hfirst {rows : List Event} {cause : Fault}
      (hfails : FirstFails commands containerId ports rows cause) :
      ∀ e ∈ rows, ¬ e.StartsWith ["docker", "rm"] := by
    cases hfails with
    | intro _ hbefore hfailing =>
      exact List.forall_mem_append.2 ⟨hbefore.removes_nothing, hfailing.removes_nothing⟩
  cases h with
  | removed result hfails => exact ⟨_, .ok result, rfl, hfirst hfails⟩
  | unremoved cause second hfails => exact ⟨_, .error cause, rfl, hfirst hfails⟩

theorem StartCourse.returns_iff {row : List Event} {outcome : Outcome Container}
    (h : StartCourse docker commands blueprint w row outcome) :
    (∃ container, outcome = .done container) ↔
      ∃ result lookups numbers, result.status = 0 ∧
        row = .command (docker.launchProcess commands blueprint w) (.ok result) :: lookups ∧
        AllFound commands (idOf result) blueprint.ports lookups numbers := by
  cases h with
  | notRun reply fault hbad =>
    refine iff_of_false (fun ⟨_, h⟩ => nomatch h) ?_
    rintro ⟨result, lookups, numbers, hstatus, hrow, -⟩
    obtain ⟨hevent, -⟩ := List.cons.inj hrow
    exact hbad result (Event.command.inj hevent).2 hstatus
  | started result hstatus hfound =>
    exact iff_of_true ⟨_, rfl⟩ ⟨result, _, _, hstatus, rfl, hfound⟩
  | unpublished result hstatus hfails =>
    refine iff_of_false (fun ⟨_, h⟩ => nomatch h) ?_
    rintro ⟨other, lookups, numbers, -, hrow, hfound⟩
    obtain ⟨-, rfl⟩ := List.cons.inj hrow
    obtain ⟨before, reply, rfl, -⟩ := hfails.removes
    refine hfound.removes_nothing _ (List.mem_append_right _ (List.mem_singleton_self _)) ?_
    simp [Event.StartsWith, removalProcess, CommandRunner.processFor, removal]

theorem StartCourse.names {row : List Event} {container : Container}
    (h : StartCourse docker commands blueprint w row (.done container)) :
    container.ports.map Prod.fst = blueprint.ports.map Prod.fst := by
  cases h with
  | started _ _ hfound => exact hfound.names

theorem StartCourse.keeps {row : List Event} {container : Container}
    (h : StartCourse docker commands blueprint w row (.done container)) :
    ∀ e ∈ row, ¬ e.StartsWith ["docker", "rm"] := by
  cases h with
  | started _ _ hfound =>
    refine List.forall_mem_cons.2 ⟨?_, hfound.removes_nothing⟩
    simp [Event.StartsWith, launchProcess, CommandRunner.processFor, launchRequest, runArguments]

theorem StartCourse.removes {row : List Event} {fault : Fault} {result : Completed}
    (h : StartCourse docker commands blueprint w
      (.command (docker.launchProcess commands blueprint w) (.ok result) :: row) (.raised fault))
    (hstatus : result.status = 0) :
    ∃ lookups reply,
      row = lookups ++ [.command (removalProcess commands (idOf result)) reply] ∧
      ∀ e ∈ lookups, ¬ e.StartsWith ["docker", "rm"] := by
  cases h with
  | notRun _ _ hbad => exact absurd hstatus (hbad result rfl)
  | unpublished _ _ hfails => exact hfails.removes

/-- Whatever docker replies and whenever the user interrupts, a start returns a container with all
its ports, or removes what it started. -/
theorem start_all_or_nothing (docker : Docker) (commands : CommandRunner) (blueprint : Blueprint)
    (w : World) :
    AllOrNothing docker commands blueprint w (docker.start commands blueprint w) := by
  have hcourse := docker.start_course commands blueprint w
  refine ⟨hcourse, hcourse.returns_iff, fun container hdone => ?_, fun container hdone => ?_,
    fun fault result row hraised hstatus hrow => ?_⟩
  · rw [hdone] at hcourse
    exact hcourse.names
  · rw [hdone] at hcourse
    intro e he hwords
    cases e with
    | command process reply => exact hcourse.keeps _ (List.mem_filter.2 ⟨he, rfl⟩) hwords
    | _ => exact hwords
  · rw [hraised, hrow] at hcourse
    exact hcourse.removes hstatus

end Start

end SeededServer.Docker
