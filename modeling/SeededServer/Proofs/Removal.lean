import SeededServer.Proofs.Lifecycle
import SeededServer.Proofs.StatementOrder

/-!
# Removing containers

An attached run removes every container that it launches. A detached one leaves a container behind
if its start succeeded, and also if the logs of a failed container could not be read because of a
fault that escapes the cleaning up.
-/
namespace SeededServer.Runner

variable (runner : Runner)

/-! ## Attached runs -/

/-- A removal of the container was started, and another one only if the first could not be run to
its end. -/
inductive Removals (containerId : String) : List Milestone → Prop where
  | once (failure : Option Fault) :
      Removals containerId [.removed (Docker.removalWords containerId) failure]
  | twice (fault : Fault) (failure : Option Fault) :
      Removals containerId [.removed (Docker.removalWords containerId) (some fault),
        .removed (Docker.removalWords containerId) failure]

/-- What an attached run does to containers: nothing, or it launches one and removes it. -/
inductive AttachedLife : List Milestone → Prop where
  | unlaunched : AttachedLife []
  | removed (output : String) (consulted : List (Option Fault)) {removals : List Milestone} :
      Removals (Text.strip output) removals →
        AttachedLife (.launched output :: (consulted.map .consulted ++ removals))

/-- The last removal of an attached run completes the life of its container. -/
theorem attachedLife_of_started {w : World} {milestones : List Milestone}
    {outcome : Outcome Container} (h : StartEnds none milestones outcome w.held)
    (hends : outcome ≠ .unfinished) :
    AttachedLife (milestones ++ lifecycle (runner.stop w).events) ∧
      ((runner.stop w).outcome = .done () → (runner.stop w).world.held = none) := by
  -- Whether the stop does anything depends on what is still held, which each way to end tells.
  have held_none (hheld : w.held = none) : lifecycle (runner.stop w).events = [] ∧
      ((runner.stop w).outcome = .done () → (runner.stop w).world.held = none) := by
    rw [runner.stop_of_held_none hheld]
    exact ⟨rfl, fun _ => hheld⟩
  have held_some (container : Container) (hheld : w.held = some container) :
      ∃ failure, lifecycle (runner.stop w).events =
          [.removed (Docker.removalWords container.containerId) failure] ∧
        ((runner.stop w).outcome = .done () → (runner.stop w).world.held = none) := by
    rcases runner.stop_ends hheld with ⟨_, hlet, hlife⟩ | ⟨fault, cause, hraised, _, hlife⟩
    · exact ⟨none, hlife, fun _ => hlet⟩
    · exact ⟨some cause, hlife, fun hdone => nomatch hraised.symm.trans hdone⟩
  generalize hafter : w.held = after at h
  cases h with
  | notLaunched fault =>
    obtain ⟨hstop, hlet⟩ := held_none hafter
    rw [hstop]
    exact ⟨.unlaunched, hlet⟩
  | unpublished output failure fault =>
    obtain ⟨hstop, hlet⟩ := held_none hafter
    rw [hstop]
    exact ⟨.removed output [] (.once failure), hlet⟩
  | running output container hid =>
    obtain ⟨failure, hstop, hlet⟩ := held_some container hafter
    rw [hstop, hid]
    exact ⟨.removed output [] (.once failure), hlet⟩
  | failed output container milestones cleaning held fault hid hclean =>
    cases hclean with
    | unread cause fault =>
      obtain ⟨failure, hstop, hlet⟩ := held_some container hafter
      rw [hstop, hid]
      exact ⟨.removed output [some cause] (.once failure), hlet⟩
    | unremoved consulted cause fault =>
      obtain ⟨failure, hstop, hlet⟩ := held_some container hafter
      rw [hstop, hid]
      exact ⟨.removed output [consulted] (.twice cause failure), hlet⟩
    | removed consulted =>
      obtain ⟨hstop, hlet⟩ := held_none hafter
      rw [hstop, hid]
      exact ⟨.removed output [consulted] (.once none), hlet⟩
  | unfinished => exact absurd rfl hends

/-- An attached run removes every container that it launches, and a second removal is started only
if the first could not be run to its end. If the run returns, then no container is held. -/
theorem attached_run_removes_container {w : World} (hattached : runner.detach = false)
    (hfresh : w.held = none) (hends : (runner.run w).outcome ≠ .unfinished) :
    AttachedLife (lifecycle (runner.run w).events) ∧
      ∀ status, (runner.run w).outcome = .done status → (runner.run w).world.held = none := by
  have hserved := runner.served_undisturbed w
  have hstart := runner.start_ends w
  rw [← hserved.lifecycle_eq, ← hserved.held_eq, hfresh] at hstart
  unfold run at hends ⊢
  simp only [hattached, Bool.false_eq_true, if_false] at hends ⊢
  have hfinished : (Run.rescue runner.serve runner.report w).outcome ≠ .unfinished := by
    intro hunfinished
    rw [Run.ensure_unfinished hunfinished] at hends
    exact hends hunfinished
  obtain ⟨hlife, hlet⟩ := runner.attachedLife_of_started hstart
    fun hunfinished => hfinished (hserved.unfinished hunfinished)
  rw [Run.ensure_events hfinished, Run.ensure_world hfinished, lifecycle_append]
  exact ⟨hlife, fun status hdone => hlet (Run.ensure_outcome_done.1 hdone).2⟩

/-- The value that a run ended with. -/
def valueOf {α : Type} : Outcome α → Option α
  | .done a => some a
  | _ => none

theorem eq_done_of_valueOf {α : Type} {outcome : Outcome α} {a : α}
    (h : valueOf outcome = some a) : outcome = .done a := by
  cases outcome with
  | done value => exact congrArg Outcome.done (Option.some.inj h)
  | raised | unfinished => cases h

theorem ne_unfinished_of_valueOf {α : Type} {outcome : Outcome α} {a : α}
    (h : valueOf outcome = some a) : outcome ≠ .unfinished := by
  rintro rfl
  cases h

/-- The fault that a run ended with. -/
def faultOf {α : Type} : Outcome α → Option Fault
  | .raised fault => some fault
  | _ => none

theorem exists_of_faultOf {α : Type} {outcome : Outcome α} {test : Fault → Bool}
    (h : (faultOf outcome).any test = true) :
    ∃ fault, outcome = .raised fault ∧ test fault = true := by
  cases outcome with
  | raised fault => exact ⟨fault, rfl, h⟩
  | done | unfinished => cases h

/-- The shop's container is removed once the user interrupts the run. -/
theorem shop_container_removed :
    machine.held = none ∧ (run { config := shop } machine).outcome ≠ .unfinished ∧
      AttachedLife (lifecycle (run { config := shop } machine).events) ∧
      ∀ status, (run { config := shop } machine).outcome = .done status →
        (run { config := shop } machine).world.held = none := by
  have hends : valueOf (run { config := shop } machine).outcome = some 0 := by decide +kernel
  exact ⟨rfl, ne_unfinished_of_valueOf hends,
    attached_run_removes_container { config := shop } rfl rfl (ne_unfinished_of_valueOf hends)⟩

/-! ## Detached runs -/

/-- A container that was brought up has an address. -/
theorem address_of_bringUp {container : Container} {w : World}
    (h : (runner.bringUp container w).outcome = .done ()) :
    ∃ address, container.address Container.defaultPort = .ok address := by
  obtain ⟨_, _, h, -⟩ := Run.of_bind_done h
  obtain ⟨_, _, h, -⟩ := Run.of_bind_done h
  obtain ⟨address, h, -, -⟩ := Run.of_bind_done h
  refine ⟨address, ?_⟩
  simp only [Endpoint.ofContainer] at h
  cases haddress : container.address Container.defaultPort with
  | ok found =>
    rw [haddress] at h
    cases h
    rfl
  | error fault =>
    rw [haddress] at h
    cases h

theorem address_of_start {container : Container} {w : World}
    (h : (runner.start w).outcome = .done container) :
    ∃ address, container.address Container.defaultPort = .ok address := by
  obtain ⟨launched, _, h, -⟩ := Run.of_bind_done h
  obtain ⟨_, _, h, -⟩ := Run.of_bind_done h
  obtain ⟨_, hprepare, h, -⟩ := Run.of_bind_done h
  cases h
  exact runner.address_of_bringUp (Run.of_rescue_done (fun _ _ => Run.bind_raise_ne_done) hprepare)

/-- A password that can be encoded has a place in every connection URL. -/
theorem exists_url_of_plain (hplain : runner.config.password.isPlain = true) (address : String) :
    ∃ url, runner.config.access.url address runner.config.database = .ok url := by
  have hpassword : runner.config.access.password = runner.config.password.head :=
    WideText.plain?_eq_some_iff.1 (by simp [WideText.plain?, Config.access, hplain])
  exact ⟨_, Access.url_of_plain _ _ hpassword⟩

/-- A detached runner whose start succeeded prints the URL and is done. -/
theorem serve_of_start {container : Container} {w : World} (hdetached : runner.detach = true)
    (hplain : runner.config.password.isPlain = true)
    (h : (runner.start w).outcome = .done container) :
    ∃ address url, container.address Container.defaultPort = .ok address ∧
      runner.config.access.url address runner.config.database = .ok url ∧
      (runner.serve w).outcome = .done 0 ∧
      .print ("Connection URL: " ++ url) ∈ (runner.serve w).events := by
  obtain ⟨address, haddress⟩ := runner.address_of_start h
  obtain ⟨url, hurl⟩ := runner.exists_url_of_plain hplain address
  have hannounce := runner.announce_of_url haddress hurl (runner.start w).world
  refine ⟨address, url, haddress, hurl, ?_⟩
  unfold serve
  rw [Run.log_bind, Run.bind_done h, Run.bind_done (by rw [hannounce]), hannounce]
  simp [attend, hdetached]

/-- The start of a detached run succeeded: the server answered, the database was created and seeded,
the URL was printed, and the container was left running. -/
structure Succeeds (w : World) (output : String) : Prop where
  started : ∃ container address url, (runner.start w).outcome = .done container ∧
    container.containerId = Text.strip output ∧
    container.address Container.defaultPort = .ok address ∧
    runner.config.access.url address runner.config.database = .ok url ∧
    .print ("Connection URL: " ++ url) ∈ (runner.run w).events
  seeded : RunsCourse runner.config True (runner.run w).events
  status : (runner.run w).outcome = .done 0
  kept : lifecycle (runner.run w).events = [.launched output]

/-- At the end of a detached run nothing is done. -/
theorem run_of_detached (hdetached : runner.detach = true) (w : World) :
    (runner.run w).events = (Run.rescue runner.serve runner.report w).events ∧
      (runner.run w).outcome = (Run.rescue runner.serve runner.report w).outcome := by
  unfold run
  simp only [hdetached, if_true]
  cases h : (Run.rescue runner.serve runner.report w).outcome with
  | done status => rw [Run.ensure_done h]; simp
  | raised fault => rw [Run.ensure_raised h]; simp [Run.raise]
  | unfinished => rw [Run.ensure_unfinished h]; simp [h]

theorem succeeds_of_start {w : World} {output : String} {container : Container}
    (hdetached : runner.detach = true) (hplain : runner.config.password.isPlain = true)
    (hid : container.containerId = Text.strip output)
    (hstart : (runner.start w).outcome = .done container)
    (hlife : lifecycle (runner.run w).events = [.launched output]) :
    runner.Succeeds w output := by
  obtain ⟨hevents, houtcome⟩ := runner.run_of_detached hdetached w
  obtain ⟨address, url, haddress, hurl, hserve, hprinted⟩ :=
    runner.serve_of_start hdetached hplain hstart
  rw [Run.rescue_done hserve] at hevents houtcome
  exact ⟨⟨container, address, url, hstart, hid, haddress, hurl, hevents ▸ hprinted⟩,
    (runner.run_course w).mono fun _ => ⟨container, hstart⟩, houtcome.trans hserve, hlife⟩

theorem Succeeds.isPlain {w : World} {output : String} (h : runner.Succeeds w output) :
    runner.config.password.isPlain = true := by
  obtain ⟨_, address, url, -, -, -, hurl, -⟩ := h.started
  cases hplain : runner.config.password.isPlain with
  | true => rfl
  | false =>
    have hwide : runner.config.access.password.isPlain = false := hplain
    obtain ⟨message, hfault⟩ := Access.url_of_not_plain address runner.config.database hwide
    cases hfault.symm.trans hurl

/-- A detached run that launched a container succeeds or removes the container, unless the logs were
consulted in vain because of a fault that escapes, or the start succeeded with a password that has
no place in a connection URL. In these cases it does neither. -/
theorem detached_run_cleans_up_iff {w : World} {output : String}
    (hdetached : runner.detach = true) (hends : (runner.run w).outcome ≠ .unfinished)
    (hlaunched : .launched output ∈ lifecycle (runner.run w).events) :
    (runner.Succeeds w output ∨ ∃ failure,
      .removed (Docker.removalWords (Text.strip output)) failure ∈
        lifecycle (runner.run w).events) ↔
    (¬∃ fault, .consulted (some fault) ∈ lifecycle (runner.run w).events ∧
        fault.escapes = true) ∧
      ((∃ container, (runner.start w).outcome = .done container) →
        runner.config.password.isPlain = true) := by
  have hserved := runner.served_undisturbed w
  have hstart := runner.start_ends w
  obtain ⟨hevents, houtcome⟩ := runner.run_of_detached hdetached w
  have hsame : lifecycle (runner.run w).events = lifecycle (runner.start w).events := by
    rw [hevents, hserved.lifecycle_eq]
  have hfailed {fault : Fault} (h : (runner.start w).outcome = .raised fault) :
      ¬runner.Succeeds w output := by
    rintro ⟨⟨_, _, _, hdone, -⟩, -⟩
    cases h.symm.trans hdone
  have hfinished : (runner.start w).outcome ≠ .unfinished :=
    fun h => hends (houtcome.trans (hserved.unfinished h))
  rw [hsame] at hlaunched ⊢
  generalize hlife : lifecycle (runner.start w).events = milestones at hstart hlaunched hsame ⊢
  generalize ho : (runner.start w).outcome = outcome at hstart hfinished
  generalize (runner.start w).world.held = after at hstart
  cases hstart with
  | notLaunched fault => simp at hlaunched
  | unpublished launched failure fault =>
    obtain rfl : output = launched := by simpa using hlaunched
    simp
  | running launched container hid =>
    obtain rfl : output = launched := by simpa using hlaunched
    have hsucceeds : runner.Succeeds w output ↔ runner.config.password.isPlain = true :=
      ⟨fun h => h.isPlain, fun hplain => runner.succeeds_of_start hdetached hplain hid ho hsame⟩
    simp [hsucceeds]
  | failed launched container milestones cleaning held fault hid hclean =>
    have hnot := hfailed ho
    cases hclean with
    | unread cause fault hescapes =>
      -- The only end without a removal: the fault left the cleaning up before the stop.
      obtain rfl : output = launched := by simpa using hlaunched
      simp [hnot, hescapes]
    | unremoved consulted cause fault hcaught =>
      obtain rfl : output = launched := by simpa using hlaunched
      cases consulted <;> simp_all
    | removed consulted hcaught =>
      obtain rfl : output = launched := by simpa using hlaunched
      cases consulted <;> simp_all
  | unfinished => exact absurd rfl hfinished

/-- The machine with a server that cannot seed the shop. -/
def fullMachine : World :=
  { machine with
    server := { failingStatements :=
      [("create table item (id int)", .other .driver "no space left")] } }

/-- The milestone is the launch of the shop's container. -/
def isShopLaunch : Milestone → Bool
  | .launched output => output == "c1\n"
  | _ => false

/-- The milestone is a look at logs that ended with a fault that escapes. -/
def isEscapedLook : Milestone → Bool
  | .consulted (some fault) => fault.escapes
  | _ => false

/-- A detached run leaves the shop's container behind: its seeding fails, and the user interrupts
the look at its logs. -/
theorem shop_container_left_behind :
    (run { config := shop, detach := true } fullMachine).outcome ≠ .unfinished ∧
      .launched "c1\n" ∈ lifecycle (run { config := shop, detach := true } fullMachine).events ∧
      ¬(Succeeds { config := shop, detach := true } fullMachine "c1\n" ∨ ∃ failure,
        .removed (Docker.removalWords (Text.strip "c1\n")) failure ∈
          lifecycle (run { config := shop, detach := true } fullMachine).events) := by
  have hends : valueOf (run { config := shop, detach := true } fullMachine).outcome = some 0 := by
    decide +kernel
  have hlaunch : (lifecycle (run { config := shop, detach := true } fullMachine).events).any
      isShopLaunch = true := by decide +kernel
  have hlook : (lifecycle (run { config := shop, detach := true } fullMachine).events).any
      isEscapedLook = true := by decide +kernel
  have hlaunched : .launched "c1\n" ∈
      lifecycle (run { config := shop, detach := true } fullMachine).events := by
    obtain ⟨milestone, hmem, htest⟩ := List.any_eq_true.1 hlaunch
    cases milestone with
    | launched output => exact eq_of_beq htest ▸ hmem
    | _ => cases htest
  refine ⟨ne_unfinished_of_valueOf hends, hlaunched, fun hclean => ?_⟩
  refine (detached_run_cleans_up_iff { config := shop, detach := true } rfl
    (ne_unfinished_of_valueOf hends) hlaunched).1 hclean |>.1 ?_
  obtain ⟨milestone, hmem, htest⟩ := List.any_eq_true.1 hlook
  rcases milestone with _ | (_ | fault) | _
  · cases htest
  · cases htest
  · exact ⟨fault, hmem, htest⟩
  · cases htest

end SeededServer.Runner
