import SeededServer.Proofs.Removal
import SeededServer.Proofs.Splitting

/-!
# Secrecy of the password

The password leaves a run in three places only: in the environment of the docker process that starts
the container, in the logins to the server, and in the connection URL that is printed.
`Event.redact` blanks these places. Two runs are alike if no world tells them apart once their
events are redacted; being alike passes from the parts of a run to the whole, so it is proved once
for each operation.

## Main definitions

* `Event.redact` — an event without the password.
* `Run.Alike` — runs that no world tells apart.
-/
namespace SeededServer

/-! ## Redacted events -/

/-- Blanks the password in an environment. -/
def hidePassword (environment : Environment) : Environment :=
  environment.map fun (name, value) =>
    (name, if name = Config.passwordVariable then "" else value)

/-- The words that the printed connection URL stands after. -/
def urlWords : List Char := "Connection URL: ".toList

/-- Blanks the password where it may leave a run. -/
def Event.redact : Event → Event
  | .command process reply =>
    if process.argv.take 2 = ["docker", "run"] then
      .command { process with environment := process.environment.map hidePassword } reply
    else .command process reply
  | .connect login failure => .connect { login with password := "" } failure
  | .print text =>
    if urlWords.isPrefixOf text.toList then .print (String.ofList urlWords) else .print text
  | e => e

theorem Event.redact_url (url : String) :
    Event.redact (.print ("Connection URL: " ++ url)) = .print (String.ofList urlWords) := by
  have hwords : urlWords.isPrefixOf ("Connection URL: " ++ url).toList = true := by
    rw [List.isPrefixOf_iff_prefix, String.toList_append]
    exact List.prefix_append ..
  exact if_pos hwords

/-! ## Runs that are alike -/

/-- No world tells the runs apart by their redacted events, by how they end, or by the world they
leave. -/
def Run.Alike {α : Type} (m n : Run α) : Prop :=
  ∀ w, (n w).outcome = (m w).outcome ∧
    (n w).events.map Event.redact = (m w).events.map Event.redact ∧ (n w).world = (m w).world

namespace Run.Alike

variable {α β : Type} {m n : Run α}

theorem refl (m : Run α) : m.Alike m := fun _ => ⟨rfl, rfl, rfl⟩

theorem bind {f g : α → Run β} (h : m.Alike n) (hfg : ∀ a, (f a).Alike (g a)) :
    (m >>= f).Alike (n >>= g) := by
  intro w
  obtain ⟨houtcome, hevents, hworld⟩ := h w
  cases hm : (m w).outcome with
  | done a =>
    obtain ⟨houtcome', hevents', hworld'⟩ := hfg a (m w).world
    rw [bind_done hm, bind_done (houtcome.trans hm), hworld]
    exact ⟨houtcome', by simp [hevents, hevents'], hworld'⟩
  | raised fault =>
    rw [bind_raised hm, bind_raised (houtcome.trans hm)]
    exact ⟨rfl, hevents, hworld⟩
  | unfinished =>
    rw [bind_unfinished hm, bind_unfinished (houtcome.trans hm)]
    exact ⟨rfl, hevents, hworld⟩

theorem attempt (h : m.Alike n) : (Run.attempt m).Alike (Run.attempt n) := by
  intro w
  obtain ⟨houtcome, hevents, hworld⟩ := h w
  cases hm : (m w).outcome with
  | done a =>
    rw [attempt_done hm, attempt_done (houtcome.trans hm)]
    exact ⟨rfl, hevents, hworld⟩
  | raised fault =>
    rw [attempt_raised hm, attempt_raised (houtcome.trans hm)]
    exact ⟨rfl, hevents, hworld⟩
  | unfinished =>
    rw [attempt_unfinished hm, attempt_unfinished (houtcome.trans hm)]
    exact ⟨rfl, hevents, hworld⟩

theorem rescue {handler handler' : Fault → Run α} (h : m.Alike n)
    (hh : ∀ fault, (handler fault).Alike (handler' fault)) :
    (Run.rescue m handler).Alike (Run.rescue n handler') := by
  refine h.attempt.bind fun ending => ?_
  cases ending with
  | ok a => exact refl _
  | error fault => exact hh fault

theorem ensure {last last' : Run Unit} (h : m.Alike n) (hl : last.Alike last') :
    (Run.ensure m last).Alike (Run.ensure n last') :=
  h.attempt.bind fun _ => hl.bind fun _ => refl _

theorem mapDriverError {f : Fault → Fault} (h : m.Alike n) :
    (m.mapDriverError f).Alike (n.mapDriverError f) :=
  h.rescue fun _ => refl _

/-- Exchanges are alike if the outside answers them alike and their events differ in the password
only. -/
theorem exchange {ρ : Type} {step : World → ρ × World} {event event' : ρ → Event}
    (h : ∀ reply, (event' reply).redact = (event reply).redact) :
    (Run.exchange step event).Alike (Run.exchange step event') := by
  intro w
  exact ⟨rfl, by simp [Run.exchange, h], rfl⟩

end Run.Alike

open Run (Alike)

/-! ## Starting the container -/

section Environment

variable {first second : Environment}

theorem has_hidePassword (environment : Environment) (name : String) :
    Entries.has (hidePassword environment) name = Entries.has environment name := by
  simp [Entries.has, hidePassword, Function.comp_def]

theorem hidePassword_put (name : String) (value : WideText) (environment : Environment) :
    hidePassword (Entries.put name value environment) =
      Entries.put name (if name = Config.passwordVariable then (↑"" : WideText) else value)
        (hidePassword environment) := by
  induction environment with
  | nil => rfl
  | cons entry rest ih =>
    obtain ⟨known, old⟩ := entry
    by_cases h : known = name
    · simp [Entries.put, hidePassword, h]
    · simpa [Entries.put, hidePassword, h] using ih

theorem hidePassword_ofList (entries : Environment) :
    hidePassword (Entries.ofList entries) = Entries.ofList (hidePassword entries) := by
  have step (done : Environment) :
      hidePassword (entries.foldl (fun done entry => Entries.put entry.1 entry.2 done) done) =
        (hidePassword entries).foldl (fun done entry => Entries.put entry.1 entry.2 done)
          (hidePassword done) := by
    induction entries generalizing done with
    | nil => rfl
    | cons entry rest ih =>
      rw [List.foldl_cons, ih, hidePassword_put]
      rfl
  exact step []

/-- The inherited environment does not matter. -/
theorem hidePassword_overlay (base : Environment) (h : hidePassword second = hidePassword first) :
    hidePassword (Entries.overlay base second) = hidePassword (Entries.overlay base first) := by
  have hnames (name : String) : Entries.has second name = Entries.has first name := by
    rw [← has_hidePassword second, h, has_hidePassword]
  simp only [Entries.overlay, hnames]
  simpa [hidePassword] using h

/-- Commands that start a container with such environments are alike. -/
theorem CommandRunner.attemptFrom_alike {process : Command} {environment : Option Environment}
    (hrun : process.argv.take 2 = ["docker", "run"])
    (hhidden : environment.map hidePassword = process.environment.map hidePassword)
    (r : Request) (laid : Environment) (attempt left : Nat) :
    (attemptFrom process r attempt left).Alike
      (attemptFrom { process with environment } { r with environment := laid } attempt left) := by
  induction left generalizing attempt with
  | zero => exact .refl _
  | succ left ih =>
    have hstart : (Run.startProcess process).Alike
        (Run.startProcess { process with environment }) := by
      refine (Run.Alike.exchange fun reply => ?_).bind fun reply => .refl (Run.ofExcept reply)
      simp [Event.redact, hrun, hhidden]
    refine hstart.attempt.bind fun reply => (Run.Alike.refl _).bind fun _ => ?_
    have hjudge : judge { r with environment := laid } reply = judge r reply := rfl
    rw [hjudge]
    cases judge r reply with
    | settled ending => exact .refl _
    | unsettled trouble =>
      by_cases hleft : left = 0
      · simp only [if_pos hleft]
        cases trouble <;> exact .refl _
      · simp only [if_neg hleft]
        cases trouble <;> exact (Run.Alike.refl _).bind fun _ => ih (attempt + 1)

theorem CommandRunner.run_alike (commands : CommandRunner) {r : Request} {laid : Environment}
    (hrun : r.argv.take 2 = ["docker", "run"])
    (hhidden : hidePassword laid = hidePassword r.environment) :
    (commands.run r).Alike (commands.run { r with environment := laid }) := by
  have hempty : laid.isEmpty = r.environment.isEmpty := by
    simpa [hidePassword] using congrArg List.isEmpty hhidden
  refine (Run.Alike.refl _).bind fun _ => (Run.Alike.refl _).bind fun inherited => ?_
  refine attemptFrom_alike hrun ?_ r laid 1 r.attempts
  dsimp only
  rw [hempty]
  split
  · rfl
  · exact congrArg some (hidePassword_overlay inherited hhidden)

end Environment

namespace Docker

/-- The password stands in one value of the environment, and in no name. -/
theorem items_alike (password password' : WideText) (items : List EnvironmentItem) :
    itemNames (.assign Config.passwordVariable password' :: items) =
        itemNames (.assign Config.passwordVariable password :: items) ∧
      hidePassword (itemValues (.assign Config.passwordVariable password' :: items)) =
        hidePassword (itemValues (.assign Config.passwordVariable password :: items)) := by
  have hname : '=' ∉ Config.passwordVariable.toList := by decide
  constructor
  · simp [itemNames, splitItem_assign hname]
  · simp only [itemValues, List.map_cons, splitItem_assign hname, hidePassword_ofList]
    simp [hidePassword]

variable (blueprint : Blueprint) {items : List EnvironmentItem}

theorem launch_alike (docker : Docker) (commands : CommandRunner) (name runId : String)
    (hnames : itemNames items = itemNames blueprint.environment)
    (hvalues : hidePassword (itemValues items) =
      hidePassword (itemValues blueprint.environment)) :
    (docker.launch commands name runId blueprint).Alike
      (docker.launch commands name runId { blueprint with environment := items }) := by
  have harguments : docker.runArguments name runId { blueprint with environment := items } =
      docker.runArguments name runId blueprint := by
    simp [runArguments, hnames]
  unfold launch
  rw [harguments]
  refine (Run.Alike.refl _).bind fun _ => (Run.Alike.refl _).bind fun _ => ?_
  exact (commands.run_alike rfl hvalues).bind fun _ => .refl _

theorem start_alike (docker : Docker) (commands : CommandRunner)
    (hnames : itemNames items = itemNames blueprint.environment)
    (hvalues : hidePassword (itemValues items) =
      hidePassword (itemValues blueprint.environment)) :
    (docker.start commands blueprint).Alike
      (docker.start commands { blueprint with environment := items }) :=
  (Run.Alike.refl _).bind fun _ =>
    (launch_alike blueprint docker commands _ _ hnames hvalues).bind fun _ => .refl _

end Docker

/-! ## Talking to the server -/

section Sessions

variable (access : Access) (password : WideText) (address database : String)

theorem Access.connect_alike :
    (access.connect address database).Alike
      (connect { access with password } address database) := by
  refine (Run.Alike.refl _).bind fun (host, port) => (Run.Alike.refl _).bind fun _ => ?_
  refine Run.Alike.mapDriverError ?_
  exact (Run.Alike.exchange fun _ => rfl).bind fun _ => .refl _

theorem Access.withSession_alike {α : Type} (body : Run α) :
    (access.withSession address database body).Alike
      (withSession { access with password } address database body) :=
  (access.connect_alike password address database).bind fun _ => .refl _

theorem Liveness.probe_alike :
    (probe access address).Alike (probe { access with password } address) :=
  (access.withSession_alike password address _ _).bind fun _ => .refl _

theorem Seeding.prepare_alike (statements : List String) :
    (prepare access address database statements).Alike
      (prepare { access with password } address database statements) := by
  refine Run.Alike.bind ?_ fun _ => ?_
  · exact (access.withSession_alike password address _ _).bind fun _ => .refl _
  · exact (access.withSession_alike password address _ _).bind fun _ => .refl _

end Sessions

namespace Readiness

variable {probe probe' : Run Unit}

theorem notReady_alike (h : probe.Alike probe') : (notReady probe).Alike (notReady probe') :=
  h.attempt.bind fun _ => .refl _

theorem poll_alike {ι δ : Type} (time : Timing Run ι δ) (watch : Watch Run δ)
    {probe' : Run (Option Fault)} (h : watch.probe.Alike probe') (deadline : ι)
    (fuel attempt : Nat) (interval : δ) :
    (poll time watch deadline fuel attempt interval).Alike
      (poll time { watch with probe := probe' } deadline fuel attempt interval) := by
  induction fuel generalizing attempt interval with
  | zero => exact .refl _
  | succ fuel ih =>
    refine h.bind fun answer => ?_
    cases answer with
    | none => exact .refl _
    | some fault =>
      refine (Run.Alike.refl _).bind fun instant => ?_
      split
      · exact .refl _
      · exact (Run.Alike.refl _).bind fun _ => (Run.Alike.refl _).bind fun _ => ih _ _

/-- Waits are alike if their probes are. -/
theorem await_alike (interval ceiling : Number) (container : Container) (h : probe.Alike probe')
    (timeout : Number) :
    (await interval ceiling container probe timeout).Alike
      (await interval ceiling container probe' timeout) := by
  refine (Run.Alike.refl _).bind fun _ => (Run.Alike.refl _).bind fun deadline => ?_
  refine (Run.Alike.refl _).bind fun patience => ?_
  exact (poll_alike _ _ (notReady_alike h) deadline patience 1 interval).bind fun _ => .refl _

end Readiness

/-! ## The runner -/

namespace Runner

variable (runner : Runner) (password : WideText)

/-- The same runner with another password. -/
def withPassword : Runner := { runner with config := { runner.config with password } }

theorem launch_alike : runner.launch.Alike (runner.withPassword password).launch := by
  obtain ⟨hnames, hvalues⟩ := Docker.items_alike runner.config.password password
    ((if runner.config.port = Config.serverPort then []
        else [.assign Config.portVariable runner.config.port.text])
      ++ (if runner.config.license then [.assign Config.licenseVariable "Y"] else []))
  refine (Run.Alike.refl _).bind fun _ => (Run.Alike.refl _).bind fun refusal => ?_
  cases refusal with
  | none => exact Docker.start_alike runner.config.blueprint _ _ hnames hvalues
  | some refusal => exact .refl _

theorem bringUp_alike (container : Container) :
    (runner.bringUp container).Alike ((runner.withPassword password).bringUp container) := by
  refine Run.Alike.bind ?_ fun _ => (Run.Alike.refl _).bind fun _ => ?_
  · refine Readiness.await_alike _ _ _ ?_ _
    exact (Run.Alike.refl _).bind fun address =>
      Liveness.probe_alike runner.config.access password address
  · exact (Run.Alike.refl _).bind fun address =>
      Seeding.prepare_alike runner.config.access password address _ _

theorem start_alike : runner.start.Alike (runner.withPassword password).start := by
  refine (runner.launch_alike password).bind fun container => ?_
  refine (Run.Alike.refl _).bind fun _ => ?_
  refine Run.Alike.bind ?_ fun _ => .refl _
  exact (runner.bringUp_alike password container).rescue fun _ => .refl _

/-- Before the connection URL nothing that is announced shows the password; passwords without
surrogates do not decide whether there is one. -/
theorem announce_alike (hplain : runner.config.password.isPlain = true)
    (hplain' : password.isPlain = true) (container : Container) :
    (runner.announce container).Alike ((runner.withPassword password).announce container) := by
  intro w
  -- The URLs differ, so the lines have to be compared after redaction, not the texts before.
  cases haddress : container.address Container.defaultPort with
  | ok address =>
    obtain ⟨url, hurl⟩ := runner.exists_url_of_plain hplain address
    obtain ⟨url', hurl'⟩ := (runner.withPassword password).exists_url_of_plain hplain' address
    rw [runner.announce_of_url haddress hurl,
      (runner.withPassword password).announce_of_url haddress hurl']
    exact ⟨rfl, by simp [Event.redact_url], rfl⟩
  | error fault =>
    have hraised (v : World) : (Run.ofExcept (.error fault : Except Fault String) v).outcome =
        .raised fault := rfl
    unfold announce
    rw [haddress, Run.print_bind, Run.print_bind, Run.bind_raised (hraised w),
      Run.bind_raised (hraised w)]
    exact ⟨rfl, rfl, rfl⟩

/-- The password decides nothing. A start is alike with every other password, and so is a whole run
if neither password holds a surrogate: it ends the same way and leaves the same world, and its
events are the same but for the password in the environment that the container is started with, in
the logins, and in the connection URL that is printed. -/
theorem run_hides_password (password : WideText) :
    runner.start.Alike (runner.withPassword password).start ∧
      (runner.config.password.isPlain = true → password.isPlain = true →
        runner.run.Alike (runner.withPassword password).run) := by
  refine ⟨runner.start_alike password, fun hplain hplain' => ?_⟩
  have hserve : runner.serve.Alike (runner.withPassword password).serve := by
    refine (Run.Alike.refl _).bind fun _ => (runner.start_alike password).bind fun container => ?_
    exact (runner.announce_alike password hplain hplain' container).bind fun _ => .refl _
  exact (hserve.rescue fun _ => .refl _).ensure (.refl _)

theorem shop_hides_password :
    (run { config := shop }).Alike (run (withPassword { config := shop } "p@ss [word]")) :=
  (run_hides_password { config := shop } "p@ss [word]").2 rfl rfl

/-- A password with a surrogate decides how a run ends: its start succeeds, but the connection URL
cannot be encoded. -/
theorem strayByte_shows :
    (run (withPassword { config := shop, detach := true } "a") machine).outcome = .done 0 ∧
      (run (withPassword { config := shop, detach := true } strayByte) machine).outcome =
        .done 1 := by
  constructor
  · exact eq_done_of_valueOf (by decide +kernel)
  · exact eq_done_of_valueOf (by decide +kernel)

end Runner

end SeededServer
