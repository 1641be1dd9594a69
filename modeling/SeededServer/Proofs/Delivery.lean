import SeededServer.Proofs.Entries
import SeededServer.Proofs.Milestones
import SeededServer.Proofs.Splitting

/-!
# Delivery of the environment

A container gets its environment through the docker process that starts it: docker is told names
only, and hands on the values that its own process has for them. Every start runs exactly one such
process. It has the values of the container's items whatever environment it would have inherited,
so what reaches the container is decided by the items alone.

## Main definitions

* `Docker.optionValues` — what docker reads as the values of an option.
* `Command.forwarded` — the variables that docker hands on to the container.
* `Docker.Delivers` — a process that delivers environment items.
-/
namespace SeededServer

/-! ## The words of a start -/

namespace Docker

/-- The options of the start of a container that take a value. -/
def valueOptions : List String := ["--name", "--label", "-e", "-p"]

/-- The values of an option in order, among the words behind `docker run`. The options end at the
first word that is none. -/
def optionValues (option : String) : List String → List String
  | word :: value :: rest =>
    if word ∈ valueOptions then
      if word = option then value :: optionValues option rest else optionValues option rest
    else if word = "-d" then optionValues option (value :: rest)
    else []
  | _ => []

theorem optionValues_flag {flag : String} (hflag : flag ∈ valueOptions) (option : String)
    (values rest : List String) :
    optionValues option (values.flatMap (fun value => [flag, value]) ++ rest) =
      (if flag = option then values else []) ++ optionValues option rest := by
  induction values with
  | nil => split <;> rfl
  | cons value values ih =>
    simp only [List.flatMap_cons, List.cons_append, List.nil_append, optionValues, hflag, if_true,
      ih]
    split <;> rfl

variable (docker : Docker) (name runId : String) (blueprint : Blueprint)

/-- How a port is published: on an address of this machine, under a number that is left open. -/
def publication (port : NamedPort) : String := docker.host ++ "::" ++ portSpec port

theorem optionValues_runArguments {option : String} (hname : "--name" ≠ option)
    (hlabel : "--label" ≠ option) :
    optionValues option ((docker.runArguments name runId blueprint).drop 2) =
      (if "-e" = option then itemNames blueprint.environment else []) ++
        if "-p" = option then blueprint.ports.map (docker.publication ·.2) else [] := by
  have hports : blueprint.ports.flatMap (fun entry => ["-p", docker.publication entry.2]) =
      (blueprint.ports.map (docker.publication ·.2)).flatMap (fun value => ["-p", value]) := by
    rw [List.flatMap_map]
  have hwords : (docker.runArguments name runId blueprint).drop 2 =
      "-d" :: "--name" :: name :: "--label" :: (label ++ "=" ++ runId) ::
        ((itemNames blueprint.environment).flatMap (fun value => ["-e", value]) ++
          ((blueprint.ports.map (docker.publication ·.2)).flatMap (fun value => ["-p", value]) ++
            [blueprint.image])) := by
    rw [← hports]
    simp [runArguments, publication, List.append_assoc]
  have henv : "-e" ∈ valueOptions := by simp [valueOptions]
  have hpublish : "-p" ∈ valueOptions := by simp [valueOptions]
  have himage : optionValues option [blueprint.image] = [] := rfl
  rw [hwords]
  simp only [optionValues, valueOptions, List.mem_cons, hname, hlabel, true_or, or_true, if_true,
    if_false]
  rw [if_neg (by simp), optionValues_flag henv, optionValues_flag hpublish, himage, List.append_nil]

end Docker

/-- The variables that docker hands on to the container that a process starts, each with the value
that the process has for it; `inherited` is the environment of a process without its own. -/
def Command.forwarded (process : Command) (inherited : Environment) :
    List (String × Option WideText) :=
  (Docker.optionValues "-e" (process.argv.drop 2)).map fun name =>
    (name, Entries.get? (process.environment.getD inherited) name)

/-! ## The one process -/

/-- The start of a container, with the reply of docker. -/
def Event.launch? : Event → Option (Command × Except Fault Completed)
  | .command process reply =>
    if process.argv.take 2 = ["docker", "run"] then some (process, reply) else none
  | _ => none

/-- The starts of containers in some events. -/
def launches (events : List Event) : List (Command × Except Fault Completed) :=
  events.filterMap Event.launch?

@[simp] theorem launches_append (first second : List Event) :
    launches (first ++ second) = launches first ++ launches second :=
  List.filterMap_append

@[simp] theorem launches_log (level : Level) (text : String) (events : List Event) :
    launches (.log level text :: events) = launches events := rfl

@[simp] theorem launches_print (text : String) (events : List Event) :
    launches (.print text :: events) = launches events := rfl

/-- What starts no container does not matter after what may have. -/
theorem launches_bind {α β : Type} {m : Run α} {f : α → Run β} {w : World}
    (hf : ∀ a, (f a).Within (·.launch? = none)) :
    launches ((m >>= f) w).events = launches (m w).events := by
  obtain ⟨tail, htail, hquiet⟩ := Run.Leaves.bind_tail (m := m) (fun a => (hf a).leaves) w
  rw [htail, launches_append, show launches tail = [] from List.filterMap_eq_nil_iff.2 hquiet,
    List.append_nil]

theorem Event.OfCommand.launch?_eq {A : List String → Prop}
    (hA : ∀ argv, A argv → argv.take 2 ≠ ["docker", "run"]) (e : Event) (h : e.OfCommand A) :
    e.launch? = none := by
  cases e with
  | command process reply => exact if_neg (hA _ h)
  | _ => rfl

theorem launches_asides {events : List Event} (h : ∀ e ∈ events, e.IsAside) :
    launches events = [] :=
  List.filterMap_eq_nil_iff.2 fun e he =>
    Event.OfCommand.launch?_eq (A := fun _ => False) (fun _ h => h.elim) e
      (Event.IsAside.ofCommand e (h e he))

namespace Docker

variable (docker : Docker) (commands : CommandRunner)

/-- What a command runner is asked for to start a container. -/
def launchRequest (name runId : String) (blueprint : Blueprint) : Request where
  argv := docker.runArguments name runId blueprint
  capture := true
  environment := itemValues blueprint.environment

theorem launch_launches (name runId : String) (blueprint : Blueprint) (w : World) :
    ∃ reply, launches (docker.launch commands name runId blueprint w).events =
      [(commands.processFor (docker.launchRequest name runId blueprint) w.environment, reply)] := by
  obtain ⟨told, hwarn, htold⟩ := warnUnlicensed_apply blueprint w
  generalize hrequest : docker.launchRequest name runId blueprint = request
  have hwords : request.argv.take 2 = ["docker", "run"] := by rw [← hrequest]; rfl
  have hargv : request.argv ≠ [] := by rw [← hrequest]; simp [launchRequest, runArguments]
  obtain ⟨reply, asides, -, hevents, hasides⟩ :=
    commands.run_once hargv (by rw [← hrequest]; rfl) w
  have hlaunch : Event.launch? (.command (commands.processFor request w.environment) reply) =
      some (commands.processFor request w.environment, reply) := if_pos hwords
  refine ⟨reply, ?_⟩
  unfold launch
  rw [Run.bind_done (by rw [hwarn]), hwarn, Run.print_bind, Trace.after_events, Trace.after_events,
    Run.bind_events fun _ _ => rfl, ← launchRequest, hrequest, hevents]
  simp only [launches_append, launches_asides htold, launches_log, List.nil_append, launches_print]
  rw [← List.singleton_append, launches_append, launches_asides hasides]
  simp [launches, hlaunch]

theorem publish_launchless (name containerId : String) (ports : List (String × NamedPort)) :
    (publish commands name containerId ports).Within (·.launch? = none) := by
  refine (publish_within commands name containerId ports).mono (Event.OfCommand.launch?_eq ?_)
  rintro argv (hport | rfl) hrun
  · have hwords := congrArg (List.take 2) hport
    rw [List.take_take] at hwords
    simp [hrun] at hwords
  · simp [removal] at hrun

/-- Every start of a container runs one process that starts it, over the environment at hand. -/
theorem start_launches (blueprint : Blueprint) (w : World) :
    ∃ name runId reply, launches (docker.start commands blueprint w).events =
      [(commands.processFor (docker.launchRequest name runId blueprint) w.environment, reply)] := by
  unfold start
  rw [Run.ask_bind]
  generalize runIdOf w = runId
  obtain ⟨reply, hlaunch⟩ :=
    docker.launch_launches commands (containerName runId) runId blueprint w
  refine ⟨_, runId, reply, Eq.trans (launches_bind fun containerId => ?_) hlaunch⟩
  refine (publish_launchless commands _ containerId blueprint.ports).bind fun ports => ?_
  exact (Run.Within.log (P := (·.launch? = none)) rfl).bind fun _ => .pure _

/-! ## What is delivered -/

/-- The value that some items give to a name: of several the last one counts. -/
def lastValue? (items : List EnvironmentItem) (name : String) : Option WideText :=
  Entries.get? (items.map splitItem).reverse name

theorem get?_itemValues (items : List EnvironmentItem) (name : String) :
    Entries.get? (itemValues items) name = lastValue? items name :=
  Entries.get?_ofList _ name

theorem lastValue?_eq_none_iff {items : List EnvironmentItem} {name : String} :
    lastValue? items name = none ↔ name ∉ itemNames items := by
  simp [lastValue?, Entries.get?_eq_none_iff, itemNames]

theorem lastValue?_append_cons {after : List EnvironmentItem} {item : EnvironmentItem}
    (h : (splitItem item).1 ∉ itemNames after) (before : List EnvironmentItem) :
    lastValue? (before ++ item :: after) (splitItem item).1 = some (splitItem item).2 := by
  have hafter : Entries.get? (after.map splitItem).reverse (splitItem item).1 = none :=
    lastValue?_eq_none_iff.2 h
  simp [lastValue?, Entries.get?_append, hafter, Entries.get?_cons]

example : lastValue? ["A=1", "B", "A=x=y"] "A" = some "x=y" := by decide

theorem itemValues_isEmpty (items : List EnvironmentItem) :
    (itemValues items).isEmpty = items.isEmpty := by
  cases items with
  | nil => rfl
  | cons item rest =>
    -- The name of the first item has a value, so there is an entry.
    have hvalue : Entries.get? (itemValues (item :: rest)) (splitItem item).1 ≠ none := by
      rw [get?_itemValues, ne_eq, lastValue?_eq_none_iff]
      simp [itemNames]
    cases hentries : itemValues (item :: rest) with
    | nil => exact absurd (by rw [hentries]; rfl) hvalue
    | cons => rfl

/-- An environment in which items are laid over an inherited one. -/
structure Overlaid (items : List EnvironmentItem) (inherited environment : Environment) : Prop where
  /-- Of several items with one name the last one counts. -/
  last : ∀ before item after, items = before ++ item :: after →
    (splitItem item).1 ∉ itemNames after →
      Entries.get? environment (splitItem item).1 = some (splitItem item).2
  /-- A name that no item has keeps its inherited value, or has none. -/
  others : ∀ name, name ∉ itemNames items →
    Entries.get? environment name = Entries.get? inherited name

theorem overlay_overlaid (items : List EnvironmentItem) (inherited : Environment) :
    Overlaid items inherited (Entries.overlay inherited (itemValues items)) where
  last := by
    rintro before item after rfl hafter
    rw [Entries.get?_overlay, get?_itemValues, lastValue?_append_cons hafter]
    rfl
  others := by
    intro name hname
    rw [Entries.get?_overlay, get?_itemValues, lastValue?_eq_none_iff.2 hname]
    rfl

/-- The process delivers environment items to the container that it starts; `inherited` is the
environment that it inherits unless it has its own. -/
structure Delivers (items : List EnvironmentItem) (inherited : Environment) (process : Command) :
    Prop where
  /-- An item is a name and a value, which stand before and after its first equals sign. -/
  parts : ∀ item ∈ items, ItemParts item.text (splitItem item).1 (splitItem item).2
  /-- Docker is told the names in order. -/
  names : optionValues "-e" (process.argv.drop 2) = items.map fun item => (splitItem item).1
  /-- Without items the environment is inherited as it is. -/
  inherits : items = [] → process.environment = none
  /-- With items the process has an environment of its own. -/
  owns : items ≠ [] → ∃ environment, process.environment = some environment ∧
    Overlaid items inherited environment
  /-- What is handed on to the container is what the items say. -/
  forwards : process.forwarded inherited =
    (itemNames items).map fun name => (name, lastValue? items name)

theorem launchRequest_delivers (name runId : String) (blueprint : Blueprint)
    (inherited : Environment) :
    Delivers blueprint.environment inherited
      (commands.processFor (docker.launchRequest name runId blueprint) inherited) := by
  generalize hitems : blueprint.environment = items
  generalize hprocess :
    commands.processFor (docker.launchRequest name runId blueprint) inherited = process
  have hnames : optionValues "-e" (process.argv.drop 2) = itemNames items := by
    rw [← hprocess, ← hitems]
    change optionValues "-e" ((docker.runArguments name runId blueprint).drop 2) = _
    rw [optionValues_runArguments docker name runId blueprint (by simp) (by simp)]
    simp
  have henvironment : process.environment = if items.isEmpty then none
      else some (Entries.overlay inherited (itemValues items)) := by
    rw [← hprocess, ← hitems, ← itemValues_isEmpty]
    rfl
  refine ⟨fun item _ => splitItem_parts item, hnames, ?_, ?_, ?_⟩
  · rintro rfl
    simpa using henvironment
  · intro hne
    rw [henvironment, if_neg (by simpa using hne)]
    exact ⟨_, rfl, overlay_overlaid items inherited⟩
  · rw [Command.forwarded, hnames]
    refine List.map_congr_left fun name hname => ?_
    have hne : items ≠ [] := by
      rintro rfl
      cases hname
    rw [henvironment, if_neg (by simpa using hne), Option.getD_some, Entries.get?_overlay,
      get?_itemValues]
    cases hvalue : lastValue? items name with
    | none => exact absurd hname (lastValue?_eq_none_iff.1 hvalue)
    | some value => rfl

/-- Every start of a container runs exactly one process that starts it. That process delivers the
container's environment items over whatever environment is at hand. -/
theorem start_delivers_environment (docker : Docker) (commands : CommandRunner)
    (blueprint : Blueprint) (w : World) :
    ∃ process reply, launches (docker.start commands blueprint w).events = [(process, reply)] ∧
      Delivers blueprint.environment w.environment process := by
  obtain ⟨name, runId, reply, hlaunch⟩ := docker.start_launches commands blueprint w
  exact ⟨_, reply, hlaunch, docker.launchRequest_delivers commands name runId blueprint _⟩

end Docker

end SeededServer
