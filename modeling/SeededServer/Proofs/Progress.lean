import SeededServer.Proofs.Removal

/-!
# What a start that succeeds has done

A run that ends with a value has done what its parts do on the way to one. `Run.Shows` follows an
event through the layers: a start that succeeds has started a container, looked up its port and
logged in, and after it the connection URL is printed.

## Main definitions

* `Run.Shows` — runs that leave a certain event before they end with a value.
* `Attempted` — what is found in the events of a run whose start succeeds.
-/
namespace SeededServer

/-! ## Events of the parts -/

namespace Run

section Parts

variable {α β : Type} {m : Run α} {w : World} {e : Event}

theorem mem_bind (h : e ∈ (m w).events) (f : α → Run β) : e ∈ ((m >>= f) w).events := by
  have hany (a : α) : (f a).Leaves fun _ => True := fun _ _ _ => trivial
  obtain ⟨tail, htail, -⟩ := Leaves.bind_tail (m := m) hany w
  rw [htail]
  exact List.mem_append_left tail h

theorem mem_bind_done {a : α} (hdone : (m w).outcome = .done a) {f : α → Run β}
    (h : e ∈ (f a (m w).world).events) : e ∈ ((m >>= f) w).events := by
  rw [bind_done hdone, Trace.after_events]
  exact List.mem_append_right _ h

theorem mem_rescue (h : e ∈ (m w).events) (handler : Fault → Run α) :
    e ∈ (rescue m handler w).events := by
  have hany (fault : Fault) : (handler fault).Leaves fun _ => True := fun _ _ _ => trivial
  obtain ⟨tail, htail, -⟩ := Leaves.rescue_tail (m := m) hany w
  rw [htail]
  exact List.mem_append_left tail h

theorem mem_ensure (h : e ∈ (m w).events) (last : Run Unit) : e ∈ (ensure m last w).events := by
  have hany : last.Leaves fun _ => True := fun _ _ _ => trivial
  obtain ⟨tail, htail, -⟩ := Leaves.ensure_tail (m := m) hany w
  rw [htail]
  exact List.mem_append_left tail h

end Parts

/-- If the run ends with a value, then it has left an event that satisfies `P`. -/
def Shows {α : Type} (m : Run α) (P : Event → Prop) : Prop :=
  ∀ w a, (m w).outcome = .done a → ∃ e ∈ (m w).events, P e

namespace Shows

variable {α β : Type} {P : Event → Prop} {m : Run α}

theorem bind (hm : m.Shows P) (f : α → Run β) : (m >>= f).Shows P := by
  intro w b hb
  obtain ⟨a, ha, -, -⟩ := of_bind_done hb
  obtain ⟨e, he, hP⟩ := hm w a ha
  exact ⟨e, mem_bind he f, hP⟩

theorem after {f : α → Run β} (hf : ∀ a, (f a).Shows P) : (m >>= f).Shows P := by
  intro w b hb
  obtain ⟨a, ha, hb, -⟩ := of_bind_done hb
  obtain ⟨e, he, hP⟩ := hf a _ b hb
  exact ⟨e, mem_bind_done ha he, hP⟩

theorem rescue (hm : m.Shows P) {handler : Fault → Run α}
    (hh : ∀ fault v a, (handler fault v).outcome ≠ .done a) : (Run.rescue m handler).Shows P := by
  intro w a ha
  obtain ⟨e, he, hP⟩ := hm w a (of_rescue_done (hh · · a) ha)
  exact ⟨e, mem_rescue he handler, hP⟩

theorem mapDriverError (hm : m.Shows P) {f : Fault → Fault} : (m.mapDriverError f).Shows P :=
  hm.rescue fun _ _ _ => nofun

end Shows

end Run

/-! ## The layers -/

/-- A process with such words in front. -/
def Event.StartsWith (words : List String) : Event → Prop
  | .command process _ => process.argv.take 2 = words
  | _ => False

/-- A login to the server. -/
def Event.IsLogin : Event → Prop
  | .connect .. => True
  | _ => False

/-- What a run attempts whose start succeeds: the start of a container, the lookup of a port, a
login, and the line with the connection URL. -/
structure Attempted (events : List Event) : Prop where
  launch : ∃ e ∈ events, e.StartsWith ["docker", "run"]
  lookup : ∃ e ∈ events, e.StartsWith ["docker", "port"]
  login : ∃ e ∈ events, e.IsLogin
  url : ∃ url, .print ("Connection URL: " ++ url) ∈ events

open Run (Shows)

/-- A command is started at least once. -/
theorem CommandRunner.run_shows (commands : CommandRunner) {r : Request} {words : List String}
    (h : r.argv.take 2 = words) : (commands.run r).Shows (Event.StartsWith words) := by
  refine .after fun _ => .after fun inherited => ?_
  obtain ⟨left, hleft⟩ : ∃ left, r.attempts = left + 1 := by
    refine ⟨r.attempts - 1, ?_⟩
    unfold Request.attempts
    omega
  rw [hleft]
  refine Shows.bind (fun w reply _ => ?_) _
  rw [attempt_startProcess]
  exact ⟨_, List.mem_singleton_self _, h⟩

namespace Docker

variable (docker : Docker) (commands : CommandRunner)

theorem launch_shows (name runId : String) (blueprint : Blueprint) :
    (docker.launch commands name runId blueprint).Shows (Event.StartsWith ["docker", "run"]) :=
  .after fun _ => .after fun _ => (commands.run_shows rfl).bind _

theorem publish_shows (name containerId : String) {ports : List (String × NamedPort)}
    (h : ports ≠ []) :
    (publish commands name containerId ports).Shows (Event.StartsWith ["docker", "port"]) := by
  refine Shows.rescue ?_ fun fault v a hdone => ?_
  · cases ports with
    | nil => exact absurd rfl h
    | cons entry rest => exact Shows.bind ((commands.run_shows rfl).bind _) _
  · obtain ⟨_, _, hdone, -⟩ := Run.of_bind_done hdone
    exact Run.bind_raise_ne_done hdone

end Docker

theorem Seeding.prepare_shows (access : Access) (address database : String)
    (statements : List String) :
    (Seeding.prepare access address database statements).Shows Event.IsLogin := by
  have connected (login : Login) : (Run.connect login).Shows Event.IsLogin := by
    intro w _ _
    refine ⟨.connect login (w.connect login).1, ?_, trivial⟩
    rw [Run.connect, Run.refusable_events]
    exact List.mem_singleton_self _
  have opened : (access.connect address Access.masterDatabase).Shows Event.IsLogin :=
    .after fun _ => .after fun _ => (connected _).mapDriverError
  exact Shows.bind (Shows.bind (opened.bind _) _) _

namespace Runner

variable (runner : Runner)

/-- A container that was started shows what docker shows of it: the console took the line. -/
theorem launch_shows {P : Event → Prop}
    (started : (runner.docker.start runner.commands runner.config.blueprint).Shows P) :
    runner.launch.Shows P := by
  refine .after fun _ => .after fun refusal => ?_
  cases refusal with
  | none => exact started
  | some refusal => exact fun _ _ hdone => absurd hdone Run.bind_raise_ne_done

theorem start_shows_launch : runner.start.Shows (Event.StartsWith ["docker", "run"]) := by
  have launched (name runId : String) :=
    runner.docker.launch_shows runner.commands name runId runner.config.blueprint
  exact (runner.launch_shows (.after fun _ => Shows.bind (launched _ _) _)).bind _

theorem start_shows_lookup : runner.start.Shows (Event.StartsWith ["docker", "port"]) := by
  have published (name containerId : String) :
      (Docker.publish runner.commands name containerId runner.config.ports).Shows
        (Event.StartsWith ["docker", "port"]) :=
    Docker.publish_shows runner.commands name containerId (by simp [Config.ports])
  exact (runner.launch_shows (.after fun _ => .after fun _ => (published _ _).bind _)).bind _

theorem start_shows_login : runner.start.Shows Event.IsLogin := by
  refine .after fun container => .after fun _ => Shows.bind (Shows.rescue ?_ ?_) _
  · refine .after fun _ => .after fun _ => .after fun address => ?_
    exact Seeding.prepare_shows runner.config.access address _ _
  · exact fun _ _ _ => Run.bind_raise_ne_done

theorem run_attempts {container : Container} {w : World}
    (hplain : runner.config.password.isPlain = true)
    (h : (runner.start w).outcome = .done container) : Attempted (runner.run w).events := by
  have hserve {e : Event} (he : e ∈ (runner.serve w).events) : e ∈ (runner.run w).events :=
    Run.mem_ensure (Run.mem_rescue he _) _
  have hstart {e : Event} (he : e ∈ (runner.start w).events) : e ∈ (runner.run w).events := by
    refine hserve ?_
    unfold serve
    rw [Run.log_bind]
    exact List.mem_cons_of_mem _ (Run.mem_bind he _)
  have shown {P : Event → Prop} (hP : runner.start.Shows P) : ∃ e ∈ (runner.run w).events, P e := by
    obtain ⟨e, he, hPe⟩ := hP w container h
    exact ⟨e, hstart he, hPe⟩
  obtain ⟨address, haddress⟩ := runner.address_of_start h
  obtain ⟨url, hurl⟩ := runner.exists_url_of_plain hplain address
  refine ⟨shown runner.start_shows_launch, shown runner.start_shows_lookup,
    shown runner.start_shows_login, url, ?_⟩
  refine hserve ?_
  unfold serve
  rw [Run.log_bind]
  refine List.mem_cons_of_mem _ (Run.mem_bind_done h (Run.mem_bind ?_ _))
  rw [runner.announce_of_url haddress hurl]
  simp

end Runner

end SeededServer
