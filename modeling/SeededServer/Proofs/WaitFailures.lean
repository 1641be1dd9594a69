import SeededServer.Proofs.ProbeVerdict

/-!
# Failures of the driver during a wait

A wait takes every preset fault of a probe for a server that is not ready yet, and goes on. An error
of the driver is wrapped in such a fault at every call of a probe but the last: the session is
closed outside of all handlers. So an error of the driver ends a wait if it comes from a close, and
never otherwise. What also ends a wait is an answer that no message can show, for it has an integer
of too many digits.

## Main definitions

* `Contained` — an error of a close ends the run as it is, an answer that cannot be shown ends it
  with a fault of its own; without them the run ends as it should.
* `Run.Contains` — a run is contained if nothing fails but with the driver's own errors.
* `Readiness.Settled` — how a wait should end.
-/
namespace SeededServer

/-! ## Contained failures -/

namespace Event

/-- The answer to the liveness query cannot be shown. -/
def isIllegible : Event → Bool
  | .fetch _ (.ok row) => !(Liveness.answer row).isWritable
  | _ => false

/-- The event ends a wait. -/
def aborts (e : Event) : Bool := e.isFailedClose || e.isIllegible

theorem aborts_eq_false_iff {e : Event} :
    e.aborts = false ↔ e.isFailedClose = false ∧ e.isIllegible = false := by
  simp [aborts]

end Event

/-- An error of a close ends the run as it is, otherwise an answer that cannot be shown ends it with
the fault of that, and without either the run ends as it should. -/
structure Contained {α : Type} (settled : Outcome α → Prop) (t : Trace α) : Prop where
  unclosed (database : String) (fault : Fault) :
    .close database (some fault) ∈ t.events → t.outcome = .raised fault
  unshown : (∀ e ∈ t.events, e.isFailedClose = false) → ∀ e ∈ t.events, e.isIllegible = true →
    t.outcome = .raised Number.tooLong
  calm : (∀ e ∈ t.events, e.aborts = false) → settled t.outcome

/-- The run ends with a value that satisfies `P`. -/
def Outcome.Returns {α : Type} (P : α → Prop) (outcome : Outcome α) : Prop :=
  ∃ a, outcome = .done a ∧ P a

/-- The run ends with a value or with a preset fault. -/
def Outcome.IsTame {α : Type} (outcome : Outcome α) : Prop :=
  (∃ a, outcome = .done a) ∨ ∃ fault, outcome = .raised fault ∧ fault.isPreset = true

open Outcome (Returns IsTame)

namespace Contained

variable {α : Type} {settled : Outcome α → Prop} {t : Trace α}

/-- Where nothing ends a wait there is one thing to know. -/
theorem of_calm (hcalm : ∀ e ∈ t.events, e.aborts = false) (h : settled t.outcome) :
    Contained settled t where
  unclosed database fault hfault := by cases (Event.aborts_eq_false_iff.1 (hcalm _ hfault)).1
  unshown _ e he hillegible := by
    cases (Event.aborts_eq_false_iff.1 (hcalm e he)).2.symm.trans hillegible
  calm _ := h

/-- A close that fails in the last place ends the run. -/
theorem of_unclosed {row : List Event} {database : String} {fault : Fault}
    (hrow : ∀ e ∈ row, e.isFailedClose = false)
    (hevents : t.events = row ++ [.close database (some fault)])
    (hraised : t.outcome = .raised fault) : Contained settled t := by
  have hlast : .close database (some fault) ∈ t.events := by simp [hevents]
  refine ⟨fun name other hother => ?_, fun hclosed => ?_, fun hcalm => ?_⟩
  · rw [hevents] at hother
    rcases List.mem_append.1 hother with hearly | hlast
    · cases hrow _ hearly
    · cases List.mem_singleton.1 hlast
      exact hraised
  · cases hclosed _ hlast
  · cases (Event.aborts_eq_false_iff.1 (hcalm _ hlast)).1

/-- An answer that cannot be shown ends the run, once the session is closed. -/
theorem of_unshown (hclosed : ∀ e ∈ t.events, e.isFailedClose = false) {e : Event}
    (he : e ∈ t.events) (hillegible : e.isIllegible = true)
    (hraised : t.outcome = .raised Number.tooLong) : Contained settled t where
  unclosed database fault hfault := by cases hclosed _ hfault
  unshown _ _ _ _ := hraised
  calm hcalm := by
    cases (Event.aborts_eq_false_iff.1 (hcalm e he)).2.symm.trans hillegible

/-- Only the exchanges with the server matter. -/
theorem of_dialogue (h : Contained settled ⟨t.outcome, dialogue t.events, t.world⟩) :
    Contained settled t where
  unclosed database fault hfault := h.unclosed database fault (List.mem_filter.2 ⟨hfault, rfl⟩)
  unshown hclosed e he hillegible := by
    refine h.unshown (fun e he => hclosed e (List.mem_filter.1 he).1) e ?_ hillegible
    refine List.mem_filter.2 ⟨he, ?_⟩
    cases e with
    | fetch => rfl
    | _ => cases hillegible
  calm hcalm := h.calm fun e he => hcalm e (List.mem_filter.1 he).1

/-- If the run does not end with a fault, nothing has ended a wait. -/
theorem settles (h : Contained settled t) (hraised : ∀ fault, t.outcome ≠ .raised fault) :
    (∀ e ∈ t.events, e.aborts = false) ∧ settled t.outcome := by
  have hclosed : ∀ e ∈ t.events, e.isFailedClose = false := by
    intro e he
    cases e with
    | close database failure =>
      cases failure with
      | none => rfl
      | some fault => exact absurd (h.unclosed database fault he) (hraised fault)
    | _ => rfl
  have hcalm : ∀ e ∈ t.events, e.aborts = false := by
    intro e he
    refine Event.aborts_eq_false_iff.2 ⟨hclosed e he, ?_⟩
    cases hillegible : e.isIllegible with
    | false => rfl
    | true => exact absurd (h.unshown hclosed e he hillegible) (hraised _)
  exact ⟨hcalm, h.calm hcalm⟩

end Contained

/-- The run is contained in every world where nothing fails but with the driver's own errors. -/
def Run.Contains {α : Type} (m : Run α) (settled : Outcome α → Prop) : Prop :=
  ∀ w, OnlyDriverFails (m w).events → Contained settled (m w)

namespace Run.Contains

variable {α β : Type} {m : Run α} {P : α → Prop} {settled : Outcome β → Prop}

theorem bind {f : α → Run β} (hm : m.Contains (Returns P))
    (hf : ∀ a, P a → (f a).Contains settled) : (m >>= f).Contains settled := by
  intro w hdriver
  cases houtcome : (m w).outcome with
  | done a =>
    rw [bind_done houtcome] at hdriver ⊢
    obtain ⟨hfirst, hsecond⟩ := onlyDriverFails_append.1 hdriver
    obtain ⟨hcalm, value, hvalue, hP⟩ := (hm w hfirst).settles (by rw [houtcome]; exact nofun)
    cases houtcome.symm.trans hvalue
    have hcontained := hf a hP _ hsecond
    refine ⟨fun database fault hfault => ?_, fun hclosed e he hillegible => ?_, fun hquiet => ?_⟩
    · rcases List.mem_append.1 hfault with hearly | hlate
      · cases (Event.aborts_eq_false_iff.1 (hcalm _ hearly)).1
      · exact hcontained.unclosed database fault hlate
    · rcases List.mem_append.1 he with hearly | hlate
      · cases (Event.aborts_eq_false_iff.1 (hcalm e hearly)).2.symm.trans hillegible
      · refine hcontained.unshown (fun e he => ?_) e hlate hillegible
        exact hclosed e (List.mem_append_right _ he)
    · exact hcontained.calm fun e he => hquiet e (List.mem_append_right _ he)
  | raised fault =>
    rw [bind_raised houtcome] at hdriver ⊢
    have hcontained := hm w hdriver
    refine ⟨fun database failure hfailure => ?_, fun hclosed e he hillegible => ?_,
      fun hquiet => ?_⟩
    · cases houtcome.symm.trans (hcontained.unclosed database failure hfailure)
      rfl
    · cases houtcome.symm.trans (hcontained.unshown hclosed e he hillegible)
      rfl
    · obtain ⟨value, hvalue, -⟩ := hcontained.calm hquiet
      cases houtcome.symm.trans hvalue
  | unfinished =>
    rw [bind_unfinished houtcome] at hdriver
    obtain ⟨-, value, hvalue, -⟩ := (hm w hdriver).settles (by rw [houtcome]; exact nofun)
    cases houtcome.symm.trans hvalue

/-- A run that leaves nothing that ends a wait, and ends as it should. -/
theorem of_quiet {settled : Outcome α → Prop} (hm : m.Leaves (·.aborts = false))
    (h : ∀ w, OnlyDriverFails (m w).events → settled (m w).outcome) : m.Contains settled :=
  fun w hdriver => .of_calm (hm w) (h w hdriver)

theorem pure {settled : Outcome α → Prop} {a : α} (h : settled (.done a)) :
    (Pure.pure a : Run α).Contains settled :=
  of_quiet (Within.pure a).leaves fun _ _ => h

theorem log (level : Level) (text : String) :
    (Run.log level text).Contains (Returns fun _ => True) :=
  of_quiet (Within.log (P := (·.aborts = false)) rfl).leaves fun _ _ => ⟨(), rfl, trivial⟩

theorem print (text : String) : (Run.print text).Contains (Returns fun _ => True) :=
  of_quiet (Within.print (P := (·.aborts = false)) rfl).leaves fun _ _ => ⟨(), rfl, trivial⟩

theorem ask (f : World → α) : (Run.ask f).Contains (Returns fun _ => True) :=
  of_quiet (Within.ask f).leaves fun w _ => ⟨f w, rfl, trivial⟩

/-- Neither an interrupt nor the refusal of a clock is an error of the driver. -/
theorem rest (seconds : Number) : (Run.rest seconds).Contains (Returns fun _ => True) := by
  refine of_quiet (Within.rest fun _ => rfl).leaves fun w hdriver => ?_
  unfold Run.rest at hdriver ⊢
  cases hrest : (w.takeRest seconds).1 with
  | none =>
    rw [refusable_accepted hrest]
    exact ⟨(), rfl, trivial⟩
  | some fault =>
    rw [refusable_refused hrest] at hdriver
    have hfault : fault.isDriver = true := hdriver fault (by simp [Event.failure?])
    rcases w.takeRest_fault hrest with rfl | hrefused
    · cases hfault
    · cases (World.not_isDriver_of_restRefusal? hrefused).symm.trans hfault

end Run.Contains

/-! ## Probes -/

namespace Liveness

variable {access : Access} {address host port : String}

theorem reported_isPreset {fault : Fault} (h : fault.isDriver = true) :
    (fault.reported (Advice.connectionFailed address Access.masterDatabase)).isPreset = true := by
  rw [Fault.reported_of_isDriver h]
  rfl

theorem AskingEnds.closeless {row : List Event} {outcome : Outcome (Option Row)}
    (h : AskingEnds address row outcome) : ∀ e ∈ row, e.isFailedClose = false := by
  cases h <;> simp [Event.isFailedClose]

/-- Without a row there is nothing to show. -/
theorem AskingEnds.calm {row : List Event} {fault : Fault}
    (h : AskingEnds address row (.raised fault)) : ∀ e ∈ row, e.aborts = false := by
  cases h <;> simp [Event.aborts, Event.isFailedClose, Event.isIllegible]

theorem answeredSession_calm {row : Option Row} (h : (answer row).isWritable = true) :
    ∀ e ∈ answeredSession access host port row, e.aborts = false := by
  simp [answeredSession, Event.aborts, Event.isFailedClose, Event.isIllegible, h]

theorem ProbeEnds.contained {row : List Event} {outcome : Outcome Unit}
    (h : ProbeEnds access address host port row outcome) (hdriver : OnlyDriverFails row)
    (w : World) : Contained IsTame ⟨outcome, row, w⟩ := by
  cases h with
  | unreachable fault =>
    have hfault : fault.isDriver = true := hdriver fault (by simp [Event.failure?])
    refine .of_calm ?_ (.inr ⟨_, rfl, reported_isPreset hfault⟩)
    simp [Event.aborts, Event.isFailedClose, Event.isIllegible]
  | failed fault hasking =>
    obtain ⟨cause, hcause, rfl⟩ := hasking.failures_eq
    have hfault : cause.isDriver = true := hdriver cause (by simp [hcause])
    refine .of_calm ?_ (.inr ⟨_, rfl, reported_isPreset hfault⟩)
    intro e he
    simp only [List.cons_append, List.mem_cons, List.mem_append, List.not_mem_nil, or_false] at he
    rcases he with rfl | hrow | rfl
    · rfl
    · exact hasking.calm e hrow
    · rfl
  | unclosed fault hasking =>
    refine .of_unclosed ?_ rfl rfl
    simpa [Event.isFailedClose] using hasking.closeless
  | healthy rest =>
    have hone : (Value.int 1).isWritable = true := by decide
    exact .of_calm (answeredSession_calm hone) (.inl ⟨(), rfl⟩)
  | unhealthy answered =>
    cases hwritable : (answer answered).isWritable with
    | true =>
      rw [unexpected_of_writable hwritable]
      exact .of_calm (answeredSession_calm hwritable) (.inr ⟨_, rfl, rfl⟩)
    | false =>
      rw [unexpected_of_not_writable hwritable]
      have hfetch : .fetch Access.masterDatabase (.ok answered) ∈
          answeredSession access host port answered := by simp [answeredSession]
      refine .of_unshown ?_ hfetch ?_ rfl
      · simp [answeredSession, Event.isFailedClose]
      · simp [Event.isIllegible, hwritable]

/-- A probe raises nothing but preset faults, unless its session cannot be closed or its answer
cannot be shown. -/
theorem probe_contains (access : Access) (haddress : Address.split address = .ok (host, port)) :
    (probe access address).Contains IsTame := by
  intro w hdriver
  unfold OnlyDriverFails at hdriver
  rw [← probe_failures] at hdriver
  exact ((probe_ends haddress w).contained hdriver _).of_dialogue

end Liveness

/-! ## The wait -/

namespace Readiness

theorem notReady_apply (probe : Run Unit) (w : World) :
    notReady probe w = ⟨match (probe w).outcome with
      | .done _ => .done none
      | .raised fault => if fault.isPreset then .done (some fault) else .raised fault
      | .unfinished => .unfinished, (probe w).events, (probe w).world⟩ := by
  change (Run.attempt probe >>= _) w = _
  cases h : (probe w).outcome with
  | done value =>
    rw [Run.bind_done (congrArg Trace.outcome (Run.attempt_done h)), Run.attempt_done h]
    simp [Trace.after]
  | raised fault =>
    rw [Run.bind_done (congrArg Trace.outcome (Run.attempt_raised h)), Run.attempt_raised h]
    dsimp only
    split <;> simp [Trace.after, runOutside, Run.raise]
  | unfinished =>
    rw [Run.bind_unfinished (congrArg Trace.outcome (Run.attempt_unfinished h)),
      Run.attempt_unfinished h]

/-- A preset fault of a probe is an answer. -/
theorem notReady_contains {probe : Run Unit} (h : probe.Contains IsTame) :
    (notReady probe).Contains (Returns fun answer => ∀ fault, answer = some fault →
      fault.isPreset = true) := by
  intro w hdriver
  rw [notReady_apply] at hdriver ⊢
  have hprobe := h w hdriver
  refine ⟨fun database fault hfault => ?_, fun hclosed e he hillegible => ?_, fun hcalm => ?_⟩
  · have hraised := hprobe.unclosed database fault hfault
    have hbare : fault.isPreset = false := by
      refine Fault.not_isPreset_of_isDriver (hdriver fault ?_)
      exact List.mem_filterMap.2 ⟨_, hfault, rfl⟩
    simp [hraised, hbare]
  · simp [hprobe.unshown hclosed e he hillegible, Number.tooLong, Fault.isPreset]
  · rcases hprobe.calm hcalm with ⟨value, hdone⟩ | ⟨fault, hraised, hpreset⟩
    · exact ⟨none, by simp [hdone], by simp⟩
    · exact ⟨some fault, by simp [hraised, hpreset], fun _ h => Option.some.inj h ▸ hpreset⟩

/-- What a failed probe that ended the polling is known by. -/
def Ending.IsTame (ending : Ending) : Prop := ∀ fault, ending = .late fault → fault.isPreset = true

theorem clockAfter_contains {span : Number} {seconds : Float} (h : span.toDouble = .ok seconds) :
    (clockAfter span).Contains (Returns fun _ => True) := by
  refine .of_quiet (clockAfter_within span).leaves fun w _ => ⟨w.clock + seconds, ?_, trivial⟩
  unfold clockAfter
  rw [h]
  rfl

/-- Where the rests are doubles, so is the next one. -/
theorem exists_next_rest (interval ceiling : Float) :
    ∃ next : Float, clockTiming.least (clockTiming.twice (.real interval)) (.real ceiling)
      = .real next := by
  change ∃ next : Float, Number.least (.real (interval * 2)) (.real ceiling) = .real next
  unfold Number.least
  split
  · exact ⟨ceiling, rfl⟩
  · exact ⟨interval * 2, rfl⟩

/-- Rounds of a wait are contained if its probes are. -/
theorem poll_contains {watch : Watch Run Number} {ceiling : Float}
    (hceiling : watch.ceiling = .real ceiling)
    (hprobe : watch.probe.Contains (Returns fun answer => ∀ fault, answer = some fault →
      fault.isPreset = true))
    (hreport : ∀ attempt fault, (watch.report attempt fault).Contains (Returns fun _ => True))
    (deadline : Float) (fuel attempt : Nat) (interval : Float) :
    (poll clockTiming watch deadline fuel attempt (.real interval)).Contains
      (Returns Ending.IsTame) := by
  induction fuel generalizing attempt interval with
  | zero => exact .pure ⟨.unfinished, rfl, nofun⟩
  | succ fuel ih =>
    refine hprobe.bind fun answer hanswer => ?_
    cases answer with
    | none => exact .pure ⟨.ready attempt, rfl, nofun⟩
    | some fault =>
      have hinstant : (clockAfter (.real interval)).Contains (Returns fun _ => True) :=
        clockAfter_contains rfl
      refine hinstant.bind fun instant _ => ?_
      split
      · refine .pure ⟨.late fault, rfl, ?_⟩
        rintro _ ⟨⟩
        exact hanswer fault rfl
      · refine (hreport attempt fault).bind fun _ _ => (Run.Contains.rest _).bind fun _ _ => ?_
        obtain ⟨next, hnext⟩ := exists_next_rest interval ceiling
        rw [hceiling, hnext]
        exact ih (attempt + 1) next

/-- How a wait should end: with a value, or with the fault of a container that is not ready in time;
or it goes on. -/
def Settled (container : Container) (timeout : String) (outcome : Outcome Unit) : Prop :=
  outcome = .done () ∨
    (∃ fault, outcome = .raised (notReadyIn container timeout fault) ∧ fault.isPreset = true) ∨
    outcome = .unfinished

theorem await_contains {probe : Run Unit} (h : probe.Contains IsTame) (interval ceiling : Float)
    (container : Container) {timeout : Number} {seconds : Float} {text : String}
    (htimeout : timeout.toDouble = .ok seconds) (hshown : timeout.display = .ok text) :
    (await (.real interval) (.real ceiling) container probe timeout).Contains
      (Settled container text) := by
  refine (Run.Contains.print _).bind fun _ _ => ?_
  refine (clockAfter_contains htimeout).bind fun deadline _ => ?_
  refine (Run.Contains.ask World.patience).bind fun patience _ => ?_
  refine (poll_contains rfl (notReady_contains h) (fun _ _ => .log _ _) deadline patience 1
    interval).bind fun ending hending => ?_
  cases ending with
  | ready attempts =>
    refine (Run.Contains.print _).bind fun _ _ => ?_
    exact .of_quiet (Run.Within.log (P := (·.aborts = false)) rfl).leaves fun _ _ => .inl rfl
  | late fault =>
    refine .of_quiet (Run.Within.raise _).leaves fun _ _ =>
      .inr (.inl ⟨fault, ?_, hending fault rfl⟩)
    exact congrArg Outcome.raised (tooLate_of_display hshown)
  | unfinished => exact .of_quiet Run.Within.unfinished.leaves fun _ _ => .inr (.inr rfl)

end Readiness

theorem Config.probe_ofContainer (config : Config) {container : Container} {address : String}
    (hcontainer : container.address Container.defaultPort = .ok address) :
    config.probe (.ofContainer container) = Liveness.probe config.access address := by
  simp only [Config.probe, Endpoint.ofContainer, hcontainer]
  rfl

/-- If nothing fails but with the driver's own errors, then an error of a close ends a probe and a
wait as it is, and so does the fault of an answer that cannot be shown. Without them a probe raises
nothing but preset faults, and a wait ends after a probe that passed, with the fault of a container
that is not ready in time, or not at all. The time limit of the wait may be any number that a double
can hold and that can be shown. -/
theorem Docker.waitUntilReady_contains_driver_errors (docker : Docker) (config : Config)
    (access : Access) {container : Container} {address host port : String}
    {interval ceiling : Float} (hinterval : docker.pollInterval = .real interval)
    (hceiling : docker.pollCeiling = .real ceiling)
    (hcontainer : container.address Container.defaultPort = .ok address)
    (haddress : Address.split address = .ok (host, port)) {timeout : Number} {seconds : Float}
    {text : String} (htimeout : timeout.toDouble = .ok seconds)
    (hshown : timeout.display = .ok text) :
    (Liveness.probe access address).Contains IsTame ∧
      (docker.waitUntilReady container (config.probe (.ofContainer container))
        timeout).Contains (Readiness.Settled container text) ∧
      ∀ w, (docker.waitUntilReady container (config.probe (.ofContainer container))
          timeout w).outcome = .done () →
        EndsReady (docker.waitUntilReady container (config.probe (.ofContainer container))
          timeout w).events := by
  rw [config.probe_ofContainer hcontainer]
  unfold Docker.waitUntilReady
  rw [hinterval, hceiling]
  refine ⟨Liveness.probe_contains access haddress, ?_, fun w hdone => ?_⟩
  · exact Readiness.await_contains (Liveness.probe_contains config.access haddress) _ _ _ htimeout
      hshown
  · obtain ⟨earlier, last, hevents, hready⟩ := Readiness.await_concludes _ _ container _
      (Liveness.probe_concludes config.access address) w () hdone
    rw [hevents]
    exact hready.prepend earlier

/-- A server that is ready, but loses the connection when the first session is closed. -/
def leakyServer : World :=
  { server := { closeFailures := .inTurn [some (.other .driver "connection lost")] } }

def leakyProbe : Trace Unit :=
  Liveness.probe Runner.shop.access "127.0.0.1:49153" leakyServer

def leakyWait : Trace Unit :=
  Docker.waitUntilReady {} Runner.shopContainer
    (Runner.shop.probe (.ofContainer Runner.shopContainer)) (.real 60) leakyServer

theorem leakyWait_aborted :
    leakyProbe.outcome = .raised (.other .driver "connection lost") ∧
      leakyWait.outcome = .raised (.other .driver "connection lost") := by
  have hcontainer : Runner.shopContainer.address Container.defaultPort = .ok "127.0.0.1:49153" := by
    rfl
  have haddress : Address.split "127.0.0.1:49153" = .ok ("127.0.0.1", "49153") := by rfl
  have htimeout : Number.toDouble (.real 60) = .ok 60 := rfl
  obtain ⟨hprobe, hwait, -⟩ := Docker.waitUntilReady_contains_driver_errors {} Runner.shop
    Runner.shop.access rfl rfl hcontainer haddress htimeout rfl
  have hprobed : OnlyDriverFails leakyProbe.events := by
    unfold OnlyDriverFails
    rw [show failures leakyProbe.events = [.other .driver "connection lost"] from rfl]
    simp [Fault.isDriver]
  have hwaited : OnlyDriverFails leakyWait.events := by
    unfold OnlyDriverFails
    rw [show failures leakyWait.events = [.other .driver "connection lost"] from rfl]
    simp [Fault.isDriver]
  have hclosed : .close "master" (some (.other .driver "connection lost")) ∈ leakyProbe.events :=
    List.mem_of_getElem? (i := 5) rfl
  have hgivenUp : .close "master" (some (.other .driver "connection lost")) ∈ leakyWait.events :=
    List.mem_of_getElem? (i := 6) rfl
  exact ⟨(hprobe _ hprobed).unclosed _ _ hclosed, (hwait _ hwaited).unclosed _ _ hgivenUp⟩

end SeededServer
