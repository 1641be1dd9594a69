import SeededServer.Proofs.Milestones

/-!
# The life of a container

What a runner does to its container, and which container it still holds. A start brings the
container up or cleans up after the fault; the cleaning up consults the logs, and reaches the
removal only if they can be read or the fault is a preset fault.

## Main definitions

* `Runner.CleanUpEnds`, `Runner.PrepareEnds`, `Runner.StartEnds` — how these operations can end.
* `Trace.Undisturbed` — a later trace, with nothing done to containers in between.
-/
namespace SeededServer

namespace Runner

variable (runner : Runner)

theorem startContainer_ends (w : World) :
    Docker.StartEnds (lifecycle (runner.startContainer w).events)
      (runner.startContainer w).outcome := by
  unfold startContainer
  rw [Run.ask_bind]
  cases runner.startRefusal? w with
  | none => exact Docker.start_ends ..
  | some refusal =>
    obtain ⟨told, hwarn, htold⟩ := Docker.warnUnlicensed_apply runner.config.blueprint w
    dsimp only
    rw [Run.bind_done (by rw [hwarn]), hwarn, Trace.after_events, lifecycle_append,
      lifecycle_asides htold]
    exact .notLaunched refusal

theorem launch_ends (w : World) :
    Docker.StartEnds (lifecycle (runner.launch w).events) (runner.launch w).outcome := by
  have harmless : (Docker.validateEnvironment runner.commands).Harmless := by
    refine (Docker.validateEnvironment_within runner.commands).mono
      (Event.OfCommand.milestone?_eq ?_)
    rintro argv rfl
    simp [IsHarmless]
  have quiet := harmless.lifecycle_eq w
  unfold launch
  cases h : (Docker.validateEnvironment runner.commands w).outcome with
  | done =>
    rw [Run.bind_done h, Trace.after_events, Trace.after_outcome, lifecycle_append, quiet]
    exact runner.startContainer_ends _
  | raised fault =>
    rw [Run.bind_raised h, quiet]
    exact .notLaunched fault
  | unfinished =>
    rw [Run.bind_unfinished h]
    exact .unfinished _

/-- Reading the logs of a container fails only with a fault that escapes. -/
theorem readLogs_ends (container : Container) (w : World) :
    (∃ text failure, (runner.readLogs container w).outcome = .done text ∧
      failure.any Fault.escapes = false ∧
      lifecycle (runner.readLogs container w).events = [.consulted failure]) ∨
    ∃ fault cause, (runner.readLogs container w).outcome = .raised fault ∧
      cause.escapes = true ∧
      lifecycle (runner.readLogs container w).events = [.consulted (some cause)] := by
  unfold readLogs
  rcases Docker.logs_ends runner.commands container w with
    ⟨text, hdone, hlife⟩ | ⟨fault, cause, hraised, hpreset, hlife⟩
  · rw [Run.rescue_done hdone]
    exact .inl ⟨text, none, hdone, rfl, hlife⟩
  · rw [Run.rescue_raised hraised]
    cases hescapes : cause.escapes with
    | true =>
      rw [hescapes] at hpreset
      simp only [hpreset]
      exact .inr ⟨fault, cause, rfl, hescapes, by simpa [Run.raise] using hlife⟩
    | false =>
      rw [hescapes] at hpreset
      simp only [hpreset]
      exact .inl ⟨"", some cause, rfl, hescapes, by simpa using hlife⟩

/-- The container that is held is removed, and let go of if that went well. -/
theorem stop_ends {container : Container} {w : World} (hheld : w.held = some container) :
    ((runner.stop w).outcome = .done () ∧ (runner.stop w).world.held = none ∧
      lifecycle (runner.stop w).events =
        [.removed (Docker.removalWords container.containerId) none]) ∨
    ∃ fault cause, (runner.stop w).outcome = .raised fault ∧
      (runner.stop w).world.held = some container ∧
      lifecycle (runner.stop w).events =
        [.removed (Docker.removalWords container.containerId) (some cause)] := by
  unfold stop
  rw [Run.ask_bind, hheld]
  rcases Docker.stop_ends runner.commands container w with
    ⟨hdone, hlife⟩ | ⟨fault, cause, hraised, hlife⟩
  · simp only [Run.bind_done hdone]
    exact .inl ⟨rfl, rfl, by simpa [Run.hold] using hlife⟩
  · have kept := (Docker.stop_within runner.commands container).held w
    simp only [Run.bind_raised hraised]
    exact .inr ⟨fault, cause, rfl, kept.trans hheld, hlife⟩

/-- Nothing is removed if nothing is held. -/
theorem stop_of_held_none {w : World} (hheld : w.held = none) :
    runner.stop w = ⟨.done (), [], w⟩ := by
  unfold stop
  rw [Run.ask_bind, hheld]
  rfl

/-- How the cleaning up after a failed start ends: what it did, and which container is still
held. -/
inductive CleanUpEnds (container : Container) :
    List Milestone → Outcome Unit → Option Container → Prop where
  | unread (cause fault : Fault) : cause.escapes = true →
      CleanUpEnds container [.consulted (some cause)] (.raised fault) (some container)
  | unremoved (failure : Option Fault) (cause fault : Fault) : failure.any Fault.escapes = false →
      CleanUpEnds container
        [.consulted failure, .removed (Docker.removalWords container.containerId) (some cause)]
        (.raised fault) (some container)
  | removed (failure : Option Fault) : failure.any Fault.escapes = false →
      CleanUpEnds container
        [.consulted failure, .removed (Docker.removalWords container.containerId) none]
        (.done ()) none

theorem cleanUp_ends {container : Container} {w : World} (hheld : w.held = some container) :
    CleanUpEnds container (lifecycle (runner.cleanUp container w).events)
      (runner.cleanUp container w).outcome (runner.cleanUp container w).world.held := by
  have kept := (runner.readLogs_within container).held w
  unfold cleanUp
  rcases runner.readLogs_ends container w with
    ⟨text, failure, hdone, hcaught, hlife⟩ | ⟨fault, cause, hraised, hescapes, hlife⟩
  · -- The record of the logs says nothing about containers, so what follows is the removal.
    have told (v : World) : ∃ before, lifecycle before = [] ∧
        (if !text.isEmpty then do
          Run.log .debug ("Container logs:\n" ++ text)
          runner.stop
        else runner.stop : Run Unit) v = (runner.stop v).after before := by
      split
      · exact ⟨_, rfl, Run.log_bind ..⟩
      · exact ⟨[], rfl, rfl⟩
    obtain ⟨before, hquiet, hbefore⟩ := told (runner.readLogs container w).world
    rw [Run.bind_done hdone, hbefore]
    simp only [Trace.after_outcome, Trace.after_world, Trace.after_events, lifecycle_append, hlife,
      hquiet, List.nil_append]
    rcases runner.stop_ends (kept.trans hheld) with
      ⟨hstop, hlet, hremoved⟩ | ⟨fault, cause, hstop, hstill, hremoved⟩
    · rw [hstop, hlet, hremoved]
      exact .removed failure hcaught
    · rw [hstop, hstill, hremoved]
      exact .unremoved failure cause fault hcaught
  · rw [Run.bind_raised hraised]
    simp only [hlife, kept, hheld]
    exact .unread cause fault hescapes

theorem bringUp_harmless (container : Container) : (runner.bringUp container).Harmless := by
  refine (runner.bringUp_within container).mono fun e h => ?_
  rcases h with hcalm | hprobe | hmaster | hseeds
  · exact Event.OfCommand.milestone?_eq (fun _ h => h.elim) e hcalm
  · exact Event.OfSession.milestone?_eq e hprobe
  · exact Event.OfSession.milestone?_eq e hmaster
  · exact Event.OfSession.milestone?_eq e hseeds

/-- How a container that runs is prepared. -/
inductive PrepareEnds (container : Container) :
    List Milestone → Outcome Unit → Option Container → Prop where
  | ready : PrepareEnds container [] (.done ()) (some container)
  | failed (milestones : List Milestone) (cleaning : Outcome Unit) (held : Option Container)
      (fault : Fault) : CleanUpEnds container milestones cleaning held →
        PrepareEnds container milestones (.raised fault) held
  | unfinished (milestones : List Milestone) (held : Option Container) :
      PrepareEnds container milestones .unfinished held

theorem prepare_ends {container : Container} {w : World} (hheld : w.held = some container) :
    PrepareEnds container (lifecycle (runner.prepare container w).events)
      (runner.prepare container w).outcome (runner.prepare container w).world.held := by
  have quiet := (runner.bringUp_harmless container).lifecycle_eq w
  have kept := ((runner.bringUp_within container).held w).trans hheld
  unfold prepare
  cases h : (runner.bringUp container w).outcome with
  | done =>
    rw [Run.rescue_done h, h, quiet, kept]
    exact .ready
  | raised fault =>
    have hclean := runner.cleanUp_ends kept
    rw [Run.rescue_raised h]
    simp only [Trace.after_outcome, Trace.after_events, Trace.after_world, lifecycle_append, quiet,
      List.nil_append]
    cases hc : (runner.cleanUp container (runner.bringUp container w).world).outcome with
    | done =>
      rw [Run.bind_done hc]
      simpa [Run.raise] using PrepareEnds.failed _ _ _ fault hclean
    | raised second =>
      rw [Run.bind_raised hc]
      exact .failed _ _ _ second hclean
    | unfinished =>
      rw [Run.bind_unfinished hc]
      exact .unfinished _ _
  | unfinished =>
    rw [Run.rescue_unfinished h, h]
    exact .unfinished _ _

/-- How a start ends from a world where `before` is held: what it did to its container, and which
container is held after it. -/
inductive StartEnds (before : Option Container) :
    List Milestone → Outcome Container → Option Container → Prop where
  | notLaunched (fault : Fault) : StartEnds before [] (.raised fault) before
  | unpublished (output : String) (failure : Option Fault) (fault : Fault) :
      StartEnds before
        [.launched output, .removed (Docker.removalWords (Text.strip output)) failure]
        (.raised fault) before
  | running (output : String) (container : Container) :
      container.containerId = Text.strip output →
        StartEnds before [.launched output] (.done container) (some container)
  | failed (output : String) (container : Container) (milestones : List Milestone)
      (cleaning : Outcome Unit) (held : Option Container) (fault : Fault) :
      container.containerId = Text.strip output →
        CleanUpEnds container milestones cleaning held →
          StartEnds before (.launched output :: milestones) (.raised fault) held
  | unfinished (milestones : List Milestone) (held : Option Container) :
      StartEnds before milestones .unfinished held

theorem start_ends (w : World) :
    StartEnds w.held (lifecycle (runner.start w).events) (runner.start w).outcome
      (runner.start w).world.held := by
  have kept := runner.launch_within.held w
  have hends := runner.launch_ends w
  unfold start
  generalize hlife : lifecycle (runner.launch w).events = milestones at hends
  generalize hlaunch : (runner.launch w).outcome = outcome at hends
  cases hends with
  | notLaunched fault =>
    rw [Run.bind_raised hlaunch]
    simp only [hlife, kept]
    exact .notLaunched fault
  | unpublished output failure fault =>
    rw [Run.bind_raised hlaunch]
    simp only [hlife, kept]
    exact .unpublished output failure fault
  | unfinished milestones =>
    rw [Run.bind_unfinished hlaunch]
    exact .unfinished _ _
  | started output container hid =>
    rw [Run.bind_done hlaunch, Run.hold_bind]
    simp only [Trace.after_outcome, Trace.after_events, Trace.after_world, lifecycle_append, hlife,
      List.singleton_append]
    -- Only what the world holds matters from here on.
    have hheld : ({ (runner.launch w).world with held := some container } : World).held =
      some container := rfl
    generalize ({ (runner.launch w).world with held := some container } : World) = v at hheld ⊢
    have hprepare := runner.prepare_ends hheld
    generalize hmilestones : lifecycle (runner.prepare container v).events = milestones at hprepare
    generalize hafter : (runner.prepare container v).world.held = after at hprepare
    generalize houtcome : (runner.prepare container v).outcome = outcome at hprepare
    cases hprepare with
    | ready =>
      rw [Run.bind_done houtcome]
      simp only [Trace.after_outcome, Trace.after_events, Trace.after_world, lifecycle_append,
        Run.pure_apply, hmilestones, hafter]
      exact .running output container hid
    | failed milestones cleaning held fault hclean =>
      rw [Run.bind_raised houtcome]
      simp only [hmilestones, hafter]
      exact .failed output container _ _ _ fault hid hclean
    | unfinished milestones held =>
      rw [Run.bind_unfinished houtcome]
      exact .unfinished _ _

end Runner

/-! ## Whole runs -/

/-- A later trace of the same run, with nothing done to containers in between. -/
structure Trace.Undisturbed {α β : Type} (s : Trace α) (t : Trace β) : Prop where
  lifecycle_eq : lifecycle t.events = lifecycle s.events
  held_eq : t.world.held = s.world.held
  unfinished : s.outcome = .unfinished → t.outcome = .unfinished

namespace Run.Harmless

variable {α β : Type} {m : Run α} {w : World}

theorem bind_undisturbed {f : α → Run β} (hf : ∀ a, (f a).Harmless) :
    (m w).Undisturbed ((m >>= f) w) := by
  cases h : (m w).outcome with
  | done a =>
    rw [bind_done h]
    refine ⟨?_, (hf a).held _, fun hu => nomatch h.symm.trans hu⟩
    rw [Trace.after_events, lifecycle_append, (hf a).lifecycle_eq, List.append_nil]
  | raised fault =>
    rw [bind_raised h]
    exact ⟨rfl, rfl, fun hu => nomatch h.symm.trans hu⟩
  | unfinished =>
    rw [bind_unfinished h]
    exact ⟨rfl, rfl, fun _ => rfl⟩

theorem rescue_undisturbed {handler : Fault → Run α} (hh : ∀ fault, (handler fault).Harmless) :
    (m w).Undisturbed (Run.rescue m handler w) := by
  cases h : (m w).outcome with
  | done a =>
    rw [rescue_done h]
    exact ⟨rfl, rfl, id⟩
  | raised fault =>
    rw [rescue_raised h]
    refine ⟨?_, (hh fault).held _, fun hu => nomatch h.symm.trans hu⟩
    rw [Trace.after_events, lifecycle_append, (hh fault).lifecycle_eq, List.append_nil]
  | unfinished =>
    rw [rescue_unfinished h]
    exact ⟨rfl, rfl, id⟩

end Run.Harmless

namespace Runner

variable (runner : Runner)

theorem serve_undisturbed (w : World) : (runner.start w).Undisturbed (runner.serve w) := by
  have idle (container : Container) := (runner.followUp_within container).mono
    (Event.OfCommand.milestone?_eq fun _ h => h.elim)
  obtain ⟨hlife, hheld, hunfinished⟩ :=
    Run.Harmless.bind_undisturbed (m := runner.start) (w := w) idle
  unfold serve
  rw [Run.log_bind]
  exact ⟨hlife, hheld, hunfinished⟩

/-- Nothing is done to containers after a start until the very end. -/
theorem served_undisturbed (w : World) :
    (runner.start w).Undisturbed (Run.rescue runner.serve runner.report w) := by
  have idle (fault : Fault) := (runner.report_within fault).mono
    (Event.OfProcess.milestone?_eq fun _ h => h.elim)
  have hserve := runner.serve_undisturbed w
  have hreport := Run.Harmless.rescue_undisturbed (m := runner.serve) (w := w) idle
  exact ⟨hreport.lifecycle_eq.trans hserve.lifecycle_eq, hreport.held_eq.trans hserve.held_eq,
    fun h => hreport.unfinished (hserve.unfinished h)⟩

end Runner

end SeededServer
