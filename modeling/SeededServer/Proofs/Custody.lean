import SeededServer.Proofs.Removal

/-!
# Custody of containers

A runner may be started and stopped many times. As long as it is started only while it holds no
container, it forgets none: after every call, each container that was launched is the one that is
held, or its removal was started after its launch.

## Main definitions

* `Accounted` — what it means that no container is forgotten.
* `Runner.Calls` — the histories of a runner.
-/
namespace SeededServer

/-! ## Accounts -/

/-- Every container that was launched is held, or its removal was started after the launch. -/
def Accounted (milestones : List Milestone) (held : Option Container) : Prop :=
  ∀ earlier output later, milestones = earlier ++ .launched output :: later →
    held.map Container.containerId = some (Text.strip output) ∨
      ∃ failure, .removed (Docker.removalWords (Text.strip output)) failure ∈ later

namespace Accounted

variable {first second : List Milestone} {held after : Option Container}

theorem of_not_launched (h : ∀ output, .launched output ∉ first) : Accounted first held := by
  rintro earlier output later rfl
  exact absurd (List.mem_append_right earlier List.mem_cons_self) (h output)

theorem nil : Accounted [] held := of_not_launched fun _ => List.not_mem_nil

theorem launched {output : String} (h : Accounted first held)
    (hself : held.map Container.containerId = some (Text.strip output) ∨
      ∃ failure, .removed (Docker.removalWords (Text.strip output)) failure ∈ first) :
    Accounted (.launched output :: first) held := by
  intro earlier name later hsplit
  rcases List.cons_eq_append_iff.1 hsplit with ⟨rfl, hhead⟩ | ⟨rest, rfl, hrest⟩
  · obtain ⟨hname, rfl⟩ := List.cons.inj hhead
    cases hname
    exact hself
  · exact h rest name later hrest

/-- An account goes on if the container that was held is still held or its removal was started. -/
theorem append (h : Accounted first held) (hsecond : Accounted second after)
    (hkept : ∀ id, held.map Container.containerId = some id →
      after.map Container.containerId = some id ∨
        ∃ failure, .removed (Docker.removalWords id) failure ∈ second) :
    Accounted (first ++ second) after := by
  intro earlier output later hsplit
  -- The launch is in the second part, or it is in the first one and `later` runs over both.
  rcases List.append_eq_append_iff.1 hsplit with ⟨rest, -, hrest⟩ | ⟨rest, hfirst, hlater⟩
  · exact hsecond rest output later hrest
  · rcases List.cons_eq_append_iff.1 hlater with ⟨rfl, hrest⟩ | ⟨between, rfl, rfl⟩
    · exact hsecond [] output later hrest
    · rcases h earlier output between hfirst with hheld | ⟨failure, hremoved⟩
      · rcases hkept _ hheld with hstill | ⟨failure, hremoved⟩
        · exact .inl hstill
        · exact .inr ⟨failure, List.mem_append_right between hremoved⟩
      · exact .inr ⟨failure, List.mem_append_left second hremoved⟩

end Accounted

/-! ## Calls -/

namespace Runner

variable (runner : Runner)

/-- A failed start accounts for its container: it was removed, or it is still held. -/
theorem CleanUpEnds.accounted {container : Container} {milestones : List Milestone}
    {outcome : Outcome Unit} {held : Option Container}
    (h : CleanUpEnds container milestones outcome held) {output : String}
    (hid : container.containerId = Text.strip output) :
    Accounted (.launched output :: milestones) held := by
  cases h with
  | unread cause fault =>
    exact (Accounted.of_not_launched (by simp)).launched (.inl (congrArg some hid))
  | unremoved failure cause fault =>
    exact (Accounted.of_not_launched (by simp)).launched (.inl (congrArg some hid))
  | removed failure =>
    refine (Accounted.of_not_launched (by simp)).launched (.inr ⟨none, ?_⟩)
    simp [hid]

theorem start_accounted {w : World} (hfree : w.held = none)
    (hends : (runner.start w).outcome ≠ .unfinished) :
    Accounted (lifecycle (runner.start w).events) (runner.start w).world.held := by
  have hstart := runner.start_ends w
  rw [hfree] at hstart
  generalize (runner.start w).outcome = outcome at hstart hends
  generalize lifecycle (runner.start w).events = milestones at hstart
  generalize (runner.start w).world.held = held at hstart
  cases hstart with
  | notLaunched fault => exact .nil
  | unpublished output failure fault =>
    -- The runner never got to hold this one: it was removed when its ports were not found.
    exact (Accounted.of_not_launched (by simp)).launched (.inr ⟨failure, List.mem_singleton_self _⟩)
  | running output container hid => exact Accounted.nil.launched (.inl (congrArg some hid))
  | failed output container milestones cleaning held fault hid hclean =>
    exact hclean.accounted hid
  | unfinished => exact absurd rfl hends

/-- A stop lets go of a container only if its removal was started. -/
theorem stop_accounted {w : World} {milestones : List Milestone} (h : Accounted milestones w.held) :
    Accounted (milestones ++ lifecycle (runner.stop w).events) (runner.stop w).world.held := by
  cases hheld : w.held with
  | none =>
    rw [runner.stop_of_held_none hheld, lifecycle_nil, List.append_nil]
    exact h
  | some container =>
    obtain ⟨failure, hlife⟩ : ∃ failure, lifecycle (runner.stop w).events =
        [.removed (Docker.removalWords container.containerId) failure] := by
      rcases runner.stop_ends hheld with ⟨-, -, hlife⟩ | ⟨_, cause, -, -, hlife⟩
      · exact ⟨none, hlife⟩
      · exact ⟨some cause, hlife⟩
    rw [hlife]
    refine h.append (.of_not_launched (by simp)) fun id hid => .inr ⟨failure, ?_⟩
    rw [hheld] at hid
    cases hid
    exact List.mem_singleton_self _

/-- The calls that a runner has seen: their events, and the container that is held after them. Every
call meets an outside of its own, and a start is called only while no container is held. -/
inductive Calls : List Event → Option Container → Prop where
  | none : Calls [] none
  | start {events : List Event} {w : World} : Calls events w.held → w.held = .none →
      (runner.start w).outcome ≠ .unfinished →
        Calls (events ++ (runner.start w).events) (runner.start w).world.held
  | stop {events : List Event} {w : World} : Calls events w.held →
      Calls (events ++ (runner.stop w).events) (runner.stop w).world.held

/-- No container is forgotten over any history of calls: each one that was launched is the one that
is held, or its removal was started after its launch. A stop while no container is held does
nothing. -/
theorem calls_forget_no_container {events : List Event} {held : Option Container}
    (h : runner.Calls events held) :
    Accounted (lifecycle events) held ∧
      ∀ w : World, w.held = none → runner.stop w = ⟨.done (), [], w⟩ := by
  refine ⟨?_, fun w hheld => runner.stop_of_held_none hheld⟩
  induction h with
  | none => exact .nil
  | @start events w _ hfree hends ih =>
    rw [lifecycle_append]
    refine ih.append (runner.start_accounted hfree hends) fun id hid => ?_
    rw [hfree] at hid
    cases hid
  | stop _ ih =>
    rw [lifecycle_append]
    exact runner.stop_accounted ih

/-- The start of the shop where seeding fails, and the user interrupts the look at the logs. -/
def failedStart : Trace Container := start { config := shop } fullMachine

/-- The shop's container is still held after the failed start, and the stop after it removes it. -/
theorem shop_container_accounted :
    failedStart.world.held.map Container.containerId = some "c1" ∧
      Calls { config := shop }
        ([] ++ failedStart.events ++ (stop { config := shop } failedStart.world).events)
        (stop { config := shop } failedStart.world).world.held ∧
      Accounted
        (lifecycle ([] ++ failedStart.events ++ (stop { config := shop } failedStart.world).events))
        (stop { config := shop } failedStart.world).world.held := by
  have hheld : failedStart.world.held.map Container.containerId = some "c1" := by decide +kernel
  have hended : failedStart.outcome.isEnded = true := by decide +kernel
  have hcalls : Calls { config := shop }
      ([] ++ failedStart.events ++ (stop { config := shop } failedStart.world).events)
      (stop { config := shop } failedStart.world).world.held :=
    .stop (.start (w := fullMachine) .none rfl (Outcome.ne_unfinished_of_isEnded hended))
  exact ⟨hheld, hcalls, (calls_forget_no_container { config := shop } hcalls).1⟩

end Runner

end SeededServer
