import SeededServer.Proofs.Retries

/-!
# Attempts in any world

Whatever is replied and whenever the user interrupts, a command that is tried several times leaves a
row of failures, each followed by its rest, and then its last reply. The rest after a reply can be
interrupted, and then the interrupt ends the run. Nothing is assumed about the world here; all that
is needed is that retries can be reported and that no clock refuses the rests.

## Main definitions

* `Request.Tried` — how the attempts at a command can end, and which acts they leave.
-/
namespace SeededServer

namespace Request

/-- A failure that is followed by a rest and by another attempt. -/
def again (r : Request) (process : Command) (reply : Except Fault Completed) : List Event :=
  [.command process reply, .rest r.backoff none]

/-- How the attempts end; `left` is how many there can be after the first one. -/
inductive Tried (r : Request) (process : Command) (left : Nat) :
    List Event → Outcome Completed → Prop
  | settled (earlier : List (Except Fault Completed)) (reply : Except Fault Completed)
      {outcome : Outcome Completed} :
      (∀ failure ∈ earlier, retryable failure = true) → earlier.length ≤ left →
      (retryable reply = true → earlier.length = left) →
      r.Settles process.timeout reply outcome →
      Tried r process left (earlier.flatMap (r.again process) ++ [.command process reply]) outcome
  | interrupted (earlier : List (Except Fault Completed)) (reply : Except Fault Completed) :
      (∀ failure ∈ earlier, retryable failure = true) → earlier.length < left →
      retryable reply = true →
      Tried r process left
        (earlier.flatMap (r.again process) ++
          [.command process reply, .rest r.backoff (some .interruption)])
        (.raised .interruption)

namespace Tried

variable {r : Request} {process : Command} {left : Nat} {row : List Event}
  {outcome : Outcome Completed}

/-- The first failure stands in front of all later ones. -/
theorem retry (h : r.Tried process left row outcome) {reply : Except Fault Completed}
    (hretry : retryable reply = true) :
    r.Tried process (left + 1) (r.again process reply ++ row) outcome := by
  cases h with
  | settled earlier last hearlier hlength hlast hsettles =>
    have htried : r.Tried process (left + 1) _ outcome :=
      .settled (reply :: earlier) last (List.forall_mem_cons.2 ⟨hretry, hearlier⟩)
        (Nat.succ_le_succ hlength) (fun h => congrArg Nat.succ (hlast h)) hsettles
    simpa using htried
  | interrupted earlier last hearlier hlength hlast =>
    have htried : r.Tried process (left + 1) _ _ :=
      .interrupted (reply :: earlier) last (List.forall_mem_cons.2 ⟨hretry, hearlier⟩)
        (Nat.succ_lt_succ hlength) hlast
    simpa using htried

theorem not_unfinished : ¬ r.Tried process left row .unfinished := by
  intro h
  cases h with
  | settled _ _ _ _ _ hsettles => cases hsettles

/-- Nothing but the process is started. -/
theorem forall_mem (h : r.Tried process left row outcome) :
    ∀ e ∈ row, (∃ reply, e = .command process reply) ∨
      ∃ failure, e = .rest r.backoff failure := by
  intro e he
  cases h with
  | settled earlier reply =>
    simp only [again, List.mem_append, List.mem_flatMap, List.mem_cons, List.not_mem_nil,
      or_false] at he
    obtain ⟨failure, -, rfl | rfl⟩ | rfl := he
    · exact .inl ⟨failure, rfl⟩
    · exact .inr ⟨none, rfl⟩
    · exact .inl ⟨reply, rfl⟩
  | interrupted earlier reply =>
    simp only [again, List.mem_append, List.mem_flatMap, List.mem_cons, List.not_mem_nil,
      or_false] at he
    obtain ⟨failure, -, rfl | rfl⟩ | rfl | rfl := he
    · exact .inl ⟨failure, rfl⟩
    · exact .inr ⟨none, rfl⟩
    · exact .inl ⟨reply, rfl⟩
    · exact .inr ⟨some .interruption, rfl⟩

/-- If a failing exit is a fault, a run that ends with a value ends with a successful exit. -/
theorem of_done {result : Completed} (h : r.Tried process left row (.done result))
    (hcheck : r.check = true) :
    ∃ earlier : List (Except Fault Completed), (∀ failure ∈ earlier, retryable failure = true) ∧
      earlier.length ≤ left ∧
      row = earlier.flatMap (r.again process) ++ [.command process (.ok result)] ∧
      result.status = 0 := by
  cases h with
  | settled earlier reply hearlier hlength _ hsettles =>
    cases hsettles with
    | success _ hstatus => exact ⟨earlier, hearlier, hlength, rfl, hstatus⟩
    | ignored _ _ hunchecked => cases hcheck.symm.trans hunchecked

end Tried

end Request

namespace CommandRunner

variable {r : Request}

/-- The attempts, in any world. -/
theorem attemptFrom_tried (hargv : r.argv ≠ []) (hreport : r.Reportable)
    (hclock : World.restRefusal? r.backoff = none) (process : Command) (attempt left : Nat)
    (w : World) :
    r.Tried process left (acts (attemptFrom process r attempt (left + 1) w).events)
      (attemptFrom process r attempt (left + 1) w).outcome := by
  induction left generalizing attempt w with
  | zero =>
    obtain ⟨hacts, hsettles⟩ := attemptFrom_single process w attempt hargv
    rw [hacts]
    exact .settled [] _ (List.forall_mem_nil _) (Nat.zero_le _) (fun _ => rfl) hsettles
  | succ left ih =>
    cases hretry : retryable (w.replyTo process 0) with
    | false =>
      obtain ⟨hacts, hsettles⟩ := attemptFrom_final process w attempt (left + 1) hargv hretry
      rw [hacts]
      refine .settled [] _ (List.forall_mem_nil _) (Nat.zero_le _) (fun h => ?_) hsettles
      cases hretry.symm.trans h
    | true =>
      rcases (w.runProcess process).2.takeRest_ends hclock with hrest | hrest
      · obtain ⟨before, trouble, hacts, heq⟩ :=
          exists_attemptFrom_retry (r := r) process w attempt left hretry
        obtain ⟨notices, hnotices, hbackOff⟩ :=
          backOff_undisturbed (.inr hreport) attempt (trouble.reason r) hrest
        rw [Run.bind_done (congrArg Trace.outcome hbackOff), hbackOff, Trace.after_after] at heq
        have hnext := ih (attempt + 1) ((w.runProcess process).2.takeRest r.backoff).2
        rw [heq]
        simpa [hacts, hnotices, Request.again] using hnext.retry hretry
      · obtain ⟨hacts, houtcome⟩ :=
          attemptFrom_disturbed process w attempt left hretry (.inr hreport) hrest
        have hinterrupted : r.Tried process (left + 1) _ _ :=
          .interrupted [] (w.replyTo process 0) (List.forall_mem_nil _) (Nat.succ_pos left) hretry
        rw [hacts, houtcome]
        exact hinterrupted

/-- A request that is tried once is one process, whose reply settles the run. -/
theorem run_settles (commands : CommandRunner) (hargv : r.argv ≠ []) (honce : r.attempts = 1)
    (w : World) :
    ∃ reply, acts (commands.run r w).events =
        [.command (commands.processFor r w.environment) reply] ∧
      r.Settles (commands.processFor r w.environment).timeout reply
        (commands.run r w).outcome := by
  rw [run_apply, honce]
  exact ⟨_, attemptFrom_single _ w 1 hargv⟩

/-- A single process whose exit does not matter is a failure only if it does not run to its end. -/
theorem run_unchecked_settles (commands : CommandRunner) (hargv : r.argv ≠ [])
    (honce : r.attempts = 1) (hcheck : r.check = false) (w : World) :
    (∃ result, (commands.run r w).outcome = .done result ∧ acts (commands.run r w).events =
      [.command (commands.processFor r w.environment) (.ok result)]) ∨
    ∃ cause fault, (commands.run r w).outcome = .raised fault ∧ acts (commands.run r w).events =
        [.command (commands.processFor r w.environment) (.error cause)] ∧
      r.Settles (commands.processFor r w.environment).timeout (.error cause) (.raised fault) := by
  obtain ⟨reply, hrow, hsettles⟩ := commands.run_settles hargv honce w
  generalize (commands.run r w).outcome = outcome at hsettles
  rw [hrow]
  cases reply with
  | ok result =>
    cases hsettles with
    | success | ignored => exact .inl ⟨result, rfl, rfl⟩
    | badExit _ _ hchecked => cases hcheck.symm.trans hchecked
  | error cause =>
    cases outcome with
    | raised fault => exact .inr ⟨cause, fault, rfl, rfl, hsettles⟩
    | done | unfinished => cases hsettles

/-- A request is tried in any world. -/
theorem run_tried (commands : CommandRunner) (hargv : r.argv ≠ []) (hreport : r.Reportable)
    (hclock : World.restRefusal? r.backoff = none) {left : Nat} (hleft : r.attempts = left + 1)
    (w : World) :
    r.Tried (commands.processFor r w.environment) left (acts (commands.run r w).events)
      (commands.run r w).outcome := by
  rw [run_apply, hleft]
  exact attemptFrom_tried hargv hreport hclock _ 1 left w

end CommandRunner

end SeededServer
