import SeededServer.Proofs.Milestones
import SeededServer.Proofs.Numerals
import SeededServer.Proofs.Replies

/-!
# Retries

A command is tried until a reply is neither a failing exit nor a time-out, but not more often than
asked for. Between two attempts there is one rest, and the last reply decides how the run ends.

The caller chooses how often a command is tried, how long the rests are, and how long an attempt may
take. All of these have any size, and the outside has its limits: a strict log passes on the fault
of a report that cannot be written, a strict clock refuses a rest that it cannot measure, and no
message can show a time limit of too many digits.

## Main definitions

* `attemptsMade` — how many attempts there are, from the replies.
* `Request.Settles` — how the last reply decides the end of a run.
* `Request.Obeyed` — a run does what a request asks for.
* `CommandRunner.Retried` — what a run does with a request, whatever the outside bears.
-/
namespace SeededServer

/-! ## What matters of a run -/

/-- The start of a process, or a rest. -/
def Event.isAct : Event → Bool
  | .command .. | .rest .. => true
  | _ => false

/-- The starts of processes and the rests among some events. -/
def acts (events : List Event) : List Event := events.filter Event.isAct

@[simp] theorem acts_append (first second : List Event) :
    acts (first ++ second) = acts first ++ acts second := List.filter_append _ _

@[simp] theorem acts_log (level : Level) (text : String) (events : List Event) :
    acts (.log level text :: events) = acts events := rfl

@[simp] theorem acts_print (text : String) (events : List Event) :
    acts (.print text :: events) = acts events := rfl

@[simp] theorem acts_command (process : Command) (reply : Except Fault Completed)
    (events : List Event) :
    acts (.command process reply :: events) = .command process reply :: acts events := rfl

@[simp] theorem acts_rest (seconds : Number) (failure : Option Fault) (events : List Event) :
    acts (.rest seconds failure :: events) = .rest seconds failure :: acts events := rfl

@[simp] theorem acts_nil : acts [] = [] := rfl

/-! ## How many attempts there are -/

/-- A failing exit or a time-out. -/
def retryable : Except Fault Completed → Bool
  | .ok result => result.status ≠ 0
  | .error fault => fault.isTimeout

/-- The number of attempts: up to the first reply after which no other is of use, but not more than
the limit. -/
def attemptsMade (replies : Nat → Except Fault Completed) (limit : Nat) : Nat :=
  min ((List.range limit).findIdx (fun i => !retryable (replies i)) + 1) limit

section AttemptsMade

variable {replies : Nat → Except Fault Completed} (limit : Nat)

theorem attemptsMade_of_final (hfinal : retryable (replies 0) = false) :
    attemptsMade replies (limit + 1) = 1 := by
  simp [attemptsMade, List.range_succ_eq_map, List.findIdx_cons, hfinal]

theorem attemptsMade_one : attemptsMade replies 1 = 1 := by
  simp [attemptsMade]

theorem attemptsMade_of_retryable (hretry : retryable (replies 0) = true) :
    attemptsMade replies (limit + 2) = attemptsMade (fun i => replies (i + 1)) (limit + 1) + 1 := by
  simp only [attemptsMade]
  rw [List.range_succ_eq_map, List.findIdx_cons, List.findIdx_map]
  simp [hretry, Function.comp_def]

theorem attemptsMade_pos : 0 < attemptsMade replies (limit + 1) := by
  simp [attemptsMade]

end AttemptsMade

/-! ## How a run ends -/

namespace Request

/-- How the reply to the last attempt decides the end of a run. -/
inductive Settles (r : Request) (limit : Option Number) :
    Except Fault Completed → Outcome Completed → Prop
  | success (result : Completed) : result.status = 0 → Settles r limit (.ok result) (.done result)
  | badExit (result : Completed) : result.status ≠ 0 → r.check = true →
      Settles r limit (.ok result) (.raised (.plain (r.failureMessage result)))
  | ignored (result : Completed) : result.status ≠ 0 → r.check = false →
      Settles r limit (.ok result) (.done result)
  | missing (cause : Fault) (program : String) (others : List String) :
      cause.isMissingFile = true → r.argv = program :: others →
      Settles r limit (.error cause) (.raised (.causedBy cause
        ("Required command not found: " ++ program ++ ". Install it and make sure it is on PATH.")))
  | tooSlow (cause : Fault) (text : String) : cause.isTimeout = true →
      CommandRunner.limitText limit = .ok text →
      Settles r limit (.error cause) (.raised (.causedBy cause
        ("Command timed out after " ++ text ++ "s: " ++ r.line)))
  /-- The message would show a time limit that cannot be shown. -/
  | unshown (cause : Fault) : cause.isTimeout = true → ¬CommandRunner.IsShown limit →
      Settles r limit (.error cause) (.raised Number.tooLong)
  | system (cause : Fault) : cause.isMissingFile = false → cause.isSystem = true →
      Settles r limit (.error cause) (.raised (.causedBy cause
        ("Failed to execute command: " ++ r.line ++ ". " ++ cause.text)))
  | other (cause : Fault) : cause.isTimeout = false → cause.isSystem = false →
      Settles r limit (.error cause) (.raised cause)

/-- The attempts and the rests between them. -/
def course (r : Request) (process : Command) (replies : Nat → Except Fault Completed)
    (count : Nat) : List Event :=
  ((List.range count).map fun i => .command process (replies i)).intersperse (.rest r.backoff none)

@[simp] theorem course_one (r : Request) (process : Command)
    (replies : Nat → Except Fault Completed) :
    r.course process replies 1 = [.command process (replies 0)] := rfl

theorem course_succ (r : Request) (process : Command) (replies : Nat → Except Fault Completed)
    (count : Nat) :
    r.course process replies (count + 2) = .command process (replies 0) :: .rest r.backoff none ::
      r.course process (fun i => replies (i + 1)) (count + 1) := by
  simp only [course, List.range_succ_eq_map (n := count + 1)]
  simp [List.range_succ_eq_map, Function.comp_def]

/-- The fault of a command without any attempt. -/
def exhausted (r : Request) : Fault := .plain ("Command failed after retries: " ++ r.line)

theorem plain_failureMessage_ne_exhausted (r : Request) (result : Completed) :
    Fault.plain (r.failureMessage result) ≠ r.exhausted := by
  intro h
  have hmessage : r.failureMessage result = "Command failed after retries: " ++ r.line := by
    injection h
  have hchar : (r.failureMessage result).toList[15]? = some '(' := by
    unfold failureMessage
    extract_lets message stderr
    split <;> simp [message, String.toList_append]
  rw [hmessage] at hchar
  simp [String.toList_append] at hchar

/-- No settled run ends with the fault of a command without any attempt, unless the process itself
does. -/
theorem Settles.exhausted {r : Request} {limit : Option Number} {reply : Except Fault Completed}
    {outcome : Outcome Completed} (h : r.Settles limit reply outcome)
    (hexhausted : outcome = .raised r.exhausted) : reply = .error r.exhausted := by
  cases h with
  | success | ignored => cases hexhausted
  | badExit result =>
    injection hexhausted with hfault
    exact absurd hfault (r.plain_failureMessage_ne_exhausted result)
  | missing | tooSlow | unshown | system => cases hexhausted
  | other cause => injection hexhausted with hcause; rw [hcause]

/-- The notice of a retry can be written. -/
def Reportable (r : Request) : Prop :=
  Number.isWritable r.attempts = true ∧ r.backoff.toFloat?.isSome = true

/-- The fault of a notice that cannot be written. -/
def unreported (r : Request) : Fault :=
  if Number.isWritable r.attempts then Number.tooLarge else Number.tooLong

/-- The log lets retries go on: it drops what cannot be written, or the notices can be written. -/
def Noted (r : Request) (w : World) : Prop := w.strictLog = false ∨ r.Reportable

/-- The outside bears retries: the log lets them go on, and the clock takes the rests. -/
def Repeatable (r : Request) (w : World) : Prop :=
  r.Noted w ∧ w.clockRefusal? r.backoff = none

section Borne

variable {r : Request} {w : World}

theorem Noted.runProcess (h : r.Noted w) (process : Command) :
    r.Noted (w.runProcess process).2 := by
  unfold Noted
  rwa [World.runProcess_strictLog]

theorem Noted.takeRest (h : r.Noted w) (seconds : Number) : r.Noted (w.takeRest seconds).2 := by
  unfold Noted
  rwa [World.takeRest_strictLog]

theorem Repeatable.runProcess (h : r.Repeatable w) (process : Command) :
    r.Repeatable (w.runProcess process).2 :=
  ⟨h.1.runProcess process, (w.runProcess_clockRefusal? process r.backoff).trans h.2⟩

theorem Repeatable.takeRest (h : r.Repeatable w) (seconds : Number) :
    r.Repeatable (w.takeRest seconds).2 :=
  ⟨h.1.takeRest seconds, (w.takeRest_clockRefusal? seconds r.backoff).trans h.2⟩

end Borne

end Request

namespace CommandRunner

variable {r : Request} (process : Command)

/-- A reply after which no other attempt is of use settles the run. -/
theorem judge_final (hargv : r.argv ≠ []) {reply : Except Fault Completed}
    (hfinal : retryable reply = false) :
    ∃ ending, judge r reply = .settled ending ∧
      ∀ w, r.Settles process.timeout reply (Run.ofExcept ending w).outcome := by
  cases reply with
  | ok result =>
    have hstatus : result.status = 0 := by simpa [retryable] using hfinal
    exact ⟨.ok result, by simp [judge, hstatus], fun w => .success result hstatus⟩
  | error cause =>
    have htimeout : cause.isTimeout = false := hfinal
    cases hmissing : cause.isMissingFile with
    | true =>
      obtain ⟨program, others, hcons⟩ := List.exists_cons_of_ne_nil hargv
      refine ⟨.error (missingProgram r cause), by simp [judge, hmissing], fun w => ?_⟩
      rw [missingProgram, hcons]
      exact .missing cause program others hmissing hcons
    | false =>
      cases hsystem : cause.isSystem with
      | true =>
        exact ⟨_, by simp only [judge, hmissing, htimeout, hsystem]; rfl,
          fun w => .system cause hmissing hsystem⟩
      | false =>
        exact ⟨.error cause, by simp [judge, hmissing, htimeout, hsystem],
          fun w => .other cause htimeout hsystem⟩

theorem not_isSystem_of_isTimeout {cause : Fault} (h : cause.isTimeout = true) :
    cause.isSystem = false := by
  cases cause with
  | preset => cases h
  | other kind message => cases kind <;> first | rfl | cases h

theorem not_isMissingFile_of_isTimeout {cause : Fault} (h : cause.isTimeout = true) :
    cause.isMissingFile = false := by
  cases hmissing : cause.isMissingFile with
  | false => rfl
  | true =>
    cases (not_isSystem_of_isTimeout h).symm.trans (Fault.isSystem_of_isMissingFile hmissing)

theorem limitText_of_not_isShown {limit : Option Number} (h : ¬IsShown limit) :
    limitText limit = .error Number.tooLong := by
  cases limit with
  | none => exact absurd ⟨_, rfl⟩ h
  | some seconds =>
    cases seconds with
    | real x => exact absurd ⟨_, rfl⟩ h
    | int n =>
      rw [limitText, Number.display, Number.write]
      split
      · next hwritable =>
        exact absurd ⟨_, by rw [limitText, Number.display, Number.write, if_pos hwritable]⟩ h
      · rfl

/-- After any other reply there is a way to give up, which is no act. -/
theorem judge_retryable {reply : Except Fault Completed} (hretry : retryable reply = true) :
    ∃ trouble, judge r reply = .unsettled trouble ∧ ∀ w,
      r.Settles process.timeout reply (trouble.giveUp r process.timeout w).outcome ∧
        acts (trouble.giveUp r process.timeout w).events = [] := by
  cases reply with
  | ok result =>
    have hstatus : result.status ≠ 0 := by simpa [retryable] using hretry
    refine ⟨.badExit result, by simp [judge, hstatus], fun w => ?_⟩
    cases hcheck : r.check with
    | true =>
      simp only [Trouble.giveUp, hcheck, if_true]
      exact ⟨.badExit result hstatus hcheck, rfl⟩
    | false =>
      simp only [Trouble.giveUp, hcheck]
      exact ⟨.ignored result hstatus hcheck, rfl⟩
  | error cause =>
    have htimeout : cause.isTimeout = true := hretry
    have hmissing := not_isMissingFile_of_isTimeout htimeout
    refine ⟨.tooSlow cause, by simp [judge, hmissing, htimeout], fun w => ⟨?_, rfl⟩⟩
    simp only [Trouble.giveUp, Run.raise]
    by_cases hshown : IsShown process.timeout
    · obtain ⟨text, htext⟩ := hshown
      rw [htext]
      exact .tooSlow cause text htimeout htext
    · rw [limitText_of_not_isShown hshown]
      exact .unshown cause htimeout hshown

theorem logOutput_acts (reply : Except Fault Completed) (w : World) :
    acts (logOutput reply w).events = [] := by
  unfold logOutput
  split
  · split <;> rfl
  · rfl

theorem retryNotice_of_reportable (h : r.Reportable) (attempt : Nat) (reason : String) :
    ∃ notice, retryNotice r attempt reason = .ok notice := by
  obtain ⟨seconds, hseconds⟩ := Option.isSome_iff_exists.1 h.2
  unfold retryNotice
  simp only [Number.write, Number.toDouble, h.1, hseconds]
  exact ⟨_, rfl⟩

/-- A notice that cannot be written is a fault. -/
theorem retryNotice_of_not_reportable (h : ¬ r.Reportable) (attempt : Nat) (reason : String) :
    retryNotice r attempt reason = .error r.unreported := by
  unfold retryNotice Request.unreported
  cases hwritable : Number.isWritable r.attempts with
  | false =>
    simp only [Number.write, hwritable]
    rfl
  | true =>
    have hlarge : r.backoff.toFloat? = none := by
      rw [← Option.not_isSome_iff_eq_none]
      exact fun hsome => h ⟨hwritable, hsome⟩
    simp only [Number.write, Number.toDouble, hwritable, hlarge]
    rfl

/-- A notice that can be written, or that may be dropped, is no act. -/
theorem reportRetry_noted {w : World} (h : r.Noted w) (attempt : Nat) (reason : String) :
    ∃ notices, acts notices = [] ∧ reportRetry r attempt reason w = ⟨.done (), notices, w⟩ := by
  unfold reportRetry
  cases hnotice : retryNotice r attempt reason with
  | ok notice => exact ⟨[.log .warning notice], rfl, rfl⟩
  | error fault =>
    have hdropped : w.strictLog = false := h.resolve_right fun hreport => by
      obtain ⟨notice, hwritten⟩ := retryNotice_of_reportable hreport attempt reason
      cases hnotice.symm.trans hwritten
    refine ⟨[], rfl, ?_⟩
    simp [hdropped]

/-- After its notice a rest goes by, or it ends the run. -/
theorem backOff_noted {w : World} (h : r.Noted w) (attempt : Nat) (reason : String) :
    ∃ notices, acts notices = [] ∧
      backOff r attempt reason w = (Run.rest r.backoff w).after notices := by
  obtain ⟨notices, hquiet, hreport⟩ := reportRetry_noted h attempt reason
  refine ⟨notices, hquiet, ?_⟩
  unfold backOff
  rw [Run.bind_done (by rw [hreport]), hreport]

/-- A rest that the outside bears and nobody interrupts. -/
theorem backOff_undisturbed {w : World} (h : r.Noted w) (attempt : Nat) (reason : String)
    (hrest : (w.takeRest r.backoff).1 = none) :
    ∃ before, acts before = [.rest r.backoff none] ∧
      backOff r attempt reason w = ⟨.done (), before, (w.takeRest r.backoff).2⟩ := by
  obtain ⟨notices, hquiet, hbackOff⟩ := backOff_noted h attempt reason
  refine ⟨notices ++ [.rest r.backoff none], by simp [hquiet], ?_⟩
  rw [hbackOff, Run.rest, Run.refusable_accepted hrest]
  rfl

/-- A rest that is refused or interrupted. -/
theorem backOff_disturbed {w : World} (h : r.Noted w) (attempt : Nat) (reason : String)
    {fault : Fault} (hrest : (w.takeRest r.backoff).1 = some fault) :
    ∃ before, acts before = [.rest r.backoff (some fault)] ∧
      backOff r attempt reason w = ⟨.raised fault, before, (w.takeRest r.backoff).2⟩ := by
  obtain ⟨notices, hquiet, hbackOff⟩ := backOff_noted h attempt reason
  refine ⟨notices ++ [.rest r.backoff (some fault)], by simp [hquiet], ?_⟩
  rw [hbackOff, Run.rest, Run.refusable_refused hrest]
  rfl

/-- A strict log ends the run in place of the rest. -/
theorem backOff_unreported {w : World} (hstrict : w.strictLog = true) (h : ¬ r.Reportable)
    (attempt : Nat) (reason : String) :
    backOff r attempt reason w = ⟨.raised r.unreported, [], w⟩ := by
  unfold backOff reportRetry
  rw [retryNotice_of_not_reportable h]
  simp [hstrict, Run.bind_raised, Run.raise]

/-! ## One attempt -/

section Attempt

variable (w : World) (attempt left : Nat)

/-- The only act before a reply is judged is the start that it is the reply to. -/
theorem exists_attemptFrom_eq :
    ∃ before, acts before = [.command process (w.replyTo process 0)] ∧
      attemptFrom process r attempt (left + 1) w =
        ((match judge r (w.replyTo process 0) with
          | .settled ending => Run.ofExcept ending
          | .unsettled trouble =>
            if left = 0 then trouble.giveUp r process.timeout
            else do
              backOff r attempt (trouble.reason r)
              attemptFrom process r (attempt + 1) left) (w.runProcess process).2).after before := by
  have heq := attemptFrom_succ process r attempt left w
  rw [w.runProcess_reply process] at heq
  exact ⟨_, by rw [acts_command, logOutput_acts], heq⟩

/-- A reply after which no other attempt is of use ends the run. -/
theorem attemptFrom_final (hargv : r.argv ≠ [])
    (hfinal : retryable (w.replyTo process 0) = false) :
    acts (attemptFrom process r attempt (left + 1) w).events
        = [.command process (w.replyTo process 0)] ∧
      r.Settles process.timeout (w.replyTo process 0)
        (attemptFrom process r attempt (left + 1) w).outcome := by
  obtain ⟨before, hacts, heq⟩ := exists_attemptFrom_eq (r := r) process w attempt left
  obtain ⟨ending, hjudge, hsettles⟩ := judge_final process hargv hfinal
  have hnone : (Run.ofExcept ending (w.runProcess process).2).events = [] := by
    cases ending <;> rfl
  rw [hjudge] at heq
  rw [heq]
  exact ⟨by simp [hacts, hnone], hsettles _⟩

/-- So does any other reply to the last attempt. -/
theorem attemptFrom_last (hretry : retryable (w.replyTo process 0) = true) :
    acts (attemptFrom process r attempt 1 w).events = [.command process (w.replyTo process 0)] ∧
      r.Settles process.timeout (w.replyTo process 0)
        (attemptFrom process r attempt 1 w).outcome := by
  obtain ⟨before, hacts, heq⟩ := exists_attemptFrom_eq (r := r) process w attempt 0
  obtain ⟨trouble, hjudge, hgiveUp⟩ := judge_retryable (r := r) process hretry
  obtain ⟨hsettles, hnone⟩ := hgiveUp (w.runProcess process).2
  rw [hjudge] at heq
  simp only [if_true] at heq
  rw [heq]
  exact ⟨by simp [hacts, hnone], hsettles⟩

/-- So whatever is replied, a single attempt settles the run. -/
theorem attemptFrom_single (hargv : r.argv ≠ []) :
    acts (attemptFrom process r attempt 1 w).events = [.command process (w.replyTo process 0)] ∧
      r.Settles process.timeout (w.replyTo process 0)
        (attemptFrom process r attempt 1 w).outcome := by
  cases hretry : retryable (w.replyTo process 0) with
  | false => exact attemptFrom_final process w attempt 0 hargv hretry
  | true => exact attemptFrom_last process w attempt hretry

/-- Before the last attempt a failure leads to a rest. -/
theorem exists_attemptFrom_retry (hretry : retryable (w.replyTo process 0) = true) :
    ∃ before trouble, acts before = [.command process (w.replyTo process 0)] ∧
      attemptFrom process r attempt (left + 2) w =
        ((do
          backOff r attempt (Trouble.reason r trouble)
          attemptFrom process r (attempt + 1) (left + 1))
        (w.runProcess process).2).after before := by
  obtain ⟨before, hacts, heq⟩ := exists_attemptFrom_eq (r := r) process w attempt (left + 1)
  obtain ⟨trouble, hjudge, -⟩ := judge_retryable (r := r) process hretry
  rw [hjudge] at heq
  simp only [Nat.add_eq_zero_iff, one_ne_zero, and_false, if_false] at heq
  exact ⟨before, trouble, hacts, heq⟩

/-- After a rest that goes by the other attempts are made. -/
theorem attemptFrom_again (hretry : retryable (w.replyTo process 0) = true)
    (hrepeat : r.Repeatable w) {count : Nat} (hrest : w.Undisturbed (count + 1)) :
    ∃ before next, acts before = [.command process (w.replyTo process 0), .rest r.backoff none] ∧
      (∀ i, next.replyTo process i = w.replyTo process (i + 1)) ∧ r.Repeatable next ∧
      next.Undisturbed count ∧
      attemptFrom process r attempt (left + 2) w =
        (attemptFrom process r (attempt + 1) (left + 1) next).after before := by
  obtain ⟨before, trouble, hacts, heq⟩ :=
    exists_attemptFrom_retry (r := r) process w attempt left hretry
  have hborne := hrepeat.runProcess process
  obtain ⟨hquiet, hlater⟩ := (hrest.runProcess process).takeRest hborne.2
  obtain ⟨notices, hnotices, hbackOff⟩ :=
    backOff_undisturbed hborne.1 attempt (trouble.reason r) hquiet
  rw [Run.bind_done (by rw [hbackOff]), hbackOff, Trace.after_after] at heq
  refine ⟨_, ((w.runProcess process).2.takeRest r.backoff).2, ?_, fun i => ?_,
    hborne.takeRest r.backoff, hlater, heq⟩
  · simp [hacts, hnotices]
  · rw [World.replyTo_takeRest, World.replyTo_runProcess]

/-- A rest that is refused or interrupted ends the run. -/
theorem attemptFrom_disturbed (hretry : retryable (w.replyTo process 0) = true) (h : r.Noted w)
    {fault : Fault} (hrest : ((w.runProcess process).2.takeRest r.backoff).1 = some fault) :
    acts (attemptFrom process r attempt (left + 2) w).events
        = [.command process (w.replyTo process 0), .rest r.backoff (some fault)] ∧
      (attemptFrom process r attempt (left + 2) w).outcome = .raised fault := by
  obtain ⟨before, trouble, hacts, heq⟩ :=
    exists_attemptFrom_retry (r := r) process w attempt left hretry
  obtain ⟨notices, hnotices, hbackOff⟩ :=
    backOff_disturbed (h.runProcess process) attempt (trouble.reason r) hrest
  rw [Run.bind_raised (by rw [hbackOff]), hbackOff] at heq
  rw [heq]
  exact ⟨by simp [hacts, hnotices], rfl⟩

/-- If a strict log does not take the notice of a retry, the run ends there. -/
theorem attemptFrom_unreported (hretry : retryable (w.replyTo process 0) = true)
    (hstrict : w.strictLog = true) (hreport : ¬ r.Reportable) :
    acts (attemptFrom process r attempt (left + 2) w).events
        = [.command process (w.replyTo process 0)] ∧
      (attemptFrom process r attempt (left + 2) w).outcome = .raised r.unreported := by
  obtain ⟨before, trouble, hacts, heq⟩ :=
    exists_attemptFrom_retry (r := r) process w attempt left hretry
  have hbackOff := backOff_unreported (w := (w.runProcess process).2)
    ((w.runProcess_strictLog process).trans hstrict) hreport attempt (trouble.reason r)
  rw [Run.bind_raised (by rw [hbackOff]), hbackOff] at heq
  rw [heq]
  exact ⟨by simp [hacts], rfl⟩

end Attempt

/-! ## All attempts -/

/-- The attempts follow the replies. -/
theorem attemptFrom_course (hargv : r.argv ≠ []) (attempt left : Nat) (w : World)
    (hrepeat : 1 < attemptsMade (w.replyTo process) (left + 1) → r.Repeatable w)
    (hrest : w.Undisturbed (attemptsMade (w.replyTo process) (left + 1) - 1)) :
    acts (attemptFrom process r attempt (left + 1) w).events
        = r.course process (w.replyTo process) (attemptsMade (w.replyTo process) (left + 1)) ∧
      r.Settles process.timeout
        (w.replyTo process (attemptsMade (w.replyTo process) (left + 1) - 1))
        (attemptFrom process r attempt (left + 1) w).outcome := by
  induction left generalizing attempt w with
  | zero =>
    rw [attemptsMade_one, Request.course_one]
    exact attemptFrom_single process w attempt hargv
  | succ left ih =>
    cases hretry : retryable (w.replyTo process 0) with
    | false =>
      rw [attemptsMade_of_final _ hretry, Request.course_one]
      exact attemptFrom_final process w attempt (left + 1) hargv hretry
    | true =>
      rw [attemptsMade_of_retryable _ hretry] at hrepeat hrest ⊢
      have hpos : 0 < attemptsMade (fun i => w.replyTo process (i + 1)) (left + 1) :=
        attemptsMade_pos left
      obtain ⟨count, hcount⟩ := Nat.exists_eq_add_of_lt hpos
      rw [Nat.zero_add] at hcount
      rw [hcount] at hrepeat hrest ⊢
      obtain ⟨before, next, hacts, hreplies, hborne, hlater, heq⟩ :=
        attemptFrom_again process w attempt left hretry (hrepeat (by omega)) hrest
      have hsame : next.replyTo process = fun i => w.replyTo process (i + 1) := funext hreplies
      have hnext := ih (attempt + 1) next
      rw [hsame, hcount] at hnext
      obtain ⟨hrow, hsettles⟩ := hnext (fun _ => hborne) hlater
      rw [heq]
      exact ⟨by simp [hacts, hrow, Request.course_succ], hsettles⟩

end CommandRunner

/-- A run does what the request asks for. -/
structure Request.Obeyed (r : Request) (process : Command)
    (replies : Nat → Except Fault Completed) (t : Trace Completed) : Prop where
  /-- One process for each attempt, always the same, and a rest after each but the last. -/
  course : acts t.events = r.course process replies (attemptsMade replies r.attempts)
  /-- The last reply decides how the run ends. -/
  settles : r.Settles process.timeout (replies (attemptsMade replies r.attempts - 1)) t.outcome
  /-- A time-out at the end is told with the time limit, and kept as the cause. -/
  timedOut : ∀ cause, replies (attemptsMade replies r.attempts - 1) = .error cause →
    cause.isTimeout = true → ∃ limit, t.outcome =
      .raised (.causedBy cause ("Command timed out after " ++ limit ++ "s: " ++ r.line))
  /-- The attempts are never used up without an end. -/
  not_exhausted : t.outcome = .raised r.exhausted →
    replies (attemptsMade replies r.attempts - 1) = .error r.exhausted

/-- A time-out is told with the time limit, or with the fault of a limit that cannot be shown. -/
theorem Request.Settles.timedOut {r : Request} {limit : Option Number} {cause : Fault}
    {outcome : Outcome Completed} (h : r.Settles limit (.error cause) outcome)
    (htimeout : cause.isTimeout = true) :
    (∃ text, CommandRunner.limitText limit = .ok text ∧ outcome =
      .raised (.causedBy cause ("Command timed out after " ++ text ++ "s: " ++ r.line))) ∨
    ¬CommandRunner.IsShown limit ∧ outcome = .raised Number.tooLong := by
  cases h with
  | tooSlow _ text _ htext => exact .inl ⟨text, htext, rfl⟩
  | unshown _ _ hshown => exact .inr ⟨hshown, rfl⟩
  | missing _ _ _ hmissing =>
    cases (CommandRunner.not_isMissingFile_of_isTimeout htimeout).symm.trans hmissing
  | system _ _ hsystem =>
    cases (CommandRunner.not_isSystem_of_isTimeout htimeout).symm.trans hsystem
  | other _ hother => cases hother.symm.trans htimeout

namespace CommandRunner

theorem exists_attempts_eq (r : Request) : ∃ left, r.attempts = left + 1 := by
  refine ⟨r.attempts - 1, ?_⟩
  unfold Request.attempts
  omega

section Obeys

variable (runner : CommandRunner) (r : Request) (w : World)

/-- The replies that a run gets. -/
def repliesTo : Nat → Except Fault Completed := w.replyTo (runner.processFor r w.environment)

/-- The attempts that a run makes if nothing comes in between. -/
def attemptsOf : Nat := attemptsMade (runner.repliesTo r w) r.attempts

/-- The reply to the last of these attempts. -/
def lastReply : Except Fault Completed := runner.repliesTo r w (runner.attemptsOf r w - 1)

/-- The last reply is no time-out, or the time limit can be shown. -/
def Tellable : Prop := ∀ cause, runner.lastReply r w = .error cause → cause.isTimeout = true →
  IsShown (r.timeout <|> runner.defaultTimeout)

/-- A run does what its request asks for. -/
def Obeys : Prop :=
  r.Obeyed (runner.processFor r w.environment) (runner.repliesTo r w) (runner.run r w)

/-- What a run does with its request, whatever the outside bears. -/
structure Retried : Prop where
  /-- The run does what is asked for, if the outside bears the retries that are due and the end can
  be told. -/
  obeys : runner.attemptsOf r w = 1 ∨ r.Repeatable w → w.Undisturbed (runner.attemptsOf r w - 1) →
    runner.Tellable r w → runner.Obeys r w
  /-- A time limit that cannot be shown changes nothing but the fault. -/
  unshown : runner.attemptsOf r w = 1 ∨ r.Repeatable w →
    w.Undisturbed (runner.attemptsOf r w - 1) → ¬runner.Tellable r w →
      acts (runner.run r w).events = r.course (runner.processFor r w.environment)
          (runner.repliesTo r w) (runner.attemptsOf r w) ∧
        (runner.run r w).outcome = .raised Number.tooLong
  /-- The notice of a retry that a strict log does not take ends the run. -/
  unreported : runner.attemptsOf r w ≠ 1 → w.strictLog = true → ¬r.Reportable →
    acts (runner.run r w).events
        = [.command (runner.processFor r w.environment) (runner.repliesTo r w 0)] ∧
      (runner.run r w).outcome = .raised r.unreported
  /-- So does a rest that the clock refuses. -/
  refused : runner.attemptsOf r w ≠ 1 → r.Noted w →
    ∀ fault, w.clockRefusal? r.backoff = some fault →
    acts (runner.run r w).events
        = [.command (runner.processFor r w.environment) (runner.repliesTo r w 0),
          .rest r.backoff (some fault)] ∧
      (runner.run r w).outcome = .raised fault

end Obeys

variable (runner : CommandRunner) {r : Request} (w : World)

/-- The attempts of a run that the outside bears. -/
theorem run_course (hargv : r.argv ≠ []) (hrepeat : runner.attemptsOf r w = 1 ∨ r.Repeatable w)
    (hrest : w.Undisturbed (runner.attemptsOf r w - 1)) :
    acts (runner.run r w).events = r.course (runner.processFor r w.environment)
        (runner.repliesTo r w) (runner.attemptsOf r w) ∧
      r.Settles (r.timeout <|> runner.defaultTimeout) (runner.lastReply r w)
        (runner.run r w).outcome := by
  obtain ⟨left, hleft⟩ := exists_attempts_eq r
  unfold lastReply
  unfold attemptsOf at hrepeat hrest ⊢
  rw [hleft] at hrepeat hrest ⊢
  have hmore (h : 1 < attemptsMade (runner.repliesTo r w) (left + 1)) : r.Repeatable w :=
    hrepeat.resolve_left (by omega)
  rw [run_apply, hleft]
  exact attemptFrom_course _ hargv 1 left w hmore hrest

theorem run_obeys (hargv : r.argv ≠ []) (hrepeat : runner.attemptsOf r w = 1 ∨ r.Repeatable w)
    (hrest : w.Undisturbed (runner.attemptsOf r w - 1)) (htell : runner.Tellable r w) :
    runner.Obeys r w := by
  obtain ⟨hcourse, hsettles⟩ := runner.run_course w hargv hrepeat hrest
  refine ⟨hcourse, hsettles, fun cause hcause htimeout => ?_, hsettles.exhausted⟩
  rw [show runner.lastReply r w = .error cause from hcause] at hsettles
  rcases hsettles.timedOut htimeout with ⟨text, -, hraised⟩ | ⟨hshown, -⟩
  · exact ⟨text, hraised⟩
  · exact absurd (htell cause hcause htimeout) hshown

theorem run_unshown (hargv : r.argv ≠ []) (hrepeat : runner.attemptsOf r w = 1 ∨ r.Repeatable w)
    (hrest : w.Undisturbed (runner.attemptsOf r w - 1)) (htell : ¬runner.Tellable r w) :
    acts (runner.run r w).events = r.course (runner.processFor r w.environment)
        (runner.repliesTo r w) (runner.attemptsOf r w) ∧
      (runner.run r w).outcome = .raised Number.tooLong := by
  obtain ⟨hcourse, hsettles⟩ := runner.run_course w hargv hrepeat hrest
  unfold Tellable at htell
  push Not at htell
  obtain ⟨cause, hcause, htimeout, hshown⟩ := htell
  rw [hcause] at hsettles
  rcases hsettles.timedOut htimeout with ⟨text, htext, -⟩ | ⟨-, hraised⟩
  · exact absurd ⟨text, htext⟩ hshown
  · exact ⟨hcourse, hraised⟩

/-- If more than one attempt is due, the first reply asks for it. -/
theorem exists_retry_of_attemptsOf_ne_one (hmore : runner.attemptsOf r w ≠ 1) :
    ∃ left, r.attempts = left + 2 ∧ retryable (runner.repliesTo r w 0) = true := by
  obtain ⟨left, hleft⟩ := exists_attempts_eq r
  unfold attemptsOf at hmore
  rw [hleft] at hmore
  cases left with
  | zero => exact absurd attemptsMade_one hmore
  | succ left =>
    refine ⟨left, hleft, ?_⟩
    cases h : retryable (runner.repliesTo r w 0) with
    | true => rfl
    | false => exact absurd (attemptsMade_of_final (left + 1) h) hmore

/-- A first retry that cannot be reported is not made. -/
theorem run_unreported (hmore : runner.attemptsOf r w ≠ 1) (hstrict : w.strictLog = true)
    (hreport : ¬r.Reportable) :
    acts (runner.run r w).events
        = [.command (runner.processFor r w.environment) (runner.repliesTo r w 0)] ∧
      (runner.run r w).outcome = .raised r.unreported := by
  obtain ⟨left, hleft, hretry⟩ := runner.exists_retry_of_attemptsOf_ne_one w hmore
  rw [run_apply, hleft]
  exact attemptFrom_unreported _ w 1 left hretry hstrict hreport

/-- Neither is one whose rest the clock refuses. -/
theorem run_refused (hmore : runner.attemptsOf r w ≠ 1) (h : r.Noted w) {fault : Fault}
    (hclock : w.clockRefusal? r.backoff = some fault) :
    acts (runner.run r w).events
        = [.command (runner.processFor r w.environment) (runner.repliesTo r w 0),
          .rest r.backoff (some fault)] ∧
      (runner.run r w).outcome = .raised fault := by
  obtain ⟨left, hleft, hretry⟩ := runner.exists_retry_of_attemptsOf_ne_one w hmore
  let process := runner.processFor r w.environment
  have hrest : ((w.runProcess process).2.takeRest r.backoff).1 = some fault := by
    rw [World.takeRest_of_refused _ ((w.runProcess_clockRefusal? process r.backoff).trans hclock)]
  rw [run_apply, hleft]
  exact attemptFrom_disturbed _ w 1 left hretry h hrest

/-- What becomes of a request is known for every outside. -/
theorem run_retries (hargv : r.argv ≠ []) : runner.Retried r w where
  obeys := runner.run_obeys w hargv
  unshown := runner.run_unshown w hargv
  unreported := runner.run_unreported w
  refused hmore h _ := runner.run_refused w hmore h

/-- A time-out, a failing exit and a success in turn. -/
def shaky : World where
  processes := [("*", [{ reply := .error (.other .timeout "") }, { reply := .ok (1, "", "no") },
    { reply := .ok (0, "up", "") }])]
  strictClock := true

/-- A request that does not insist on success. -/
def patientRequest : Request where
  argv := ["docker", "ps"]
  check := false
  capture := true
  retries := 2
  backoff := .int 2

theorem shaky_obeyed : attemptsOf {} patientRequest shaky = 3 ∧ Obeys {} patientRequest shaky := by
  have hargv : patientRequest.argv ≠ [] := by decide
  have hrepeat : patientRequest.Repeatable shaky := ⟨.inr ⟨by decide +kernel, rfl⟩, by decide⟩
  exact ⟨rfl, (run_retries {} shaky hargv).obeys (.inr hrepeat) nofun nofun⟩

/-! ## What the outside does not bear -/

/-- A failing exit before a success. -/
def recovering : World where
  processes := [("*", [{ reply := .ok (1, "", "") }, { reply := .ok (0, "", "") }])]

/-- The same, in front of a clock that does not measure every rest; the log drops what cannot be
written. -/
def recoveringOnTime : World := { recovering with strictClock := true, strictLog := false }

/-- A process that takes too long. -/
def overdue : World where
  processes := [("*", [{ reply := .error (.other .timeout "") }])]

/-- As many attempts as cannot be written any more. -/
def endless : Request where
  argv := ["docker", "ps"]
  retries := Number.leastTooLong - 1

/-- A rest before a second attempt. -/
def restingFor (seconds : Number) : Request where
  argv := ["docker", "ps"]
  retries := 1
  backoff := seconds

/-- A time limit that no message shows. -/
def tolerant : Request where
  argv := ["docker", "ps"]
  timeout := some (.int Number.leastTooLong)

theorem attemptsOf_eq_two {r : Request} {w : World} (hargv : r.argv = ["docker", "ps"])
    (hretries : 0 < r.retries) (hprocesses : w.processes = recovering.processes) :
    attemptsOf {} r w = 2 := by
  obtain ⟨left, hleft⟩ : ∃ left, r.attempts = left + 2 := by
    refine ⟨r.attempts - 2, ?_⟩
    unfold Request.attempts
    omega
  have hqueue : w.outcomesFor (processFor {} r w.environment) =
      [{ reply := .ok (1, "", "") }, { reply := .ok (0, "", "") }] := by
    simp only [World.outcomesFor, World.queueFor, processFor, hargv, hprocesses]
    rfl
  have hfirst : retryable (repliesTo {} r w 0) = true := by
    rw [repliesTo, World.replyTo, hqueue]
    rfl
  have hsecond : retryable (repliesTo {} r w 1) = false := by
    rw [repliesTo, World.replyTo, hqueue]
    rfl
  rw [attemptsOf, hleft, attemptsMade_of_retryable left hfirst, attemptsMade_of_final left hsecond]

/-- A run with two attempts due has two processes and a rest that goes by. -/
theorem Obeys.acts_of_two {runner : CommandRunner} {r : Request} {w : World}
    (h : runner.Obeys r w) (htwo : runner.attemptsOf r w = 2) :
    acts (runner.run r w).events =
      [.command (runner.processFor r w.environment) (runner.repliesTo r w 0),
        .rest r.backoff none,
        .command (runner.processFor r w.environment) (runner.repliesTo r w 1)] := by
  have hcourse := h.course
  rwa [show attemptsMade _ r.attempts = 2 from htwo, Request.course_succ,
    Request.course_one] at hcourse

theorem not_obeys_of_unreported {r : Request} (hargv : r.argv = ["docker", "ps"])
    (hretries : 0 < r.retries) (hreport : ¬r.Reportable) : ¬Obeys {} r recovering := by
  intro h
  have htwo := attemptsOf_eq_two (w := recovering) hargv hretries rfl
  have hacts := h.acts_of_two htwo
  rw [(run_unreported {} recovering (by omega) rfl hreport).1] at hacts
  cases hacts

/-- None of the requests is obeyed: the time limit of a time-out cannot be shown, a rest cannot be
measured, the seconds of a rest have no double, and the number of attempts cannot be written. -/
theorem unbearable_requests_not_obeyed :
    ¬Obeys {} tolerant overdue ∧ ¬Obeys {} (restingFor (.int 10000000000)) recoveringOnTime ∧
      ¬Obeys {} (restingFor (.int (10 ^ 400))) recovering ∧ ¬Obeys {} endless recovering := by
  refine ⟨fun h => ?_, fun h => ?_, ?_, ?_⟩
  · have hshown : ¬IsShown (tolerant.timeout <|> none) := by
      rintro ⟨text, htext⟩
      have hwritten : Number.write Number.leastTooLong = .ok text := htext
      rw [Number.write, Number.isWritable_leastTooLong] at hwritten
      cases hwritten
    have htell : ¬Tellable {} tolerant overdue := fun htell => hshown (htell _ rfl rfl)
    obtain ⟨limit, hraised⟩ := h.timedOut _ rfl rfl
    rw [(run_unshown {} overdue (by decide) (.inl rfl) nofun htell).2] at hraised
    cases hraised
  · have htwo := attemptsOf_eq_two (r := restingFor (.int 10000000000)) (w := recoveringOnTime)
      rfl (by decide) rfl
    have hacts := h.acts_of_two htwo
    rw [(run_refused {} recoveringOnTime (by omega) (.inl rfl) rfl).1] at hacts
    cases hacts
  · have hlong : (restingFor (.int (10 ^ 400))).backoff.toFloat? = none := by decide +kernel
    refine not_obeys_of_unreported rfl (by decide) fun h => ?_
    have hsome := h.2
    rw [hlong] at hsome
    cases hsome
  · have hten : 10 ≤ Number.leastTooLong := Number.pow_le_leastTooLong (k := 1) (by decide)
    have hlarge : 0 < endless.retries := by
      change (0 : Int) < Number.leastTooLong - 1
      omega
    have hattempts : endless.attempts = Number.leastTooLong := by
      change (max 1 ((Number.leastTooLong : Int) - 1 + 1)).toNat = _
      omega
    refine not_obeys_of_unreported rfl hlarge fun h => ?_
    have hwritable := h.1
    rw [hattempts, Number.isWritable_leastTooLong] at hwritable
    cases hwritable

end CommandRunner

end SeededServer
