import SeededServer.Proofs.Entries
import SeededServer.World

/-!
# Replies by their number

A process takes its outcomes from a queue whose last entry stays. So the reply to each start of a
process is settled by the world before the first one, and starts of it can be numbered: each uses up
one outcome, and rests in between use up none.

## Main definitions

* `World.replyTo` — the reply to a start of a process, by the number of the start.
* `World.Undisturbed` — the next rests are not interrupted.
-/
namespace SeededServer.World

variable (w : World) (process : Command)

/-- The outcome of a call by its number; the last outcome of the queue stays. -/
def outcomeAt (queue : List ProcessOutcome) (i : Nat) : ProcessOutcome :=
  (queue[i]?.or queue.getLast?).getD {}

/-- The outcomes that are left for a process. -/
def outcomesFor : List ProcessOutcome :=
  (Entries.get? w.processes (w.queueFor process.argv)).getD []

/-- The world with other outcomes left for a process. -/
def withOutcomes (outcomes : List ProcessOutcome) : World :=
  { w with processes := Entries.put (w.queueFor process.argv) outcomes w.processes }

/-- What is known of a process with such an outcome. -/
def seen (outcome : ProcessOutcome) : Except Fault Completed :=
  let kept (s : String) : Option String := if process.capture then some s else none
  outcome.reply.map fun (status, stdout, stderr) => ⟨status, kept stdout, kept stderr⟩

/-- The reply to a start of a process, by the number of the start. -/
def replyTo (i : Nat) : Except Fault Completed :=
  seen process (outcomeAt (w.outcomesFor process) i)

/-- A start without an outcome of its own is a plain success. -/
theorem runProcess_of_none (h : takeRepeating (w.outcomesFor process) = none) :
    w.runProcess process = (seen process {}, w.advance (.int 0)) := by
  unfold outcomesFor at h
  simp only [runProcess, h]
  rfl

theorem runProcess_of_some {outcome : ProcessOutcome} {rest : List ProcessOutcome}
    (h : takeRepeating (w.outcomesFor process) = some (outcome, rest)) :
    w.runProcess process =
      (seen process outcome, (w.withOutcomes process rest).advance outcome.cost) := by
  unfold outcomesFor at h
  simp only [runProcess, h]
  rfl

/-- An empty queue, and what is taken off the front of one that is not empty. -/
theorem takeRepeating_cases (queue : List ProcessOutcome) :
    (takeRepeating queue = none ∧ queue = []) ∨
      ∃ outcome rest, takeRepeating queue = some (outcome, rest) ∧
        outcomeAt queue 0 = outcome ∧ ∀ i, outcomeAt rest i = outcomeAt queue (i + 1) := by
  rcases queue with _ | ⟨outcome, _ | ⟨next, rest⟩⟩
  · exact .inl ⟨rfl, rfl⟩
  · exact .inr ⟨outcome, [outcome], rfl, rfl, fun i => by cases i <;> simp [outcomeAt]⟩
  · exact .inr ⟨outcome, next :: rest, rfl, rfl, fun i => by simp [outcomeAt]⟩

theorem runProcess_reply : (w.runProcess process).1 = w.replyTo process 0 := by
  rcases takeRepeating_cases (w.outcomesFor process) with
    ⟨hnone, hempty⟩ | ⟨outcome, rest, hsome, hfirst, -⟩
  · rw [runProcess_of_none w process hnone, replyTo, hempty]
    rfl
  · rw [runProcess_of_some w process hsome, replyTo, hfirst]

/-- A queue that is put back is found again. -/
theorem outcomesFor_withOutcomes (outcomes : List ProcessOutcome)
    (h : w.outcomesFor process ≠ []) :
    (w.withOutcomes process outcomes).outcomesFor process = outcomes := by
  have hkey : Entries.has w.processes (w.queueFor process.argv) = true := by
    rw [Entries.has_eq_isSome]
    cases hget : Entries.get? w.processes (w.queueFor process.argv) with
    | none => exact absurd (by rw [outcomesFor, hget]; rfl) h
    | some queue => rfl
  have hhas (key : String) :
      Entries.has (w.withOutcomes process outcomes).processes key
        = Entries.has w.processes key := by
    rw [withOutcomes, Entries.has_eq_isSome, Entries.get?_put]
    split
    · next hsame => rw [← hsame, hkey]; rfl
    · rw [Entries.has_eq_isSome]
  have hqueue : (w.withOutcomes process outcomes).queueFor process.argv
      = w.queueFor process.argv := by
    rw [queueFor, hhas, ← queueFor]
  rw [outcomesFor, hqueue, withOutcomes, Entries.get?_put, if_pos rfl]
  rfl

/-- Each start uses up one outcome. -/
theorem replyTo_runProcess (i : Nat) :
    (w.runProcess process).2.replyTo process i = w.replyTo process (i + 1) := by
  rcases takeRepeating_cases (w.outcomesFor process) with
    ⟨hnone, hempty⟩ | ⟨outcome, rest, hsome, -, hrest⟩
  · rw [runProcess_of_none w process hnone]
    change seen process (outcomeAt (w.outcomesFor process) i) = _
    rw [replyTo, hempty]
    rfl
  · have hqueue : w.outcomesFor process ≠ [] := by
      intro hempty
      rw [hempty] at hsome
      cases hsome
    rw [runProcess_of_some w process hsome]
    change seen process (outcomeAt ((w.withOutcomes process rest).outcomesFor process) i) = _
    rw [w.outcomesFor_withOutcomes process rest hqueue, hrest, replyTo]

/-- Every row of outcomes is the row of replies in some world. -/
theorem exists_replyTo_eq (outcomes : List ProcessOutcome) :
    ∃ w : World, ∀ (i : Nat) (h : i < outcomes.length),
      w.replyTo process i = seen process outcomes[i] := by
  let w : World := { processes := [("*", outcomes)] }
  have hkey : w.queueFor process.argv = "*" := by
    simp only [queueFor, w, Entries.has, List.any_cons, List.any_nil, Bool.or_false]
    split
    · next h => exact (of_decide_eq_true h).symm
    · rfl
  have hqueue : w.outcomesFor process = outcomes := by
    rw [outcomesFor, hkey]
    rfl
  refine ⟨w, fun i h => ?_⟩
  rw [replyTo, hqueue, outcomeAt, List.getElem?_eq_getElem h]
  rfl

/-! ## What is left alone -/

/-- A process uses up an outcome and takes time. -/
theorem runProcess_eq :
    ∃ clock processes, (w.runProcess process).2 = { w with clock, processes } := by
  unfold runProcess
  dsimp only
  split <;> exact ⟨_, _, rfl⟩

theorem runProcess_interruptAt : (w.runProcess process).2.interruptAt = w.interruptAt := by
  obtain ⟨clock, processes, heq⟩ := w.runProcess_eq process
  rw [heq]

theorem runProcess_rests : (w.runProcess process).2.rests = w.rests := by
  obtain ⟨clock, processes, heq⟩ := w.runProcess_eq process
  rw [heq]

theorem runProcess_strictLog : (w.runProcess process).2.strictLog = w.strictLog := by
  obtain ⟨clock, processes, heq⟩ := w.runProcess_eq process
  rw [heq]

theorem runProcess_clockRefusal? (seconds : Number) :
    (w.runProcess process).2.clockRefusal? seconds = w.clockRefusal? seconds := by
  obtain ⟨clock, processes, heq⟩ := w.runProcess_eq process
  rw [heq]
  rfl

/-! ## Rests -/

/-- A rest that the clock does not refuse is interrupted, or it goes by. -/
theorem takeRest_of_accepted {seconds : Number} (hclock : w.clockRefusal? seconds = none) :
    w.takeRest seconds =
      if w.interruptAt = some (w.rests + 1) then
        (some .interruption, { w with rests := w.rests + 1 })
      else (none, { w with rests := w.rests + 1 }.advance seconds) := by
  simp only [takeRest, hclock]

theorem takeRest_of_refused {seconds : Number} {fault : Fault}
    (hclock : w.clockRefusal? seconds = some fault) : w.takeRest seconds = (some fault, w) := by
  simp only [takeRest, hclock]

/-- A rest that does not go by was interrupted, or a clock refused it. -/
theorem takeRest_fault {seconds : Number} {fault : Fault}
    (h : (w.takeRest seconds).1 = some fault) :
    fault = .interruption ∨ restRefusal? seconds = some fault := by
  cases hclock : w.clockRefusal? seconds with
  | some refusal =>
    rw [w.takeRest_of_refused hclock] at h
    cases h
    unfold clockRefusal? at hclock
    split at hclock
    · exact .inr hclock
    · cases hclock
  | none =>
    rw [w.takeRest_of_accepted hclock] at h
    split at h
    · cases h
      exact .inl rfl
    · cases h

/-- A rest that no clock refuses is interrupted at most. -/
theorem takeRest_ends {seconds : Number} (hclock : restRefusal? seconds = none) :
    (w.takeRest seconds).1 = none ∨ (w.takeRest seconds).1 = some .interruption := by
  cases hrest : (w.takeRest seconds).1 with
  | none => exact .inl rfl
  | some fault =>
    rcases w.takeRest_fault hrest with rfl | hrefused
    · exact .inr rfl
    · cases hclock.symm.trans hrefused

/-- What a clock has against a rest is no error of the driver. -/
theorem not_isDriver_of_restRefusal? {seconds : Number} {fault : Fault}
    (h : restRefusal? seconds = some fault) : fault.isDriver = false := by
  unfold restRefusal? at h
  split at h
  all_goals
    repeat' split at h
    all_goals first | (cases h; rfl) | cases h

/-- A rest changes nothing but the time and the count of the rests. -/
theorem takeRest_eq (seconds : Number) :
    ∃ clock rests, (w.takeRest seconds).2 = { w with clock, rests } := by
  cases hclock : w.clockRefusal? seconds with
  | some fault => exact ⟨w.clock, w.rests, by rw [w.takeRest_of_refused hclock]⟩
  | none =>
    rw [w.takeRest_of_accepted hclock]
    split <;> exact ⟨_, _, rfl⟩

@[simp] theorem replyTo_takeRest (seconds : Number) (i : Nat) :
    (w.takeRest seconds).2.replyTo process i = w.replyTo process i := by
  obtain ⟨clock, rests, heq⟩ := w.takeRest_eq seconds
  rw [heq]
  rfl

theorem takeRest_strictLog (seconds : Number) :
    (w.takeRest seconds).2.strictLog = w.strictLog := by
  obtain ⟨clock, rests, heq⟩ := w.takeRest_eq seconds
  rw [heq]

theorem takeRest_clockRefusal? (seconds others : Number) :
    (w.takeRest seconds).2.clockRefusal? others = w.clockRefusal? others := by
  obtain ⟨clock, rests, heq⟩ := w.takeRest_eq seconds
  rw [heq]
  rfl

/-- The next rests go by without an interrupt. -/
def Undisturbed (count : Nat) : Prop := ∀ i < count, w.interruptAt ≠ some (w.rests + (i + 1))

theorem Undisturbed.runProcess {w : World} {count : Nat} (h : w.Undisturbed count)
    (process : Command) : (w.runProcess process).2.Undisturbed count := by
  unfold Undisturbed
  rwa [runProcess_interruptAt, runProcess_rests]

theorem Undisturbed.takeRest {w : World} {count : Nat} (h : w.Undisturbed (count + 1))
    {seconds : Number} (hclock : w.clockRefusal? seconds = none) :
    (w.takeRest seconds).1 = none ∧ (w.takeRest seconds).2.Undisturbed count := by
  have hfirst : w.interruptAt ≠ some (w.rests + 1) := h 0 (by omega)
  rw [w.takeRest_of_accepted hclock, if_neg hfirst]
  refine ⟨rfl, fun i hi => ?_⟩
  have hnext := h (i + 1) (by omega)
  rw [show w.rests + (i + 1 + 1) = w.rests + 1 + (i + 1) by omega] at hnext
  exact hnext

end SeededServer.World
