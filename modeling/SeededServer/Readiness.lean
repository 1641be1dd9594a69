import SeededServer.Advice
import SeededServer.Run
import SeededServer.Value.Limits

/-!
# Waiting until ready

A container is probed until a probe passes. Every preset fault of a probe means that the container
is not ready yet. Between two probes there is a rest; each is twice as long as the one before, up to
a ceiling. If the next rest would end past the deadline, the wait is given up.

`poll` is the wait itself. It knows neither how time is measured nor what a probe does: a `Timing`
tells it, and an `Outside` takes what a wait has to say, so that the same wait can be followed with
exact times and with the doubles of a clock.
-/
namespace SeededServer.Readiness

/-- How time is measured and spent: instants of type `ι`, spans of type `δ`. -/
structure Timing (m : Type → Type) (ι δ : Type) where
  span : Number → δ
  after : δ → m ι
  rest : δ → m Unit
  past : ι → ι → Bool
  twice : δ → δ
  least : δ → δ → δ

/-- What a wait needs besides time. -/
structure Watch (m : Type → Type) (δ : Type) where
  /-- Probes once; a fault that means that the container is not ready is the answer. -/
  probe : m (Option Fault)
  report : Nat → Fault → m Unit
  ceiling : δ

inductive Ending where
  /-- The probe with this number passed. -/
  | ready (attempts : Nat)
  /-- The last probe failed with this fault, and the next rest would end past the deadline. -/
  | late (fault : Fault)
  | unfinished

/-- Probes until a probe passes or the next rest would end past the deadline; `interval` is the next
rest, `attempt` the number of the next probe, and at most `fuel` probes are followed. -/
def poll {m : Type → Type} [Monad m] {ι δ : Type} (time : Timing m ι δ) (watch : Watch m δ)
    (deadline : ι) : (fuel attempt : Nat) → (interval : δ) → m Ending
  | 0, _, _ => pure .unfinished
  | fuel + 1, attempt, interval => do
    match ← watch.probe with
    | none => pure (.ready attempt)
    | some fault =>
      if time.past (← time.after interval) deadline then pure (.late fault)
      else
        watch.report attempt fault
        time.rest interval
        poll time watch deadline fuel (attempt + 1)
          (time.least (time.twice interval) watch.ceiling)

/-- What a wait does besides spending time: it tells the user, and it deals with faults. -/
structure Outside (m : Type → Type) where
  print : String → m Unit
  log : Level → String → m Unit
  attempt : m Unit → m (Except Fault Unit)
  raise {α : Type} : Fault → m α
  unfinished : m Unit
  patience : m Nat

/-- The fault of a container that is not ready in a time that is written like this. -/
def notReadyIn (container : Container) (timeout : String) (cause : Fault) : Fault :=
  .causedBy cause <| Advice.message .notReady
    [("name", container.name), ("timeout", timeout), ("cause", cause.text)]

def tooLate (container : Container) (timeout : Number) (cause : Fault) : Fault :=
  .showing timeout.display fun timeout => notReadyIn container timeout cause

theorem tooLate_of_display {container : Container} {timeout : Number} {cause : Fault}
    {text : String} (h : timeout.display = .ok text) :
    tooLate container timeout cause = notReadyIn container text cause := by
  rw [tooLate, h]
  rfl

namespace Outside

variable {m : Type → Type} [Monad m] {ι δ : Type}

/-- Hands over the preset faults of a probe; the others end the wait. -/
def notReady (outside : Outside m) (probe : m Unit) : m (Option Fault) := do
  match ← outside.attempt probe with
  | .ok () => pure none
  | .error fault => if fault.isPreset then pure (some fault) else outside.raise fault

def await (outside : Outside m) (time : Timing m ι δ) (interval ceiling : Number)
    (container : Container) (probe : m Unit) (timeout : Number) : m Unit := do
  outside.print "[yellow]Waiting for database to be ready...[/yellow]"
  let deadline ← time.after (time.span timeout)
  let watch : Watch m δ :=
    { probe := outside.notReady probe
      report := fun attempt fault => outside.log .debug
        ("Not ready yet (attempt " ++ Number.intText attempt ++ "): " ++ fault.text)
      ceiling := time.span ceiling }
  match ← poll time watch deadline (← outside.patience) 1 (time.span interval) with
  | .ready attempts =>
    outside.print "[green]Database is ready.[/green]"
    outside.log .info
      ("Container " ++ container.name ++ " ready after " ++ Number.intText attempts
        ++ " attempt(s)")
  | .late fault => outside.raise (tooLate container timeout fault)
  | .unfinished => outside.unfinished

end Outside

/-! ## The wait of a run -/

def clockAfter (span : Number) : Run Float := do
  let now ← Run.ask World.clock
  pure (now + (← Run.ofExcept span.toDouble))

/-- The time of a run: its clock is a double, its spans are numbers. -/
def clockTiming : Timing Run Float Number where
  span seconds := seconds
  after := clockAfter
  rest := Run.rest
  past a b := b < a
  twice := Number.twice
  least := Number.least

def runOutside : Outside Run where
  print := Run.print
  log := Run.log
  attempt := Run.attempt
  raise := Run.raise
  unfinished := Run.unfinished
  patience := Run.ask World.patience

def notReady (probe : Run Unit) : Run (Option Fault) := runOutside.notReady probe

def await (interval ceiling : Number) (container : Container) (probe : Run Unit)
    (timeout : Number) : Run Unit :=
  runOutside.await clockTiming interval ceiling container probe timeout

end SeededServer.Readiness
