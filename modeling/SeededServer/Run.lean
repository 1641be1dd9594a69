import SeededServer.World

/-!
# Runs

A run is a computation that meets the outside. It ends with a value or with a fault, or it does not
end within what is followed of it; either way its events so far and the world after it are known.
Handlers see faults only: nothing is done after a run that does not end.
-/
namespace SeededServer

inductive Outcome (α : Type) where
  | done (value : α)
  | raised (fault : Fault)
  | unfinished

/-- All that is known after a run: its end, its own events, and the world it leaves. -/
structure Trace (α : Type) where
  outcome : Outcome α
  events : List Event
  world : World

def Run (α : Type) := World → Trace α

namespace Run

variable {α β : Type}

protected def pure (a : α) : Run α := fun w => ⟨.done a, [], w⟩

/-- Goes on with the value of a run that ends with one. -/
protected def bind (m : Run α) (f : α → Run β) : Run β := fun w =>
  let first := m w
  match first.outcome with
  | .done a =>
    let second := f a first.world
    ⟨second.outcome, first.events ++ second.events, second.world⟩
  | .raised fault => ⟨.raised fault, first.events, first.world⟩
  | .unfinished => ⟨.unfinished, first.events, first.world⟩

instance : Monad Run where
  pure := Run.pure
  bind := Run.bind

def raise (fault : Fault) : Run α := fun w => ⟨.raised fault, [], w⟩

def unfinished : Run α := fun w => ⟨.unfinished, [], w⟩

def ofExcept : Except Fault α → Run α
  | .ok a => pure a
  | .error fault => raise fault

/-- Hands over a fault as a value. -/
def attempt (m : Run α) : Run (Except Fault α) := fun w =>
  let first := m w
  match first.outcome with
  | .done a => ⟨.done (.ok a), first.events, first.world⟩
  | .raised fault => ⟨.done (.error fault), first.events, first.world⟩
  | .unfinished => ⟨.unfinished, first.events, first.world⟩

/-- Goes on with `handler` after a fault. -/
def rescue (m : Run α) (handler : Fault → Run α) : Run α := do
  match ← attempt m with
  | .ok a => pure a
  | .error fault => handler fault

/-- Does `last` after `m` in any case. A fault of `last` takes the place of how `m` ended. -/
def ensure (m : Run α) (last : Run Unit) : Run α := do
  let ending ← attempt m
  last
  ofExcept ending

def mapDriverError (m : Run α) (f : Fault → Fault) : Run α :=
  rescue m fun fault => raise (if fault.isDriver then f fault else fault)

def check : Option Fault → Run Unit
  | none => pure ()
  | some fault => raise fault

/-- A single exchange: a step of the world, and the event that it leaves. -/
def exchange {ρ : Type} (step : World → ρ × World) (event : ρ → Event) : Run ρ := fun w =>
  let (reply, w') := step w
  ⟨.done reply, [event reply], w'⟩

def tell (event : Event) : Run Unit := fun w => ⟨.done (), [event], w⟩

def log (level : Level) (text : String) : Run Unit := tell (.log level text)

def print (text : String) : Run Unit := tell (.print text)

def ask (f : World → α) : Run α := fun w => ⟨.done (f w), [], w⟩

/-- Changes which container the runner has to remove. -/
def hold (container : Option Container) : Run Unit := fun w =>
  ⟨.done (), [], { w with held := container }⟩

def startProcess (command : Command) : Run Completed := do
  ofExcept (← exchange (World.runProcess command) (.command command))

def rest (seconds : Number) : Run Unit := do
  check (← exchange (World.takeRest seconds) (.rest seconds))

/-- Rests second by second, a given number of times, and does not end after that. -/
def restRepeatedly : Nat → Run Unit
  | 0 => unfinished
  | count + 1 => do
    rest (.int 1)
    restRepeatedly count

/-- Rests second by second until the user interrupts. -/
def restUntilInterrupted : Run Unit := fun w =>
  match w.interruptAt with
  | none => ⟨.raised .interruption, [.rest (.int 1) (some .interruption)],
      { w with rests := w.rests + 1 }⟩
  | some count => restRepeatedly (count - w.rests) w

def connect (login : Login) : Run Unit := do
  check (← exchange (World.connect login) (.connect login))

def openCursor (database : String) : Run Unit := do
  check (← exchange World.openCursor (.cursor database))

def execute (database statement : String) : Run Unit := do
  check (← exchange (World.execute statement) (.execute database statement))

def fetch (database : String) : Run (Option Row) := do
  ofExcept (← exchange World.fetch (.fetch database))

def close (database : String) : Run Unit := do
  check (← exchange World.close (.close database))

end Run

end SeededServer
