import Mathlib.Data.List.Basic
import SeededServer.Proofs.SeedFailures

/-!
# Failures of the driver

Every call to the driver can fail with the driver's own error. It is to surface as a preset fault
that keeps it as its cause. A seeding does so at every call but one: the cursor of the second
session is opened outside of all handlers, and its failure passes as it is.

## Main definitions

* `failures` — the faults that exchanges ended with, in order.
* `OnlyDriverFails` — nothing fails but with the driver's own errors.
* `Surfaces` — a run ends well, or with a preset fault that keeps the one failure as its cause.
* `Seeding.CursorRefused` — a seeding in which only the cursor of the second session is refused.
-/
namespace SeededServer

/-! ## The failures of a run -/

/-- The fault that an exchange ended with. -/
def Event.failure? : Event → Option Fault
  | .command _ (.error fault) | .fetch _ (.error fault) => some fault
  | .rest _ failure | .connect _ failure | .cursor _ failure | .execute _ _ failure
  | .close _ failure => failure
  | _ => none

/-- The faults that exchanges ended with, in order. -/
def failures (events : List Event) : List Fault := events.filterMap Event.failure?

@[simp] theorem failures_nil : failures [] = [] := rfl

@[simp] theorem failures_append (first second : List Event) :
    failures (first ++ second) = failures first ++ failures second := List.filterMap_append

@[simp] theorem failures_cons (e : Event) (events : List Event) :
    failures (e :: events) = e.failure?.toList ++ failures events := by
  cases h : e.failure? <;> simp [failures, h]

/-- Nothing fails but with the driver's own errors. -/
def OnlyDriverFails (events : List Event) : Prop := ∀ fault ∈ failures events, fault.isDriver = true

theorem onlyDriverFails_append {first second : List Event} :
    OnlyDriverFails (first ++ second) ↔ OnlyDriverFails first ∧ OnlyDriverFails second := by
  unfold OnlyDriverFails
  rw [failures_append, List.forall_mem_append]

/-- Where nothing but exchanges with the server can fail, the dialogue holds all failures. -/
theorem failures_dialogue {events : List Event}
    (h : ∀ e ∈ events, e.isDialogue = false → e.failure? = none) :
    failures (dialogue events) = failures events := by
  rw [failures, dialogue, List.filterMap_filter]
  refine List.filterMap_congr fun e he => ?_
  cases hdialogue : e.isDialogue with
  | true => rfl
  | false => simpa using (h e he hdialogue).symm

theorem Event.OfSession.failure?_eq {access : Access} {database : String} {S : String → Prop}
    (e : Event) (h : e.OfSession access database S) (hdialogue : e.isDialogue = false) :
    e.failure? = none := by
  cases e with
  | log => rfl
  | connect | cursor | execute | fetch | close => cases hdialogue
  | _ => exact h.elim

/-- How a run is to end after such failures: it ends well if there is none, and with a preset fault
that keeps the one error of the driver as its cause otherwise. -/
inductive Surfaces : List Fault → Outcome Unit → Prop
  | quiet : Surfaces [] (.done ())
  | wrapped (failure : Failure) (message : String) (cause : Fault) : cause.isDriver = true →
      Surfaces [cause] (.raised (.preset failure message (some cause)))

/-- The fault that replaces a cause is a preset fault that keeps it. -/
def Fault.KeepsCause (f : Fault → Fault) : Prop :=
  ∀ cause, ∃ failure message, f cause = .preset failure message (some cause)

theorem Fault.reported_of_isDriver {fault : Fault} (h : fault.isDriver = true)
    (f : Fault → Fault) : fault.reported f = f fault := if_pos h

theorem Surfaces.reported {f : Fault → Fault} (hf : Fault.KeepsCause f) {fault : Fault}
    (h : fault.isDriver = true) : Surfaces [fault] (.raised (fault.reported f)) := by
  obtain ⟨failure, message, hpreset⟩ := hf fault
  rw [Fault.reported_of_isDriver h, hpreset]
  exact .wrapped failure message fault h

theorem Fault.not_isPreset_of_isDriver {fault : Fault} (h : fault.isDriver = true) :
    fault.isPreset = false := by
  cases fault with
  | preset => cases h
  | other => rfl

/-- A bare error of the driver does not surface. -/
theorem not_surfaces_of_isDriver {faults : List Fault} {fault : Fault}
    (h : fault.isDriver = true) : ¬ Surfaces faults (.raised fault) := by
  intro hsurfaces
  cases hsurfaces
  cases h

theorem Advice.connectionFailed_keepsCause (address database : String) :
    Fault.KeepsCause (connectionFailed address database) := fun _ => ⟨_, _, rfl⟩

/-! ## Seedings -/

namespace Seeding

section Ends

variable (access : Access) (address host port database : String)

/-- The second session of a seeding, if its cursor is refused. -/
def cursorRefusal (fault : Fault) : List Event :=
  [.connect (access.login database host port) none, .cursor database (some fault),
    .close database none]

/-- A seeding in which nothing fails but the cursor of the second session. -/
def CursorRefused (events : List Event) (fault : Fault) : Prop :=
  dialogue events =
    [.connect (access.login Access.masterDatabase host port) none,
      .cursor Access.masterDatabase none,
      .execute Access.masterDatabase (creation database) none,
      .close Access.masterDatabase none] ++ cursorRefusal access host port database fault

variable {access address host port database}

@[simp] theorem failures_succeeded (statements : List String) :
    failures (succeeded database statements) = [] := by
  simp [failures, succeeded, Event.failure?]

theorem creationFailed_keepsCause : Fault.KeepsCause (creationFailed database) :=
  fun _ => ⟨_, _, rfl⟩

theorem statementFailed_keepsCause (index : Nat) (statement : String) :
    Fault.KeepsCause (statementFailed index statement) := fun _ => ⟨_, _, rfl⟩

/-- Whatever fails while the database is created surfaces. -/
theorem CreationEnds.surfaces {row : List Event} {outcome : Outcome Unit}
    (h : CreationEnds access address host port database row outcome)
    (hdriver : OnlyDriverFails row) :
    Surfaces (failures row) outcome := by
  cases h with
  | unreachable fault =>
    exact .reported (Advice.connectionFailed_keepsCause _ _)
      (hdriver fault (by simp [Event.failure?]))
  | noCursor fault | refused fault =>
    exact .reported creationFailed_keepsCause (hdriver fault (by simp [Event.failure?]))
  | created => exact .quiet

/-- So does whatever fails while the statements run, but for the cursor. -/
theorem StatementsEnd.surfaces {statements : List String} {row : List Event}
    {outcome : Outcome Unit}
    (h : StatementsEnd access address host port database statements row outcome)
    (hdriver : OnlyDriverFails row) :
    (Surfaces (failures row) outcome ∧
      ∀ fault, row ≠ cursorRefusal access host port database fault) ∨
    ∃ fault, outcome = .raised fault ∧ row = cursorRefusal access host port database fault := by
  cases h with
  | unreachable fault =>
    have hsurfaces := Surfaces.reported (Advice.connectionFailed_keepsCause address database)
      (hdriver fault (by simp [Event.failure?]))
    exact .inl ⟨hsurfaces, by simp [cursorRefusal]⟩
  | noCursor fault => exact .inr ⟨fault, rfl, rfl⟩
  | failed before statement rest fault hsplit =>
    have hsurfaces := Surfaces.reported (statementFailed_keepsCause before.length statement)
      (hdriver fault (by simp [Event.failure?]))
    exact .inl ⟨by simpa [Event.failure?] using hsurfaces, by simp [cursorRefusal]⟩
  | applied =>
    exact .inl ⟨by simpa [Event.failure?] using Surfaces.quiet, by simp [cursorRefusal]⟩

theorem prepare_failures (statements : List String) (w : World) :
    failures (dialogue (prepare access address database statements w).events) =
      failures (prepare access address database statements w).events := by
  refine failures_dialogue fun e he => ?_
  rcases (prepare_within access address database statements).forall_mem w e he with h | h
  · exact Event.OfSession.failure?_eq e h
  · exact Event.OfSession.failure?_eq e h

/-- What ends the creation of a database with a fault leaves no second session. -/
theorem CreationEnds.not_cursorRefused {events : List Event} {failing fault : Fault}
    (h : CreationEnds access address host port database (dialogue events) (.raised failing)) :
    ¬ CursorRefused access host port database events fault := by
  unfold CursorRefused
  generalize dialogue events = row at h
  cases h <;> simp

variable (database) in
/-- Whatever fails in a seeding surfaces, but for the cursor of the second session. -/
theorem prepare_surfaces_or (haddress : Address.split address = .ok (host, port))
    (statements : List String) {w : World}
    (hclose : ∀ e ∈ (prepare access address database statements w).events,
      e.isFailedClose = false)
    (hdriver : OnlyDriverFails (prepare access address database statements w).events) :
    (Surfaces (failures (prepare access address database statements w).events)
        (prepare access address database statements w).outcome ∧
      ∀ fault, ¬ CursorRefused access host port database
        (prepare access address database statements w).events fault) ∨
    ∃ fault, (prepare access address database statements w).outcome = .raised fault ∧
      CursorRefused access host port database
        (prepare access address database statements w).events fault := by
  have hcreation := createDatabase_ends database haddress (w := w) fun e he =>
    hclose e (Run.mem_bind he _)
  unfold OnlyDriverFails at hdriver
  rw [← prepare_failures] at hdriver ⊢
  unfold prepare at hclose hdriver ⊢
  cases houtcome : (createDatabase access address database w).outcome with
  | unfinished =>
    rw [houtcome] at hcreation
    generalize dialogue (createDatabase access address database w).events = row at hcreation
    cases hcreation
  | raised fault =>
    rw [houtcome] at hcreation
    rw [Run.bind_raised houtcome] at hdriver ⊢
    exact .inl ⟨hcreation.surfaces hdriver, fun _ => hcreation.not_cursorRefused⟩
  | done value =>
    rw [houtcome] at hcreation
    rw [Run.bind_done houtcome] at hclose hdriver ⊢
    have hstatements := runStatements_ends database haddress statements fun e he =>
      hclose e (List.mem_append_right _ he)
    unfold CursorRefused
    rw [Trace.after_events, dialogue_append] at hdriver ⊢
    rw [Trace.after_outcome]
    generalize dialogue (createDatabase access address database w).events = creating
      at hcreation hdriver ⊢
    cases hcreation
    simp only [List.append_cancel_left_eq]
    refine (hstatements.surfaces fun fault hfault => hdriver fault (by simp [hfault])).imp_left ?_
    exact And.imp_left fun hsurfaces => by simpa [Event.failure?] using hsurfaces

/-- In a seeding at a well-formed address where calls to the driver fail with its own errors only,
and no close fails, every failure surfaces as a preset fault but one: if the cursor of the second
session is refused, the bare error of the driver ends the seeding. -/
theorem prepare_surfaces_iff (haddress : Address.split address = .ok (host, port))
    (statements : List String) (w : World)
    (hclose : ∀ e ∈ (prepare access address database statements w).events,
      e.isFailedClose = false)
    (hdriver : OnlyDriverFails (prepare access address database statements w).events) :
    (Surfaces (failures (prepare access address database statements w).events)
        (prepare access address database statements w).outcome ↔
      ¬ ∃ fault, CursorRefused access host port database
        (prepare access address database statements w).events fault) ∧
    ∀ fault, CursorRefused access host port database
        (prepare access address database statements w).events fault →
      (prepare access address database statements w).outcome = .raised fault ∧
        fault.isDriver = true := by
  have hrefused {fault : Fault} (h : CursorRefused access host port database
      (prepare access address database statements w).events fault) : fault.isDriver = true := by
    refine hdriver fault ?_
    rw [← prepare_failures, h]
    simp [cursorRefusal, Event.failure?]
  rcases prepare_surfaces_or database haddress statements hclose hdriver with
    ⟨hsurfaces, hnone⟩ | ⟨fault, hraised, hfault⟩
  · exact ⟨iff_of_true hsurfaces fun ⟨fault, h⟩ => hnone fault h,
      fun fault h => absurd h (hnone fault)⟩
  · have hbare : ¬ Surfaces (failures (prepare access address database statements w).events)
        (prepare access address database statements w).outcome := by
      rw [hraised]
      exact not_surfaces_of_isDriver (hrefused hfault)
    refine ⟨iff_of_false hbare (not_not.2 ⟨fault, hfault⟩), fun other hother => ?_⟩
    have hsame : other = fault := by
      have hrow := hother.symm.trans hfault
      simpa [cursorRefusal] using hrow
    rw [hsame]
    exact ⟨hraised, hrefused hfault⟩

end Ends

/-- A seeding on a server that has a cursor for the first session only. -/
def cursorlessSeeding : Trace Unit :=
  prepare { password := "secret" } "127.0.0.1:14330" "shop" ["create table item (id int)"]
    { server := { cursorFailures := .inTurn [none, some (.other .driver "no cursor left")] } }

theorem cursorlessSeeding_escapes :
    ¬ Surfaces (failures cursorlessSeeding.events) cursorlessSeeding.outcome ∧
      cursorlessSeeding.outcome = .raised (.other .driver "no cursor left") := by
  have haddress : Address.split "127.0.0.1:14330" = .ok ("127.0.0.1", "14330") := by rfl
  have hclose : ∀ e ∈ cursorlessSeeding.events, e.isFailedClose = false := by decide +kernel
  have hdriver : OnlyDriverFails cursorlessSeeding.events := by
    unfold OnlyDriverFails
    rw [show failures cursorlessSeeding.events = [.other .driver "no cursor left"] from rfl]
    simp [Fault.isDriver]
  have hrefused : CursorRefused { password := "secret" } "127.0.0.1" "14330" "shop"
      cursorlessSeeding.events (.other .driver "no cursor left") := by rfl
  obtain ⟨hiff, hraised⟩ := prepare_surfaces_iff haddress _ _ hclose hdriver
  exact ⟨fun hsurfaces => hiff.1 hsurfaces ⟨_, hrefused⟩, (hraised _ hrefused).1⟩

end Seeding

end SeededServer
