import SeededServer.Proofs.Step

/-!
# Scripts

A script is a list of things to do in order, each of which may fail. A run that follows a script
leaves it at the first failure, and ends with a value only if all of it succeeded. A view tells
which events count as tries, and how they went.
-/
namespace SeededServer

variable {α β γ : Type}

/-- What can have been tried of a script that is left at the first failure. -/
inductive Progress (script : List γ) : List (γ × Option Fault) → Prop where
  | stopped {ran : List γ} : ran <+: script → Progress script (ran.map (·, none))
  | failed {ran : List γ} {entry : γ} (fault : Fault) : ran ++ [entry] <+: script →
      Progress script (ran.map (·, none) ++ [(entry, some fault)])

namespace Progress

variable {script first second : List γ} {tried : List (γ × Option Fault)}

theorem nil : Progress script [] := stopped (List.nil_prefix : [] <+: script)

theorem all : Progress script (script.map (·, none)) := .stopped (List.prefix_refl script)

/-- A script can be longer than what is tried of it. -/
theorem extend (h : Progress first tried) : Progress (first ++ second) tried := by
  cases h with
  | stopped hp => exact .stopped (hp.trans (List.prefix_append first second))
  | failed fault hp => exact .failed fault (hp.trans (List.prefix_append first second))

/-- What is tried after a script that succeeded. -/
theorem after (h : Progress second tried) :
    Progress (first ++ second) (first.map (·, none) ++ tried) := by
  cases h with
  | @stopped ran hp =>
    rw [← List.map_append]
    exact .stopped ((List.prefix_append_right_inj first).2 hp)
  | @failed ran entry fault hp =>
    rw [← List.append_assoc, ← List.map_append]
    refine .failed fault ?_
    rw [List.append_assoc]
    exact (List.prefix_append_right_inj first).2 hp

/-- The entries that were tried are the first ones of the script. -/
theorem map_fst (h : Progress script tried) : tried.map Prod.fst <+: script := by
  cases h with
  | stopped hp => simpa [Function.comp_def] using hp
  | failed fault hp => simpa [Function.comp_def] using hp

/-- The first entry is tried before the others, and they are tried only if it succeeded. -/
theorem cons_cases {x : γ} (h : Progress (x :: script) tried) :
    tried = [] ∨ ∃ failure rest, tried = (x, failure) :: rest ∧
      (rest ≠ [] → failure = none) ∧ rest.map Prod.fst <+: script := by
  cases h with
  | @stopped ran hp =>
    rcases List.prefix_cons_iff.1 hp with rfl | ⟨ran, rfl, hran⟩
    · exact .inl rfl
    · exact .inr ⟨none, _, rfl, fun _ => rfl, by simpa [Function.comp_def] using hran⟩
  | @failed ran entry fault hp =>
    rcases List.prefix_cons_iff.1 hp with hnil | ⟨rest, hcons, hrest⟩
    · simp at hnil
    · right
      cases ran with
      | nil =>
        obtain ⟨rfl, rfl⟩ := List.cons.inj hcons
        exact ⟨some fault, [], rfl, fun hne => absurd rfl hne, hrest⟩
      | cons y ran =>
        obtain ⟨rfl, rfl⟩ := List.cons.inj hcons
        exact ⟨none, _, rfl, fun _ => rfl, by simpa [Function.comp_def] using hrest⟩

end Progress

/-! ## Runs that follow a script -/

/-- The tries that are seen in some events. -/
abbrev tries (view : Event → Option (γ × Option Fault)) (events : List Event) :
    List (γ × Option Fault) := events.filterMap view

/-- The run tries the script in order and leaves it at the first failure; it ends with a value only
if all of it succeeded. -/
structure Run.Follows (view : Event → Option (γ × Option Fault)) (m : Run α) (script : List γ) :
    Prop where
  progress : ∀ w, Progress script (tries view (m w).events)
  complete : ∀ w a, (m w).outcome = .done a → tries view (m w).events = script.map (·, none)

namespace Run.Follows

variable {view : Event → Option (γ × Option Fault)} {m : Run α} {script first second : List γ}

/-- A run that tries nothing follows the empty script. -/
theorem silent (h : m.Within (view · = none)) : m.Follows view [] := by
  have unseen (w : World) : tries view (m w).events = [] := h.filterMap_eq_nil (fun _ h => h) w
  exact ⟨fun w => unseen w ▸ .nil, fun w _ _ => unseen w⟩

theorem bind {f : α → Run β} (hm : m.Follows view first) (hf : ∀ a, (f a).Follows view second) :
    (m >>= f).Follows view (first ++ second) := by
  constructor
  · intro w
    cases h : (m w).outcome with
    | done a =>
      rw [bind_done h, Trace.after_events, tries, List.filterMap_append, ← tries,
        hm.complete w a h]
      exact ((hf a).progress _).after
    | raised fault => rw [bind_raised h]; exact (hm.progress w).extend
    | unfinished => rw [bind_unfinished h]; exact (hm.progress w).extend
  · intro w b hb
    cases h : (m w).outcome with
    | done a =>
      rw [bind_done h] at hb ⊢
      rw [Trace.after_events, tries, List.filterMap_append, ← tries, ← tries,
        hm.complete w a h, (hf a).complete _ b hb, List.map_append]
    | raised fault => rw [bind_raised h] at hb; cases hb
    | unfinished => rw [bind_unfinished h] at hb; cases hb

/-- What stands before and after a script without trying anything does not matter. -/
theorem silent_bind {f : α → Run β} (hm : m.Follows view []) (hf : ∀ a, (f a).Follows view script) :
    (m >>= f).Follows view script := by
  simpa using hm.bind hf

theorem bind_silent {f : α → Run β} (hm : m.Follows view script) (hf : ∀ a, (f a).Follows view []) :
    (m >>= f).Follows view script := by
  simpa using hm.bind hf

theorem mapDriverError {f : Fault → Fault} (hm : m.Follows view script) :
    (m.mapDriverError f).Follows view script := by
  constructor
  · intro w
    rw [mapDriverError_events]
    exact hm.progress w
  · intro w a ha
    rw [mapDriverError_events]
    exact hm.complete w a (mapDriverError_done.1 ha)

theorem ensure {last : Run Unit} (hm : m.Follows view script) (hl : last.Follows view []) :
    (Run.ensure m last).Follows view script := by
  have quiet (u : World) : tries view (last u).events = [] := by
    simpa using (hl.progress u).map_fst
  have same (w : World) : tries view (Run.ensure m last w).events = tries view (m w).events := by
    by_cases h : (m w).outcome = .unfinished
    · rw [ensure_unfinished h]
    · rw [ensure_events h, tries, List.filterMap_append, ← tries, ← tries, quiet, List.append_nil]
  constructor
  · intro w
    rw [same]
    exact hm.progress w
  · intro w a ha
    rw [same]
    exact hm.complete w a (ensure_outcome_done.1 ha).1

/-- A single exchange that may be refused follows the script of one entry. -/
theorem exchange {step : World → Option Fault × World} {event : Option Fault → Event} {entry : γ}
    (h : ∀ failure, view (event failure) = some (entry, failure)) :
    (do Run.check (← Run.exchange step event) : Run Unit).Follows view [entry] := by
  have seen (w : World) : tries view
      ((do Run.check (← Run.exchange step event) : Run Unit) w).events = [(entry, (step w).1)] := by
    rw [refusable_events]
    simp [tries, h]
  constructor
  · intro w
    rw [seen]
    cases hf : (step w).1 with
    | none => exact .all
    | some fault => exact Progress.failed fault (List.prefix_refl ([] ++ [entry]))
  · intro w a ha
    rw [seen]
    cases hf : (step w).1 with
    | none => rfl
    | some fault => rw [refusable_refused hf] at ha; cases ha

end Run.Follows

end SeededServer
