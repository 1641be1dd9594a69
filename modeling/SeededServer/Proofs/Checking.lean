import Mathlib.Data.List.Forall2
import SeededServer.Preset.Options
import SeededServer.Proofs.Numerals

/-!
# Checking options

What the checks of the options guarantee, and what brings them down. A value that is refused is
reported to the user; only a few kinds of values end a check with a fault that is not meant for the
user.

## Main definitions

* `Answers` — what is known about a result that may be a fault.
* `Config.Valid` — what the checks guarantee of a configuration.
* `Options.Crash` — what brings the checks down.
-/
namespace SeededServer

/-! ## Results of several steps -/

section Steps

variable {α β σ ε : Type}

theorem bind_eq_ok_iff {m : Except ε α} {f : α → Except ε β} {b : β} :
    m >>= f = .ok b ↔ ∃ a, m = .ok a ∧ f a = .ok b := by
  cases m with
  | error e => exact ⟨nofun, nofun⟩
  | ok a => exact ⟨fun h => ⟨a, rfl, h⟩, fun ⟨_, rfl, h⟩ => h⟩

theorem ok_of_bind {m : Except ε α} {f : α → Except ε β} {b : β} (h : m >>= f = .ok b) :
    ∃ a, m = .ok a ∧ f a = .ok b :=
  bind_eq_ok_iff.1 h

theorem foldlM_preserves {I : σ → Prop} {f : σ → α → Except ε σ}
    (step : ∀ s a t, I s → f s a = .ok t → I t) {items : List α} {s t : σ} (hs : I s)
    (h : items.foldlM f s = .ok t) : I t := by
  induction items generalizing s with
  | nil =>
    cases h
    exact hs
  | cons a rest ih =>
    rw [List.foldlM_cons] at h
    obtain ⟨next, hnext, hrest⟩ := ok_of_bind h
    exact ih (step s a next hs hnext) hrest

variable {f : α → Except ε β} {items : List α}

theorem mapM_eq_ok_iff {results : List β} :
    items.mapM f = .ok results ↔ List.Forall₂ (fun a b => f a = .ok b) items results := by
  induction items generalizing results with
  | nil => cases results <;> simp [pure, Except.pure]
  | cons a rest ih =>
    simp only [List.mapM_cons, List.forall₂_cons_left_iff, bind_eq_ok_iff, ih]
    constructor
    · rintro ⟨first, hfirst, others, hothers, ⟨⟩⟩
      exact ⟨first, others, hfirst, hothers, rfl⟩
    · rintro ⟨first, others, hfirst, hothers, rfl⟩
      exact ⟨first, hfirst, others, hothers, rfl⟩

theorem mapM_forall {P : β → Prop} (hf : ∀ a b, f a = .ok b → P b) {results : List β}
    (h : items.mapM f = .ok results) : ∀ b ∈ results, P b := by
  have hpairs := mapM_eq_ok_iff.1 h
  clear h
  induction hpairs with
  | nil => exact List.forall_mem_nil P
  | cons hfirst _ ih => exact List.forall_mem_cons.2 ⟨hf _ _ hfirst, ih⟩

/-- Items are taken in order, so it is the first one that fails which tells the fault. -/
theorem mapM_eq_error_iff {e : ε} :
    items.mapM f = .error e ↔
      ∃ a, items.find? (fun a => !(f a).isOk) = some a ∧ f a = .error e := by
  induction items with
  | nil => simp [pure, Except.pure]
  | cons a rest ih =>
    rw [List.mapM_cons]
    cases h : f a with
    | error e' =>
      rw [List.find?_cons_of_pos (by rw [h]; rfl)]
      constructor
      · rintro ⟨⟩
        exact ⟨a, rfl, h⟩
      · rintro ⟨_, ⟨⟩, ha⟩
        rw [h] at ha
        cases ha
        rfl
    | ok b =>
      rw [List.find?_cons_of_neg (by simp [h, Except.isOk, Except.toBool]), ← ih]
      cases rest.mapM f with
      | error e' => exact ⟨fun h => by cases h; rfl, fun h => by cases h; rfl⟩
      | ok results => exact ⟨nofun, nofun⟩

end Steps

/-! ## Faults that are not meant for the user -/

/-- What is answered satisfies `P`, and a fault that is not meant for the user has the reason
`C`. -/
structure Answers {α : Type} (result : Except Fault α) (P : α → Prop) (C : Prop) : Prop where
  value : ∀ a, result = .ok a → P a
  crash : ∀ fault, result = .error fault → fault.isPreset = false → C

namespace Answers

variable {α β : Type} {m : Except Fault α} {P : α → Prop} {Q : β → Prop} {C D : Prop}

theorem ok {a : α} (h : P a) : Answers (.ok a) P C where
  value := by
    rintro _ ⟨⟩
    exact h
  crash := nofun

theorem failure {fault : Fault} (h : C) : Answers (.error fault) P C := ⟨nofun, fun _ _ _ => h⟩

theorem bind {f : α → Except Fault β} (hm : Answers m P C) (hf : ∀ a, P a → Answers (f a) Q C) :
    Answers (m >>= f) Q C := by
  cases h : m with
  | ok a => exact hf a (hm.value a h)
  | error fault => exact ⟨nofun, by
      rintro _ ⟨⟩ hcrash
      exact hm.crash fault h hcrash⟩

theorem mono {P' : α → Prop} (hP : ∀ a, P a → P' a) (hC : C → D) (hm : Answers m P C) :
    Answers m P' D :=
  ⟨fun a h => hP a (hm.value a h), fun fault h hcrash => hC (hm.crash fault h hcrash)⟩

theorem because (hC : C → D) (hm : Answers m P C) : Answers m P D := hm.mono (fun _ h => h) hC

end Answers

theorem Number.toDouble_eq_ok_iff {seconds : Number} {x : Float} :
    seconds.toDouble = .ok x ↔ seconds.toFloat? = some x := by
  unfold Number.toDouble
  cases seconds.toFloat? <;> simp

/-! ## Files -/

namespace FileTree

variable {tree : FileTree} {fault : Fault}

/-- The faults of a path that leads nowhere: a name is missing, a file stands in the way, or the
operating system does not look the path up. -/
inductive IsLookupFault : Fault → Prop
  | missingFile : IsLookupFault (.outside .missingFile)
  | notDirectory : IsLookupFault (.outside .notDirectory)
  | system : IsLookupFault (.outside .system)

theorem IsLookupFault.isSystem (h : IsLookupFault fault) : fault.isSystem = true := by
  cases h <;> rfl

theorem missing_lookupFault (name : String) : IsLookupFault (missing name) := by
  unfold missing
  split
  · exact .system
  · exact .missingFile

theorem walkAbove_error {names : List String} (h : walkAbove names = .error fault) :
    IsLookupFault fault := by
  induction names with
  | nil => cases h
  | cons name rest ih =>
    rw [walkAbove] at h
    split at h
    · exact ih h
    · cases h
      exact missing_lookupFault name

theorem walk_error {here names : List String} (h : tree.walk here names = .error fault) :
    IsLookupFault fault := by
  induction names generalizing here with
  | nil => cases h
  | cons name rest ih =>
    rw [walk] at h
    split at h
    · split at h
      · exact walkAbove_error h
      · exact ih h
    · dsimp only at h
      split at h
      · exact ih h
      · split at h
        · split at h
          · cases h
          · cases h
            exact .notDirectory
        · cases h
          exact missing_lookupFault name

theorem findAbsolute_error {names : List String} (h : tree.findAbsolute names = .error fault) :
    IsLookupFault fault := by
  unfold findAbsolute at h
  split at h
  · cases h
  · split at h
    · cases h
    · cases h
      exact missing_lookupFault _

theorem find_error {path : Path} (h : tree.find path = .error fault) : IsLookupFault fault := by
  unfold find at h
  split at h
  · cases h
    exact .system
  · split at h
    · exact findAbsolute_error h
    · exact walk_error h

/-- A text that cannot be read is no UTF-8, or the operating system does not give it, unless the
path is none. -/
theorem readText_error {path : String} (h : tree.readText path = .error fault) :
    Path.hasNul path = true ∨ fault.isSystem = true ∨ fault = .outside .undecodable := by
  unfold readText at h
  split at h
  · exact .inl ‹_›
  · cases hfind : tree.find (.ofString path) with
    | error cause =>
      rw [hfind] at h
      cases h
      exact .inr (.inl (find_error hfind).isSystem)
    | ok node =>
      rw [hfind] at h
      cases node with
      | directory =>
        cases h
        exact .inr (.inl rfl)
      | file content =>
        change decode content = .error fault at h
        unfold decode at h
        split at h
        · cases h
        · cases h
          exact .inr (.inr rfl)

end FileTree

/-! ## Configurations -/

/-- What every checked configuration satisfies. -/
structure Config.Valid (config : Config) : Prop where
  database : Text.isBlankText config.database = false
  password : ∃ password : String, config.password = password ∧ password ≠ ""
  port : 0 < config.port.number ∧ config.port.number < 65536
  version : config.version ≠ some ""
  /-- The time to wait is the double of a number that is not zero or less. -/
  waitTimeout : ∃ seconds : Number, seconds.notPositive = false ∧
    seconds.toDouble = .ok config.waitTimeout

namespace Options

/-! ## Options that bring the checks down -/

/-- A time to wait that brings the checks down. -/
inductive TimeoutCrash (value : Value) : Prop where
  /-- It is refused, but it cannot be shown. -/
  | refused : (∀ seconds, value.number? = some seconds → seconds.notPositive = true) →
      value.isWritable = false → TimeoutCrash value
  /-- It is accepted, but it is too large for a double. -/
  | tooLarge {seconds : Number} : value.number? = some seconds → seconds.notPositive = false →
      seconds.toFloat? = none → TimeoutCrash value

/-- Statements that bring the checks down. -/
inductive StatementsCrash (queries : Value) : Prop where
  /-- They cannot be run through. -/
  | noItems : queries.items? = none → StatementsCrash queries
  /-- The first item that is no text cannot be shown. -/
  | item {items : List Value} {item : Value} : queries.items? = some items →
      items.find? (·.text?.isNone) = some item → item.isWritable = false → StatementsCrash queries

/-- Items that are all texts are accepted. -/
theorem not_statementsCrash {queries : Value} {items : List Value}
    (hitems : queries.items? = some items) (htexts : ∀ item ∈ items, item.text?.isSome = true) :
    ¬StatementsCrash queries := by
  rintro (h | ⟨h, hfind, -⟩)
  · rw [hitems] at h
    cases h
  · rw [hitems] at h
    cases h
    have hnone := List.find?_some hfind
    rw [← Option.not_isSome, htexts _ (List.mem_of_find?_eq_some hfind)] at hnone
    cases hnone

/-- Queries files that bring the checks down. -/
inductive FilesCrash (tree : FileTree) (queriesFiles : Value) : Prop where
  /-- They cannot be run through. -/
  | noItems : queriesFiles.items? = none → FilesCrash tree queriesFiles
  /-- The first item that cannot be read is no path. -/
  | item {items : List Value} {item : Value} : queriesFiles.items? = some items →
      items.find? (fun item => !(readQueriesFile tree item).isOk) = some item →
      (∀ path, item = .text path → Path.hasNul path = true) → FilesCrash tree queriesFiles

/-- Why the checks may come down. -/
inductive Crash (tree : FileTree) (options : Options) : Prop where
  | database : options.database.isWritable = false → Crash tree options
  | port : options.port.isWritable = false → Crash tree options
  | version : options.version.isWritable = false → Crash tree options
  | waitTimeout : TimeoutCrash options.waitTimeout → Crash tree options
  | statements : StatementsCrash options.queries → Crash tree options
  | files : FilesCrash tree options.queriesFiles → Crash tree options

end Options

end SeededServer
