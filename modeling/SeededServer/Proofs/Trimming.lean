import Mathlib.Data.List.Basic
import Mathlib.Data.List.TakeWhile
import Mathlib.Tactic.MkIffOfInductiveProp
import SeededServer.Text.Basic

/-!
# Trimming a row of characters

Trimming drops the characters of a class at both ends and nothing else. What it keeps is known by
that: no end of it is dropped, and in front of it and behind it there are dropped characters only.

## Main definitions

* `Text.Trimmed` — neither end of a row is dropped.
-/
namespace SeededServer.Text

/-- Neither end of the row is dropped. -/
@[mk_iff]
structure Trimmed (drop : Char → Bool) (cs : List Char) : Prop where
  first : ∀ c ∈ cs.head?, drop c = false
  last : ∀ c ∈ cs.getLast?, drop c = false

variable {drop : Char → Bool}

instance (cs : List Char) : Decidable (Trimmed drop cs) :=
  decidable_of_iff (cs.head?.all (!drop ·) = true ∧ cs.getLast?.all (!drop ·) = true)
    (by simp only [Option.all_eq_true, Bool.not_eq_true', trimmed_iff, Option.mem_def])

theorem Trimmed.nil : Trimmed drop [] := ⟨nofun, nofun⟩

/-- A row without any character of the class is trimmed. -/
theorem Trimmed.of_forall {cs : List Char} (h : ∀ c ∈ cs, drop c = false) : Trimmed drop cs where
  first c hc := h c (List.mem_of_mem_head? hc)
  last c hc := h c (List.mem_of_mem_getLast? hc)

/-- The characters of the class in front are dropped up to the first other one. -/
theorem dropWhile_append_of_first {left rest : List Char} (hleft : ∀ c ∈ left, drop c = true)
    (hrest : ∀ c ∈ rest.head?, drop c = false) : (left ++ rest).dropWhile drop = rest := by
  rw [List.dropWhile_append_of_pos hleft]
  cases rest with
  | nil => rfl
  | cons c rest => rw [List.dropWhile_cons_of_neg (by simp [hrest c rfl])]

theorem first_dropWhile (cs : List Char) : ∀ c ∈ (cs.dropWhile drop).head?, drop c = false := by
  intro c hc
  have h := List.head?_dropWhile_not drop cs
  rwa [Option.mem_def.1 hc] at h

/-- What is left once the front is dropped: what is kept, and dropped characters behind it. -/
theorem dropWhile_eq_trim_append (cs : List Char) :
    cs.dropWhile drop = trim drop cs ++ ((cs.dropWhile drop).reverse.takeWhile drop).reverse := by
  rw [trim, ← List.reverse_append, List.takeWhile_append_dropWhile, List.reverse_reverse]

theorem trimmed_trim (cs : List Char) : Trimmed drop (trim drop cs) where
  first c hc := by
    apply first_dropWhile cs c
    rw [dropWhile_eq_trim_append, List.head?_append, Option.mem_def.1 hc]
    rfl
  last c hc := by
    apply first_dropWhile (cs.dropWhile drop).reverse c
    rwa [trim, List.getLast?_reverse] at hc

/-- What is kept of a row, and what stands around it. -/
theorem trim_eq_iff {cs kept : List Char} : trim drop cs = kept ↔ Trimmed drop kept ∧
    ∃ left right, cs = left ++ kept ++ right ∧ (∀ c ∈ left, drop c = true) ∧
      ∀ c ∈ right, drop c = true := by
  constructor
  · rintro rfl
    refine ⟨trimmed_trim cs, cs.takeWhile drop,
      ((cs.dropWhile drop).reverse.takeWhile drop).reverse, ?_,
      fun c hc => List.mem_takeWhile_imp hc, fun c hc => ?_⟩
    · rw [List.append_assoc, ← dropWhile_eq_trim_append, List.takeWhile_append_dropWhile]
    · exact List.mem_takeWhile_imp (List.mem_reverse.1 hc)
  · rintro ⟨hkept, left, right, rfl, hleft, hright⟩
    rw [trim, List.append_assoc]
    cases kept with
    | nil =>
      have hall : ∀ c ∈ left ++ ([] ++ right), drop c = true := by
        simpa [or_imp, forall_and] using ⟨hleft, hright⟩
      rw [List.dropWhile_eq_nil_iff.2 hall]
      rfl
    | cons c rest =>
      -- The first kept character ends the first pass, and the last one ends the second.
      have hfirst : ∀ d ∈ (c :: rest ++ right).head?, drop d = false := hkept.first
      have hlast : ∀ d ∈ (c :: rest).reverse.head?, drop d = false := by
        rw [List.head?_reverse]
        exact hkept.last
      rw [dropWhile_append_of_first hleft hfirst, List.reverse_append,
        dropWhile_append_of_first (by simpa using hright) hlast, List.reverse_reverse]

/-- Trimming drops what stands around a trimmed row. -/
theorem trim_append {left kept right : List Char} (hkept : Trimmed drop kept)
    (hleft : ∀ c ∈ left, drop c = true) (hright : ∀ c ∈ right, drop c = true) :
    trim drop (left ++ kept ++ right) = kept :=
  trim_eq_iff.2 ⟨hkept, left, right, rfl, hleft, hright⟩

/-- In front of a trimmed row only the front is trimmed. -/
theorem trim_append_of_trimmed {kept : List Char} (hkept : Trimmed drop kept) (hne : kept ≠ [])
    (front : List Char) : trim drop (front ++ kept) = front.dropWhile drop ++ kept := by
  have hboth : Trimmed drop (front.dropWhile drop ++ kept) := by
    refine ⟨fun c hc => ?_, fun c hc => ?_⟩
    · rw [List.head?_append, Option.mem_def, Option.or_eq_some_iff] at hc
      rcases hc with hfront | ⟨-, hrest⟩
      · exact first_dropWhile front c hfront
      · exact hkept.first c hrest
    · rw [List.getLast?_append_of_ne_nil _ hne] at hc
      exact hkept.last c hc
  refine trim_eq_iff.2 ⟨hboth, front.takeWhile drop, [], ?_, fun c hc => ?_, List.forall_mem_nil _⟩
  · rw [List.append_nil, ← List.append_assoc, List.takeWhile_append_dropWhile]
  · exact List.mem_takeWhile_imp hc

/-- What stands around a trimmed row is determined by the whole, unless the row is empty. -/
theorem around_unique {left left' kept right right' : List Char} (hkept : Trimmed drop kept)
    (hne : kept ≠ []) (hleft : ∀ c ∈ left, drop c = true) (hleft' : ∀ c ∈ left', drop c = true)
    (h : left ++ kept ++ right = left' ++ kept ++ right') : left = left' ∧ right = right' := by
  have hfirst (rest : List Char) : ∀ c ∈ (kept ++ rest).head?, drop c = false := by
    cases kept with
    | nil => exact absurd rfl hne
    | cons c kept => exact hkept.first
  have hrest : kept ++ right = kept ++ right' := by
    have hsame := congrArg (List.dropWhile drop) h
    rwa [List.append_assoc, List.append_assoc, dropWhile_append_of_first hleft (hfirst right),
      dropWhile_append_of_first hleft' (hfirst right')] at hsame
  obtain rfl := List.append_cancel_left hrest
  rw [List.append_assoc, List.append_assoc] at h
  exact ⟨List.append_cancel_right h, rfl⟩

/-- A row without any character of the class stays as it is. -/
theorem trim_eq_self {cs : List Char} (h : ∀ c ∈ cs, drop c = false) : trim drop cs = cs := by
  have hkept := trim_append (.of_forall h) (List.forall_mem_nil _) (List.forall_mem_nil _)
  rwa [List.nil_append, List.append_nil] at hkept

theorem mem_of_mem_trim {cs : List Char} {c : Char} (h : c ∈ trim drop cs) : c ∈ cs := by
  obtain ⟨-, left, right, hcs, -, -⟩ := trim_eq_iff.1 (rfl : trim drop cs = trim drop cs)
  rw [hcs]
  exact List.mem_append_left _ (List.mem_append_right _ h)

end SeededServer.Text
