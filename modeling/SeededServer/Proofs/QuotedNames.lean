import Mathlib.Data.List.Basic
import SeededServer.Proofs.StatementOrder

/-!
# Quoted names read back

A database name stands in brackets inside the statement that creates the database. The reader of
bracketed identifiers and the writer determine each other: a text is read as a name and a rest if
and only if it is the quoted name, followed by a rest that could not continue it. So a name cannot
leave its brackets, whatever characters it is made of.

## Main definitions

* `Seeding.namedDatabase?` — the database that a creating statement names.
-/
namespace SeededServer

namespace Text.Bracketed

variable {name rest : List Char}

/-- A closing bracket ends the identifier unless another one follows. -/
theorem scanInside_bracket (h : rest.head? ≠ some ']') :
    scanInside (']' :: rest) = some ([], rest) := by
  cases rest with
  | nil => rfl
  | cons c rest =>
    have hc : c ≠ ']' := by simpa using h
    simp [scanInside, hc]

theorem scanInside_cons {c : Char} (h : c ≠ ']') (rest : List Char) :
    scanInside (c :: rest) = (scanInside rest).map fun (name, after) => (c :: name, after) := by
  simp [scanInside, h]

theorem scanInside_double (h : rest.head? ≠ some ']') :
    scanInside (double name ++ ']' :: rest) = some (name, rest) := by
  induction name with
  | nil => exact scanInside_bracket h
  | cons c name ih =>
    by_cases hc : c = ']'
    · subst hc
      simp [double, scanInside, ih]
    · simp only [double, if_neg hc, List.cons_append, scanInside_cons hc, ih, Option.map_some]

/-- What is read is the doubled name up to a bracket that stands alone. -/
theorem of_scanInside {cs : List Char} (h : scanInside cs = some (name, rest)) :
    cs = double name ++ ']' :: rest ∧ rest.head? ≠ some ']' := by
  fun_induction scanInside cs generalizing name with
  | case1 => cases h
  | case2 cs ih =>
    obtain ⟨⟨inner, after⟩, hinner, heq⟩ := Option.map_eq_some_iff.1 h
    cases heq
    obtain ⟨rfl, hrest⟩ := ih hinner
    exact ⟨rfl, hrest⟩
  | case3 cs hsingle =>
    cases h
    refine ⟨rfl, ?_⟩
    intro hhead
    obtain ⟨after, rfl⟩ := List.head?_eq_some_iff.1 hhead
    exact hsingle after rfl rfl
  | case4 c cs _ hc ih =>
    obtain ⟨⟨inner, after⟩, hinner, heq⟩ := Option.map_eq_some_iff.1 h
    cases heq
    obtain ⟨rfl, hrest⟩ := ih hinner
    exact ⟨by simp [double, hc], hrest⟩

/-- The texts that are read as a name and a rest. -/
theorem scan_eq_some_iff {cs : List Char} :
    scan cs = some (name, rest) ↔ cs = quote name ++ rest ∧ rest.head? ≠ some ']' := by
  constructor
  · intro h
    unfold scan at h
    split at h
    · obtain ⟨rfl, hrest⟩ := of_scanInside h
      exact ⟨by simp [quote], hrest⟩
    · cases h
  · rintro ⟨rfl, hrest⟩
    simpa [quote, scan] using scanInside_double hrest

end Text.Bracketed

namespace Seeding

open Text.Bracketed

/-- The words in front of the name of a database that is created. -/
def creationVerb : String := "create database "

/-- The database that a creating statement names, if nothing follows the name. -/
def namedDatabase? (statement : String) : Option String := do
  let quoted ← creationVerb.toList.isPrefixOf? statement.toList
  match scan quoted with
  | some (name, []) => some (String.ofList name)
  | _ => none

theorem quotedName_toList (name : String) : (quotedName name).toList = quote name.toList := by
  rw [quotedName, String.toList_ofList]

theorem namedDatabase?_creation (database : String) :
    namedDatabase? (creation database) = some database := by
  have hverb : creationVerb.toList.isPrefixOf? (creation database).toList =
      some (quote database.toList) := by
    rw [List.isPrefixOf?_eq_some_iff_append_eq, creation, String.toList_append, quotedName_toList]
    rfl
  have hscan : scan (quote database.toList) = some (database.toList, []) :=
    scan_eq_some_iff.2 ⟨(List.append_nil _).symm, nofun⟩
  simp [namedDatabase?, hverb, hscan]

/-- A quoted name is read as that name up to its end, unless a closing bracket follows. The creation
of a database executes its one statement or none, and the statement names that database and no
other. -/
theorem creation_names_database (access : Access) (address database : String) (w : World) :
    (∀ rest : String, scan (quotedName database ++ rest).toList
        = some (database.toList, rest.toList) ↔ rest.toList.head? ≠ some ']') ∧
      executed (createDatabase access address database w).events
        <+: [(Access.masterDatabase, creation database)] ∧
      ((createDatabase access address database w).outcome = .done () →
        executed (createDatabase access address database w).events =
          [(Access.masterDatabase, creation database)]) ∧
      namedDatabase? (creation database) = some database ∧
      ∀ other, creation other = creation database ↔ other = database := by
  have hfollows := createDatabase_follows access address database
  refine ⟨fun rest => ?_, (hfollows.progress w).map_fst, fun hdone => ?_,
    namedDatabase?_creation database, fun other => ⟨?_, ?_⟩⟩
  · rw [String.toList_append, quotedName_toList, scan_eq_some_iff]
    exact and_iff_right rfl
  · rw [executed, hfollows.complete w () hdone]
    rfl
  · intro hsame
    have hname := namedDatabase?_creation other
    rw [hsame, namedDatabase?_creation] at hname
    exact (Option.some.inj hname).symm
  · rintro rfl
    rfl

example : scan (quotedName "a]]b]" ++ "; drop table t").toList =
    some ("a]]b]".toList, "; drop table t".toList) := by decide +kernel

end Seeding

end SeededServer
