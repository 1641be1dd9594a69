import SeededServer.Docker.Format

/-!
# Splitting at a character

A text is split where a character stands first: in front of it the character does not occur. Where
the character stands last it does not occur behind it. An environment item is split at its first
equals sign.
-/
namespace SeededServer

namespace Text

variable {sep : Char}

theorem splitAtFirst_append {before : List Char} (h : sep ∉ before) (after : List Char) :
    splitAtFirst sep (before ++ sep :: after) = some (before, after) := by
  induction before with
  | nil => simp [splitAtFirst]
  | cons c rest ih =>
    obtain ⟨hc, hrest⟩ := List.ne_and_not_mem_of_not_mem_cons h
    simp [splitAtFirst, hc.symm, ih hrest]

theorem splitAtFirst_eq_none {cs : List Char} (h : sep ∉ cs) : splitAtFirst sep cs = none := by
  induction cs with
  | nil => rfl
  | cons c rest ih =>
    obtain ⟨hc, hrest⟩ := List.ne_and_not_mem_of_not_mem_cons h
    simp [splitAtFirst, hc.symm, ih hrest]

/-- A text is split at the last occurrence where the rest has none. -/
theorem splitAtLast_append {after : List Char} (h : sep ∉ after) (before : List Char) :
    splitAtLast sep (before ++ sep :: after) = some (before, after) := by
  have hreverse : (before ++ sep :: after).reverse = after.reverse ++ sep :: before.reverse := by
    simp
  have hafter : sep ∉ after.reverse := by simpa using h
  simp [splitAtLast, hreverse, splitAtFirst_append hafter]

/-- How a text falls apart at the last occurrence. -/
theorem splitAtLast_eq_some_iff {cs before after : List Char} :
    splitAtLast sep cs = some (before, after) ↔ cs = before ++ sep :: after ∧ sep ∉ after := by
  constructor
  · intro h
    by_cases hmem : sep ∈ cs.reverse
    · obtain ⟨first, second, hreverse, hfirst⟩ := List.eq_append_cons_of_mem hmem
      have hcs : cs = second.reverse ++ sep :: first.reverse := by
        rw [← List.reverse_reverse cs, hreverse]
        simp
      have hlast : sep ∉ first.reverse := by simpa using hfirst
      rw [hcs, splitAtLast_append hlast] at h
      cases h
      exact ⟨hcs, hlast⟩
    · rw [splitAtLast, splitAtFirst_eq_none hmem] at h
      cases h
  · rintro ⟨rfl, hafter⟩
    exact splitAtLast_append hafter before

end Text

namespace Docker

/-- How an item falls apart into a name and a value: at its first equals sign, or not at all. -/
inductive ItemParts : (item : WideText) → (name : String) → (value : WideText) → Prop where
  | assigned {name : String} (value : WideText) : '=' ∉ name.toList →
      ItemParts (value.prepend (name ++ "=")) name value
  | bare {name : String} : '=' ∉ name.toList → ItemParts name name ""

/-- An item is split where its name ends. -/
theorem splitItem_assign {name : String} (h : '=' ∉ name.toList) (value : WideText) :
    splitItem (.assign name value) = (name, value) := by
  have hlist : (name ++ "=" ++ value.head).toList = name.toList ++ '=' :: value.head.toList := by
    simp
  simp [splitItem, EnvironmentItem.assign, WideText.prepend, hlist, Text.splitAtFirst_append h]

theorem splitItem_parts (item : EnvironmentItem) :
    ItemParts item.text (splitItem item).1 (splitItem item).2 := by
  obtain ⟨⟨head, tail⟩, named⟩ := item
  by_cases h : '=' ∈ head.toList
  · obtain ⟨name, value, hlist, hname⟩ := List.eq_append_cons_of_mem h
    have hitem : (⟨head, tail⟩ : WideText) =
        WideText.prepend (String.ofList name ++ "=") ⟨String.ofList value, tail⟩ := by
      rw [WideText.prepend, WideText.mk.injEq]
      exact ⟨String.toList_injective (by simp [hlist]), rfl⟩
    simp only [splitItem, hlist, Text.splitAtFirst_append hname]
    rw [hitem]
    exact .assigned _ (by simpa using hname)
  · -- Without an equals sign the whole item is its name, and that is plain.
    have hplain : tail = [] := by simpa [WideText.isPlain] using named.resolve_right h
    subst hplain
    simp only [splitItem, Text.splitAtFirst_eq_none h]
    exact .bare h

end Docker

end SeededServer
