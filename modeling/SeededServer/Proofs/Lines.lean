import Mathlib.Data.List.Basic
import SeededServer.Text.Basic

/-!
# Searching the lines of a text

A text falls apart where a line ends: what is looked for is found in a line in front of the line
end, or else in a line behind it. Where a carriage return and a line feed meet at such a place, they
end one line and not two. That costs an empty line, and a search does not stop at empty lines.

## Main definitions

* `Text.IsLine` — a line, or a part of one.
* `Text.IsLineEnd` — what ends a line.
* `Text.laidOut` — lines one after the other, each with its end.
-/
namespace SeededServer.Text

/-- No line boundary occurs. -/
def IsLine (cs : List Char) : Prop := ∀ c ∈ cs, isLineBoundary c = false

instance : DecidablePred IsLine := fun cs =>
  decidable_of_iff (cs.all (!isLineBoundary ·) = true) (by simp [IsLine])

theorem IsLine.nil : IsLine [] := List.forall_mem_nil _

/-- What ends a line: a line boundary, or a carriage return and a line feed. -/
inductive IsLineEnd : List Char → Prop
  | single {c : Char} : isLineBoundary c = true → IsLineEnd [c]
  | pair : IsLineEnd ['\r', '\n']

/-- Lines one after the other, each with its end. -/
def laidOut : List (String × String) → String
  | [] => ""
  | (line, lineEnd) :: others => line ++ lineEnd ++ laidOut others

/-- A character that ends no line belongs to the first line of what follows it. -/
theorem lines_cons_of_inner {c : Char} (h : isLineBoundary c = false) (rest : List Char) :
    lines (c :: rest) = (c :: (lines rest).headD []) :: (lines rest).tail := by
  rw [lines]
  · rw [h]
    cases lines rest <;> rfl
  · rintro _ rfl _
    exact absurd h (by decide)

theorem mem_of_mem_lines {cs line : List Char} (hline : line ∈ lines cs) :
    ∀ c ∈ line, c ∈ cs := by
  intro c hc
  fun_induction lines cs generalizing line with
  | case1 => cases hline
  | case2 rest ih => grind
  | case3 c rest _ _ ih => grind
  | case4 c rest _ _ hrest ih => grind
  | case5 c rest _ _ first others hrest ih => grind

section Search

variable {α : Type} {f : List Char → Option α} (hnil : f [] = none)
include hnil

/-- In front of a line boundary there is an empty line, up to the boundary. -/
theorem lines_cons_of_boundary {c : Char} (h : isLineBoundary c = true) (rest : List Char) :
    ∃ others, lines (c :: rest) = [] :: others ∧
      others.findSome? f = (lines rest).findSome? f := by
  by_cases hpair : c = '\r' ∧ ∃ others, rest = '\n' :: others
  · obtain ⟨rfl, others, rfl⟩ := hpair
    have hfeed : lines ('\n' :: others) = [] :: lines others := by simp [lines, isLineBoundary]
    exact ⟨lines others, by rw [lines], by rw [hfeed, List.findSome?_cons, hnil]⟩
  · refine ⟨lines rest, ?_, rfl⟩
    rw [lines, if_pos h]
    rintro others rfl rfl
    exact hpair ⟨rfl, others, rfl⟩

/-- A line in front of a line boundary is searched first. -/
theorem findSome?_lines_boundary {line : List Char} (hline : IsLine line) {c : Char}
    (h : isLineBoundary c = true) (rest : List Char) :
    (lines (line ++ c :: rest)).findSome? f = (f line).or ((lines rest).findSome? f) := by
  obtain ⟨others, hlines, hothers⟩ := lines_cons_of_boundary hnil h rest
  have hfirst : lines (line ++ c :: rest) = line :: others := by
    induction line with
    | nil => exact hlines
    | cons d line ih =>
      obtain ⟨hd, hline⟩ := List.forall_mem_cons.1 hline
      rw [List.cons_append, lines_cons_of_inner hd, ih hline]
      rfl
  rw [hfirst, List.findSome?_cons, hothers]
  cases f line <;> rfl

/-- In a text without line boundaries its only line is searched, if it has one. -/
theorem findSome?_lines_line {line : List Char} (hline : IsLine line) :
    (lines line).findSome? f = f line := by
  have hlines : line ≠ [] → lines line = [line] := by
    induction line with
    | nil => exact absurd rfl
    | cons c line ih =>
      intro _
      obtain ⟨hc, hline⟩ := List.forall_mem_cons.1 hline
      rw [lines_cons_of_inner hc]
      cases line with
      | nil => rfl
      | cons d line => rw [ih hline (List.cons_ne_nil d line)]; rfl
  by_cases hempty : line = []
  · rw [hempty, hnil]
    rfl
  · rw [hlines hempty, List.findSome?_singleton]

theorem findSome?_lines_lineEnd {line lineEnd : List Char} (hline : IsLine line)
    (hend : IsLineEnd lineEnd) (rest : List Char) :
    (lines (line ++ lineEnd ++ rest)).findSome? f = (f line).or ((lines rest).findSome? f) := by
  rw [List.append_assoc]
  cases hend with
  | single h => exact findSome?_lines_boundary hnil hline h rest
  | pair =>
    have hfeed := findSome?_lines_boundary hnil .nil (rfl : isLineBoundary '\n' = true) rest
    rw [List.nil_append, hnil, Option.none_or] at hfeed
    rw [← hfeed]
    exact findSome?_lines_boundary hnil hline rfl _

/-- A text is searched in front of a line end first, and behind it if nothing is found there. -/
theorem findSome?_lines_append {lineEnd : List Char} (hend : IsLineEnd lineEnd)
    (front rest : List Char) :
    (lines (front ++ lineEnd ++ rest)).findSome? f =
      ((lines front).findSome? f).or ((lines rest).findSome? f) := by
  -- The part of the first line that was passed already is carried along.
  suffices h : ∀ line, IsLine line → (lines (line ++ front ++ lineEnd ++ rest)).findSome? f =
      ((lines (line ++ front)).findSome? f).or ((lines rest).findSome? f) from
    h [] .nil
  induction front with
  | nil =>
    intro line hline
    rw [List.append_nil, findSome?_lines_lineEnd hnil hline hend, findSome?_lines_line hnil hline]
  | cons c front ih =>
    intro line hline
    cases hc : isLineBoundary c with
    | false =>
      have hlonger : IsLine (line ++ [c]) := List.forall_mem_append.2 ⟨hline, by simpa using hc⟩
      simpa using ih (line ++ [c]) hlonger
    | true =>
      have hbehind := ih [] .nil
      simp only [List.append_assoc, List.cons_append, List.nil_append] at hbehind ⊢
      rw [findSome?_lines_boundary hnil hline hc, findSome?_lines_boundary hnil hline hc, hbehind,
        Option.or_assoc]

/-- Lines in which nothing is found are passed. -/
theorem findSome?_lines_laidOut {leading : List (String × String)}
    (hleading : ∀ entry ∈ leading, IsLine entry.1.toList ∧ IsLineEnd entry.2.toList ∧
      f entry.1.toList = none) (rest : List Char) :
    (lines ((laidOut leading).toList ++ rest)).findSome? f = (lines rest).findSome? f := by
  induction leading with
  | nil => rfl
  | cons entry others ih =>
    obtain ⟨⟨hline, hend, hnone⟩, hothers⟩ := List.forall_mem_cons.1 hleading
    have htext : (laidOut (entry :: others)).toList ++ rest =
        entry.1.toList ++ entry.2.toList ++ ((laidOut others).toList ++ rest) := by
      simp [laidOut]
    rw [htext, findSome?_lines_lineEnd hnil hline hend, hnone, Option.none_or, ih hothers]

end Search

end SeededServer.Text
