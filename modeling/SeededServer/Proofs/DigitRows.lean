import SeededServer.Proofs.Numerals

/-!
# Rows of digits

A row of decimal digits of any scripts stands for a number in the positional system, and it is read
as that number unless it is too long. Digits that are no decimal digits do not count: a row that
holds one of them is never read as an integer.

## Main definitions

* `Text.IsNumeral` — a row of decimal digits, at least one.
* `Text.numeralValue` — the number that the row stands for.
-/
namespace SeededServer

namespace Text

/-- A decimal digit of some script. -/
def isDecimal (c : Char) : Bool := (decimalValue? c).isSome

/-- A row of decimal digits, at least one. -/
@[mk_iff]
structure IsNumeral (cs : List Char) : Prop where
  nonempty : cs ≠ []
  decimal : ∀ c ∈ cs, isDecimal c = true

instance : DecidablePred IsNumeral := fun cs =>
  decidable_of_iff (cs ≠ [] ∧ cs.all isDecimal = true)
    (by rw [List.all_eq_true, isNumeral_iff])

/-- The number that a row of decimal digits stands for. -/
def numeralValue (cs : List Char) : Nat :=
  cs.foldl (fun n c => n * 10 + (decimalValue? c).getD 0) 0

/-! ## Digits -/

theorem decimalValue?_cases {c : Char} {d : Nat} (h : decimalValue? c = some d) :
    ∃ first ∈ zeroPoints, c.toNat = first + d ∧ d < 10 := by
  obtain ⟨first, hfind, hvalue⟩ := Option.map_eq_some_iff.1 h
  have hrange := List.find?_some hfind
  simp only [Bool.and_eq_true, decide_eq_true_eq] at hrange
  exact ⟨first, List.mem_of_find?_eq_some hfind, by omega, by omega⟩

/-- Among the plain characters the decimal digits are those of ASCII. -/
theorem eq_digitChar_of_lt {c : Char} {d : Nat} (h : decimalValue? c = some d)
    (hlt : c.toNat < 127) : c = Nat.digitChar d := by
  obtain ⟨first, hfirst, hcode, hd⟩ := decimalValue?_cases h
  have hascii : ∀ first ∈ zeroPoints, first < 127 → first = 48 := by decide
  apply Char.toNat_inj.1
  rw [Nat.toNat_digitChar_of_lt_ten hd, hcode, hascii first hfirst (by omega)]

theorem inRanges_eq_false {ranges : List (Nat × Nat)} {c : Char}
    (h : ∀ range ∈ ranges, c.toNat < range.1 ∨ range.2 < c.toNat) : inRanges ranges c = false := by
  refine List.any_eq_false.2 fun range hrange => ?_
  have := h range hrange
  simp only [Bool.and_eq_true, decide_eq_true_eq]
  omega

theorem not_isBlank_of_isDecimal {c : Char} (h : isDecimal c = true) : isBlank c = false := by
  obtain ⟨d, hvalue⟩ := Option.isSome_iff_exists.1 h
  obtain ⟨first, hfirst, hcode, hd⟩ := decimalValue?_cases hvalue
  have hapart : ∀ first ∈ zeroPoints, ∀ range ∈ blankRanges,
      first + 9 < range.1 ∨ range.2 < first := by decide +kernel
  refine inRanges_eq_false fun range hrange => ?_
  have := hapart first hfirst range hrange
  omega

/-- The digits that are no decimal digits are neither plain nor blank. -/
theorem marked_cases {c : Char} (h : inRanges markedDigitRanges c = true) :
    127 ≤ c.toNat ∧ isBlank c = false := by
  obtain ⟨marked, hmarked, hmem⟩ := List.any_eq_true.1 h
  simp only [Bool.and_eq_true, decide_eq_true_eq] at hmem
  have hplain : ∀ marked ∈ markedDigitRanges, 127 ≤ marked.1 := by decide
  have hapart : ∀ marked ∈ markedDigitRanges, ∀ range ∈ blankRanges,
      marked.2 < range.1 ∨ range.2 < marked.1 := by decide +kernel
  refine ⟨(hplain marked hmarked).trans hmem.1, inRanges_eq_false fun range hrange => ?_⟩
  have := hapart marked hmarked range hrange
  omega

theorem isDigits_iff {cs : List Char} :
    isDigits cs = true ↔ cs ≠ [] ∧ ∀ c ∈ cs, isDigit c = true := by
  simp [isDigits]

/-- There is no colon in a row of digits. -/
theorem colon_not_mem_of_isDigits {cs : List Char} (h : isDigits cs = true) : ':' ∉ cs := by
  intro hmem
  have hcolon : isDigit ':' = false := by decide +kernel
  exact absurd ((isDigits_iff.1 h).2 ':' hmem) (by simp [hcolon])

theorem IsNumeral.isDigits {cs : List Char} (h : IsNumeral cs) : Text.isDigits cs = true :=
  isDigits_iff.2 ⟨h.nonempty, fun c hc => by
    rw [isDigit, ← isDecimal, h.decimal c hc, Bool.true_or]⟩

end Text

namespace Number

open Text

/-- What a character becomes when a number is read. -/
def normalChar (c : Char) : Char :=
  if c.toNat < 127 then c
  else if isBlank c then ' '
  else match decimalValue? c with
    | some d => Nat.digitChar d
    | none => c

theorem normalize_eq_map (cs : List Char) : normalize cs = cs.map normalChar := rfl

theorem forall_mem_normalize {P : Char → Prop} {cs : List Char} :
    (∀ c ∈ normalize cs, P c) ↔ ∀ c ∈ cs, P (normalChar c) := List.forall_mem_map

@[simp] theorem length_normalize (cs : List Char) : (normalize cs).length = cs.length :=
  List.length_map _

theorem isDigit_digitChar {d : Nat} (h : d < 10) : (Nat.digitChar d).isDigit = true := by
  interval_cases d <;> rfl

/-- A decimal digit becomes the digit of ASCII with the same value. -/
theorem normalChar_isDecimal {c : Char} (h : isDecimal c = true) :
    (normalChar c).isDigit = true ∧
      (normalChar c).toNat - '0'.toNat = (decimalValue? c).getD 0 := by
  obtain ⟨d, hvalue⟩ := Option.isSome_iff_exists.1 h
  obtain ⟨-, -, -, hd⟩ := decimalValue?_cases hvalue
  have hnormal : normalChar c = Nat.digitChar d := by
    unfold normalChar
    split
    · exact eq_digitChar_of_lt hvalue ‹_›
    · rw [not_isBlank_of_isDecimal h, hvalue]
      rfl
  rw [hnormal, hvalue, Nat.toNat_digitChar_of_lt_ten hd]
  exact ⟨isDigit_digitChar hd, Nat.add_sub_cancel_left _ _⟩

/-- Any other digit stays what it is, and it is no plain character. -/
theorem normalChar_marked {c : Char} (h : isDigit c = true) (hmarked : isDecimal c = false) :
    127 ≤ (normalChar c).toNat := by
  have hvalue : decimalValue? c = none := by simpa [isDecimal] using hmarked
  have hrange : inRanges markedDigitRanges c = true := by simpa [isDigit, hvalue] using h
  obtain ⟨hplain, hblank⟩ := marked_cases hrange
  have hsame : normalChar c = c := by
    rw [normalChar, if_neg (by omega), hblank, hvalue]
    rfl
  rwa [hsame]

/-- A digit is neither padding nor a sign. -/
theorem normalChar_apart {c : Char} (h : isDigit c = true) :
    isPadding (normalChar c) = false ∧ normalChar c ≠ '-' ∧ normalChar c ≠ '+' := by
  cases hdecimal : isDecimal c with
  | true =>
    have hdigit := (normalChar_isDecimal hdecimal).1
    exact ⟨not_isPadding_of_isDigit hdigit, ne_sign_of_isDigit hdigit⟩
  | false =>
    have hfar := normalChar_marked h hdecimal
    have hne (d : Char) (hd : d.toNat < 127) : normalChar c ≠ d := by
      rintro rfl
      omega
    refine ⟨?_, hne '-' (by decide), hne '+' (by decide)⟩
    simp [isPadding, hne ' ' (by decide), hne '\t' (by decide), hne '\n' (by decide),
      hne '\x0b' (by decide), hne '\x0c' (by decide), hne '\r' (by decide)]

/-- Nothing stands around a row of digits, and there is no sign in front of it. -/
theorem splitSign_normalize {cs : List Char} (h : isDigits cs = true) :
    splitSign (trim isPadding (normalize cs)) = (false, normalize cs) := by
  have hdigit := (isDigits_iff.1 h).2
  rw [trim_eq_self, splitSign_eq_self]
  · exact forall_mem_normalize.2 fun c hc => (normalChar_apart (hdigit c hc)).2
  · exact forall_mem_normalize.2 fun c hc => (normalChar_apart (hdigit c hc)).1

theorem ofDigits_normalize {cs : List Char} (h : ∀ c ∈ cs, isDecimal c = true) :
    ofDigits 10 (normalize cs) = numeralValue cs := by
  rw [ofDigits, normalize_eq_map, List.foldl_map, numeralValue]
  refine List.foldl_ext _ _ _ fun n c hc => ?_
  rw [(normalChar_isDecimal (h c hc)).2]

/-- A row of decimal digits is read as the number that it stands for, unless it is too long. -/
theorem readInt_numeral {cs : List Char} (h : IsNumeral cs) :
    readInt cs = if digitLimit < cs.length then .error (.tooLong cs.length)
      else .ok (numeralValue cs) := by
  have hdigits : ∀ c ∈ normalize cs, c.isDigit = true :=
    forall_mem_normalize.2 fun c hc => (normalChar_isDecimal (h.decimal c hc)).1
  have hne : normalize cs ≠ [] := by simpa [normalize_eq_map] using h.nonempty
  rw [readInt_of_splitSign (splitSign_normalize h.isDigits) hdigits hne, length_normalize,
    ofDigits_normalize h.decimal]
  rfl

/-- What is read as an integer has digits and underscores only behind its sign. -/
theorem of_readInt {cs body : List Char} {negative : Bool} {n : Int}
    (hsign : splitSign (trim isPadding (normalize cs)) = (negative, body))
    (h : readInt cs = .ok n) : ∀ c ∈ body, c.isDigit = true ∨ c = '_' := by
  have hall : body.takeWhile (fun c => c.isDigit || c = '_') = body := by
    rw [readInt, hsign] at h
    dsimp only at h
    split at h
    · cases h
    split at h
    · cases h
    split at h
    · cases h
    next hwhole =>
      simp only [Bool.or_eq_true, decide_eq_true_eq, not_or] at hwhole
      exact (List.takeWhile_prefix _).eq_of_length_le (by omega)
  intro c hc
  simpa using List.takeWhile_eq_self_iff.1 hall c hc

/-- The rows of digits that are read as an integer. -/
theorem readInt_eq_ok_iff {cs : List Char} (h : isDigits cs = true) {n : Int} :
    readInt cs = .ok n ↔ IsNumeral cs ∧ cs.length ≤ digitLimit ∧ n = numeralValue cs := by
  obtain ⟨hne, hdigit⟩ := isDigits_iff.1 h
  constructor
  · intro hread
    have hbody := forall_mem_normalize.1 (of_readInt (splitSign_normalize h) hread)
    have hnumeral : IsNumeral cs := by
      refine ⟨hne, fun c hc => ?_⟩
      by_contra hmarked
      have hfar := normalChar_marked (hdigit c hc) (by simpa using hmarked)
      rcases hbody c hc with hplain | hunderscore
      · exact absurd (isDigit_lt hplain) (by omega)
      · rw [hunderscore] at hfar
        exact absurd hfar (by decide)
    rw [readInt_numeral hnumeral] at hread
    split at hread
    · cases hread
    · cases hread
      exact ⟨hnumeral, by omega, rfl⟩
  · rintro ⟨hnumeral, hlength, rfl⟩
    rw [readInt_numeral hnumeral, if_neg (by omega)]

/-! ## The digits of a number -/

theorem isDecimal_of_isDigit {c : Char} (h : c.isDigit = true) : isDecimal c = true := by
  simp only [Char.isDigit, Bool.and_eq_true, decide_eq_true_eq] at h
  have hfirst : '0'.toNat ≤ c.toNat := h.1
  have hlast : c.toNat ≤ '0'.toNat + 9 := h.2
  rw [isDecimal, decimalValue?, Option.isSome_map, List.find?_isSome]
  exact ⟨'0'.toNat, by decide, by simpa using ⟨hfirst, hlast⟩⟩

theorem isNumeral_decimalDigits (n : Nat) : IsNumeral (decimalDigits n) where
  nonempty := decimalDigits_ne_nil n
  decimal _ hc := isDecimal_of_isDigit (isDigit_of_mem_decimalDigits hc)

theorem numeralValue_decimalDigits (n : Nat) : numeralValue (decimalDigits n) = n := by
  have hplain : normalize (decimalDigits n) = decimalDigits n :=
    normalize_eq_self fun c hc => isDigit_lt (isDigit_of_mem_decimalDigits hc)
  rw [← ofDigits_normalize (isNumeral_decimalDigits n).decimal, hplain, ofDigits_decimalDigits]

theorem intText_natCast (n : Nat) : (intText n).toList = decimalDigits n := String.toList_ofList

end Number

end SeededServer
