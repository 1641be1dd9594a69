import Mathlib.Data.Nat.Digits.Lemmas
import SeededServer.Number.Reading
import SeededServer.Proofs.Trimming

/-!
# Numerals

An integer that is short enough to be written reads back from its text, and an integer that was read
is short enough to be written.
-/
namespace SeededServer

namespace Number

/-! ## Rows of digits -/

theorem isDigit_lt {c : Char} (h : c.isDigit = true) : c.toNat < 127 := by
  simp only [Char.isDigit, Bool.and_eq_true, decide_eq_true_eq] at h
  have hnine : c.toNat ≤ '9'.toNat := h.2
  exact Nat.lt_of_le_of_lt hnine (by decide)

theorem not_isPadding_of_isDigit {c : Char} (h : c.isDigit = true) : isPadding c = false := by
  by_contra hpadding
  simp only [isPadding, List.mem_cons, List.not_mem_nil, or_false, decide_eq_true_eq,
    Bool.not_eq_false] at hpadding
  rcases hpadding with rfl | rfl | rfl | rfl | rfl | rfl <;> cases h

theorem normalize_eq_self {cs : List Char} (h : ∀ c ∈ cs, c.toNat < 127) : normalize cs = cs := by
  rw [normalize, List.map_congr_left fun c hc => if_pos (h c hc), List.map_id']

theorem dropUnderscores_digits {cs : List Char} (h : ∀ c ∈ cs, c.isDigit = true)
    (afterDigit : Bool) : dropUnderscores afterDigit cs = some cs := by
  induction cs generalizing afterDigit with
  | nil => rfl
  | cons c rest ih =>
    obtain ⟨hc, hrest⟩ := List.forall_mem_cons.1 h
    have hne : c ≠ '_' := by
      rintro rfl
      cases hc
    rw [dropUnderscores.eq_def]
    split
    · contradiction
    · exact absurd (List.cons.inj ‹_›).1 hne
    · next heq =>
      obtain ⟨rfl, rfl⟩ := List.cons.inj heq
      rw [ih hrest]
      rfl

theorem ofDigits_eq (cs : List Char) : ofDigits 10 cs = Nat.ofDigitChars 10 cs 0 := by
  simp only [ofDigits, Nat.ofDigitChars, Nat.mul_comm]

theorem isDigit_of_mem_decimalDigits {n : Nat} {c : Char} (h : c ∈ decimalDigits n) :
    c.isDigit = true := Nat.isDigit_of_mem_toDigits (by decide) (by decide) h

theorem ofDigits_decimalDigits (n : Nat) : ofDigits 10 (decimalDigits n) = n := by
  rw [ofDigits_eq]
  exact Nat.ofDigitChars_toDigits (by decide) (by decide)

/-! ## Reading what is written -/

theorem decimalDigits_ne_nil (n : Nat) : decimalDigits n ≠ [] :=
  List.ne_nil_of_length_pos Nat.length_toDigits_pos

/-- A row that holds no sign does not start with one. -/
theorem splitSign_eq_self {cs : List Char} (h : ∀ c ∈ cs, c ≠ '-' ∧ c ≠ '+') :
    splitSign cs = (false, cs) := by
  unfold splitSign
  split
  · exact absurd rfl (h _ List.mem_cons_self).1
  · exact absurd rfl (h _ List.mem_cons_self).2
  · rfl

theorem ne_sign_of_isDigit {c : Char} (h : c.isDigit = true) : c ≠ '-' ∧ c ≠ '+' := by
  constructor <;> rintro rfl <;> cases h

/-- Digits without a sign, or behind one, are read as the number that they stand for, unless there
are too many of them. -/
theorem readInt_of_splitSign {cs digits : List Char} {negative : Bool}
    (hsign : splitSign (Text.trim isPadding (normalize cs)) = (negative, digits))
    (hdigits : ∀ c ∈ digits, c.isDigit = true) (hne : digits ≠ []) :
    readInt cs = if digitLimit < digits.length then .error (.tooLong digits.length)
      else .ok (if negative then -(ofDigits 10 digits : Int) else ofDigits 10 digits) := by
  have hrow : digits.takeWhile (fun c => c.isDigit || c = '_') = digits :=
    List.takeWhile_eq_self_iff.2 fun c hc => by simp [hdigits c hc]
  have hwhole : ¬ (digits.isEmpty || decide (digits.length < digits.length)) = true := by
    simp [hne]
  rw [readInt, hsign]
  simp only [hrow, dropUnderscores_digits hdigits]
  rw [if_neg hwhole]

theorem plain_of_isDigit {c : Char} (h : c.isDigit = true) : c.toNat < 127 ∧ isPadding c = false :=
  ⟨isDigit_lt h, not_isPadding_of_isDigit h⟩

/-- Plain characters that are the digits of a number, or a sign and these digits. -/
theorem readInt_of_plain {cs : List Char} {negative : Bool} {n : Nat}
    (hplain : ∀ c ∈ cs, c.toNat < 127 ∧ isPadding c = false)
    (hsign : splitSign cs = (negative, decimalDigits n))
    (hlength : (decimalDigits n).length ≤ digitLimit) :
    readInt cs = .ok (if negative then -n else n) := by
  have hbody : splitSign (Text.trim isPadding (normalize cs)) = (negative, decimalDigits n) := by
    rwa [normalize_eq_self fun c hc => (hplain c hc).1,
      Text.trim_eq_self fun c hc => (hplain c hc).2]
  rw [readInt_of_splitSign hbody (fun c hc => isDigit_of_mem_decimalDigits hc)
    (decimalDigits_ne_nil n), if_neg (by omega), ofDigits_decimalDigits]

/-- An integer that is short enough reads back from its text. -/
theorem readInt_intText {n : Int} (h : isWritable n = true) :
    readInt (intText n).toList = .ok n := by
  have hlength : (decimalDigits n.natAbs).length ≤ digitLimit := of_decide_eq_true h
  have hplain (m : Nat) (c : Char) (hc : c ∈ decimalDigits m) :=
    plain_of_isDigit (isDigit_of_mem_decimalDigits hc)
  cases n with
  | ofNat m =>
    rw [intText, String.toList_ofList]
    exact readInt_of_plain (hplain m) (splitSign_eq_self fun c hc =>
      ne_sign_of_isDigit (isDigit_of_mem_decimalDigits hc)) hlength
  | negSucc m =>
    rw [intText, String.toList_ofList]
    have hminus : ('-').toNat < 127 ∧ isPadding '-' = false := by decide
    exact readInt_of_plain (List.forall_mem_cons.2 ⟨hminus, hplain (m + 1)⟩) rfl hlength

/-! ## Writing what is read -/

theorem of_mem_dropUnderscores {afterDigit : Bool} {cs digits : List Char}
    (h : dropUnderscores afterDigit cs = some digits) : ∀ c ∈ digits, c ∈ cs ∧ c ≠ '_' := by
  fun_induction dropUnderscores afterDigit cs generalizing digits with
  | case1 =>
    cases h
    exact fun c hc => by cases hc
  | case2 afterDigit c rest hdigit ih =>
    exact fun d hd => ⟨List.mem_cons_of_mem _ (ih h d hd).1, (ih h d hd).2⟩
  | case3 => cases h
  | case4 => cases h
  | case5 afterDigit c rest hne ih =>
    obtain ⟨others, hothers, rfl⟩ := Option.map_eq_some_iff.1 h
    refine List.forall_mem_cons.2 ⟨⟨List.mem_cons_self, hne⟩, fun d hd => ?_⟩
    exact ⟨List.mem_cons_of_mem _ (ih hothers d hd).1, (ih hothers d hd).2⟩

theorem foldl_digits_lt {cs : List Char} (h : ∀ c ∈ cs, c.isDigit = true) (n : Nat) :
    cs.foldl (fun n c => n * 10 + (c.toNat - '0'.toNat)) n < (n + 1) * 10 ^ cs.length := by
  induction cs generalizing n with
  | nil => simp
  | cons c rest ih =>
    obtain ⟨hc, hrest⟩ := List.forall_mem_cons.1 h
    have hvalue : c.toNat - '0'.toNat < 10 := by
      simp only [Char.isDigit, Bool.and_eq_true, decide_eq_true_eq] at hc
      have hnine : c.toNat ≤ '9'.toNat := hc.2
      have : '9'.toNat = '0'.toNat + 9 := rfl
      omega
    calc rest.foldl (fun n c => n * 10 + (c.toNat - '0'.toNat)) (n * 10 + (c.toNat - '0'.toNat))
        < (n * 10 + (c.toNat - '0'.toNat) + 1) * 10 ^ rest.length := ih hrest _
      _ ≤ ((n + 1) * 10) * 10 ^ rest.length := Nat.mul_le_mul_right _ (by omega)
      _ = (n + 1) * 10 ^ (c :: rest).length := by rw [List.length_cons, Nat.pow_succ']; ring

/-- The least natural number with too many digits to be written. -/
def leastTooLong : Nat := 10 ^ digitLimit

theorem pow_le_leastTooLong {k : Nat} (h : k ≤ digitLimit) : 10 ^ k ≤ leastTooLong :=
  Nat.pow_le_pow_right (by decide) h

theorem isWritable_natCast_iff {n : Nat} : isWritable n = true ↔ n < leastTooLong := by
  rw [isWritable, decide_eq_true_iff]
  exact Nat.length_toDigits_le_iff (by decide) (by decide)

theorem isWritable_leastTooLong : isWritable leastTooLong = false := by
  rw [Bool.eq_false_iff, Ne, isWritable_natCast_iff]
  exact Nat.lt_irrefl _

theorem isWritable_neg (n : Int) : isWritable (-n) = isWritable n := by
  rw [isWritable, isWritable, Int.natAbs_neg]

/-- An integer that was read is short enough to be written. -/
theorem isWritable_of_readInt {cs : List Char} {n : Int} (h : readInt cs = .ok n) :
    isWritable n = true := by
  rw [readInt] at h
  obtain ⟨negative, body⟩ := splitSign (Text.trim isPadding (normalize cs))
  dsimp only at h
  split at h
  · cases h
  next digits hdigits =>
  split at h
  · cases h
  next hlength =>
  split at h
  · cases h
  have hrow (c : Char) (hc : c ∈ digits) : c.isDigit = true := by
    obtain ⟨hmem, hne⟩ := of_mem_dropUnderscores hdigits c hc
    simpa [hne] using List.mem_takeWhile_imp hmem
  have hwritable : isWritable (ofDigits 10 digits : Nat) = true := by
    refine isWritable_natCast_iff.2 ((foldl_digits_lt hrow 0).trans_le ?_)
    rw [Nat.zero_add, Nat.one_mul]
    exact pow_le_leastTooLong (by omega)
  cases h
  split
  · rwa [isWritable_neg]
  · exact hwritable

end Number

end SeededServer
