import SeededServer.Address
import SeededServer.Proofs.DigitRows
import SeededServer.Proofs.Splitting

/-!
# Splitting addresses

A text is accepted as an address if brackets in any number, a host and brackets again stand in front
of its last colon, and a row of digits of any kind behind it. The brackets are dropped. An address
that is written with a host and a number splits into just these, with or without a pair of brackets
around the host.

What is accepted is not always of use: of an address like `[]:1433` no host is left, brackets that
do not match are dropped like a pair, and digits like a superscript are no port number.

## Main definitions

* `Address.IsHost` — a host, without brackets around it.
* `Address.Composed` — how an accepted text is made up.
* `Address.Usable` — what is expected of the parts of an address.
-/
namespace SeededServer.Address

open Text

/-- A host: it is not empty, and no bracket stands at its ends. -/
@[mk_iff]
structure IsHost (host : String) : Prop where
  nonempty : host ≠ ""
  bare : Trimmed isBracket host.toList

instance : DecidablePred IsHost := fun host => decidable_of_iff' _ (isHost_iff host)

/-- Brackets and nothing else, in any number. -/
def IsBrackets (row : String) : Prop := ∀ c ∈ row.toList, isBracket c = true

instance : DecidablePred IsBrackets := fun row =>
  decidable_of_iff (row.toList.all isBracket = true) List.all_eq_true

/-- How an accepted text is made up. -/
@[mk_iff]
structure Composed (address opening host closing port : String) : Prop where
  text : address = opening ++ host ++ closing ++ ":" ++ port
  inFront : IsBrackets opening
  behind : IsBrackets closing
  bare : Trimmed isBracket host.toList
  /-- Something stands in front of the colon, if only brackets. -/
  nonempty : opening ++ host ++ closing ≠ ""
  digits : isDigits port.toList = true

instance (address opening host closing port : String) :
    Decidable (Composed address opening host closing port) :=
  decidable_of_iff' _ (composed_iff address opening host closing port)

/-- What is expected of the parts of an address. -/
structure Usable (address host port : String) : Prop where
  isHost : IsHost host
  nonempty : port ≠ ""
  /-- The port is read as an integer, and that is not negative. -/
  number : ∃ n : Nat, Number.readInt port.toList = .ok n
  /-- The address is made up of the two, with a pair of brackets around the host or without. -/
  text : address = host ++ ":" ++ port ∨ address = "[" ++ host ++ "]" ++ ":" ++ port

/-! ## What is accepted -/

theorem splitChars_eq_some_iff {cs host port : List Char} :
    splitChars cs = some (host, port) ↔ ∃ front, cs = front ++ ':' :: port ∧ ':' ∉ port ∧
      front ≠ [] ∧ isDigits port = true ∧ trim isBracket front = host := by
  constructor
  · intro h
    obtain ⟨⟨front, row⟩, hsplit, hparts⟩ := Option.bind_eq_some_iff.1 h
    obtain ⟨hcs, hcolon⟩ := splitAtLast_eq_some_iff.1 hsplit
    dsimp only at hparts
    split at hparts
    · cases hparts
    · next haccepted =>
      simp only [Bool.or_eq_true, List.isEmpty_iff, Bool.not_eq_true', not_or,
        Bool.not_eq_false] at haccepted
      cases hparts
      exact ⟨front, hcs, hcolon, haccepted.1, haccepted.2, rfl⟩
  · rintro ⟨front, rfl, hcolon, hfront, hport, rfl⟩
    simp [splitChars, splitAtLast_append hcolon, hfront, hport]

theorem split_eq_ok_iff_splitChars {address host port : String} :
    split address = .ok (host, port) ↔
      splitChars address.toList = some (host.toList, port.toList) := by
  unfold split
  split
  · next front row hchars =>
    rw [hchars]
    constructor
    · intro h
      cases h
      simp
    · intro h
      obtain ⟨rfl, rfl⟩ := Prod.mk.inj (Option.some.inj h)
      simp
  · next hchars =>
    rw [hchars]
    exact iff_of_false nofun nofun

/-- The texts that are accepted, and what they are split into. -/
theorem split_eq_ok_iff {address host port : String} : split address = .ok (host, port) ↔
    ∃ opening closing, Composed address opening host closing port := by
  rw [split_eq_ok_iff_splitChars, splitChars_eq_some_iff]
  constructor
  · rintro ⟨front, haddress, -, hfront, hport, htrim⟩
    obtain ⟨hbare, left, right, rfl, hleft, hright⟩ := trim_eq_iff.1 htrim
    refine ⟨String.ofList left, String.ofList right, ?_, by simpa [IsBrackets] using hleft,
      by simpa [IsBrackets] using hright, hbare, ?_, hport⟩
    · apply String.toList_injective
      simpa using haddress
    · intro hempty
      apply hfront
      simpa using congrArg String.toList hempty
  · rintro ⟨opening, closing, rfl, hopening, hclosing, hbare, hne, hport⟩
    refine ⟨opening.toList ++ host.toList ++ closing.toList, by simp,
      colon_not_mem_of_isDigits hport, ?_, hport, trim_append hbare hopening hclosing⟩
    intro hempty
    apply hne
    apply String.toList_injective
    simpa using hempty

/-! ## Writing and splitting -/

/-- An address splits into the host and the number that it is written with. -/
theorem split_written {host : String} (h : IsHost host) (n : Nat) :
    split (host ++ ":" ++ Number.intText n) = .ok (host, Number.intText n) ∧
      split ("[" ++ host ++ "]" ++ ":" ++ Number.intText n) = .ok (host, Number.intText n) := by
  have hdigits : isDigits (Number.intText n).toList = true := by
    rw [Number.intText_natCast]
    exact (Number.isNumeral_decimalDigits n).isDigits
  constructor
  · refine split_eq_ok_iff.2 ⟨"", "", ?_, nofun, nofun, h.bare, ?_, hdigits⟩
    · simp
    · simpa using h.nonempty
  · refine split_eq_ok_iff.2 ⟨"[", "]", rfl, by decide, by decide, h.bare, ?_, hdigits⟩
    intro hempty
    simpa using congrArg String.toList hempty

/-! ## What is usable -/

/-- The brackets around a host are what stands there in the address. -/
theorem Composed.brackets_eq {address opening host closing port left right : String}
    (h : Composed address opening host closing port) (hhost : host ≠ "")
    (hleft : IsBrackets left)
    (haddress : address = left ++ host ++ right ++ ":" ++ port) :
    opening = left ∧ closing = right := by
  have hsame : opening.toList ++ host.toList ++ closing.toList =
      left.toList ++ host.toList ++ right.toList := by
    have htext := congrArg String.toList (h.text.symm.trans haddress)
    simp only [String.toList_append] at htext
    exact List.append_cancel_right (List.append_cancel_right htext)
  have hne : host.toList ≠ [] := by simpa using hhost
  obtain ⟨hopening, hclosing⟩ := around_unique h.bare hne h.inFront hleft hsame
  exact ⟨String.toList_injective hopening, String.toList_injective hclosing⟩

/-- What an accepted text is split into is usable if a host is left, if no brackets or one pair of
them stood around it, and if the port consists of decimal digits, at most 4300 of them. All other
accepted texts are split into parts that are of no use. -/
theorem split_usable_iff (address : String) :
    (∀ host port, split address = .ok (host, port) ↔
      ∃ opening closing, Composed address opening host closing port) ∧
    ∀ opening host closing port, Composed address opening host closing port →
      (Usable address host port ↔ host ≠ "" ∧
        (opening = "" ∧ closing = "" ∨ opening = "[" ∧ closing = "]") ∧
        IsNumeral port.toList ∧ port.toList.length ≤ Number.digitLimit) := by
  refine ⟨fun _ _ => split_eq_ok_iff, fun opening host closing port h => ⟨?_, ?_⟩⟩
  · rintro ⟨hhost, -, ⟨n, hnumber⟩, htext⟩
    obtain ⟨hnumeral, hlength, -⟩ := (Number.readInt_eq_ok_iff h.digits).1 hnumber
    refine ⟨hhost.nonempty, ?_, hnumeral, hlength⟩
    rcases htext with hplain | hpair
    · exact .inl (h.brackets_eq hhost.nonempty nofun (by simpa using hplain))
    · exact .inr (h.brackets_eq hhost.nonempty (by decide) hpair)
  · rintro ⟨hhost, hbrackets, hnumeral, hlength⟩
    have hport : port ≠ "" := by simpa using hnumeral.nonempty
    have hnumber := (Number.readInt_eq_ok_iff h.digits).2 ⟨hnumeral, hlength, rfl⟩
    refine ⟨⟨hhost, h.bare⟩, hport, ⟨_, hnumber⟩, ?_⟩
    rcases hbrackets with ⟨rfl, rfl⟩ | ⟨rfl, rfl⟩
    · exact .inl (by simpa using h.text)
    · exact .inr h.text

/-- Brackets without a host are accepted, and so is a superscript as a port. -/
theorem emptyBrackets_accepted :
    (split "[::1]:1433" = .ok ("::1", "1433") ∧ Usable "[::1]:1433" "::1" "1433") ∧
    (split "[]:1433" = .ok ("", "1433") ∧ ¬ Usable "[]:1433" "" "1433") ∧
    (split "[[::1]]:1433" = .ok ("::1", "1433") ∧ ¬ Usable "[[::1]]:1433" "::1" "1433") ∧
    split "localhost:²" = .ok ("localhost", "²") ∧ ¬ Usable "localhost:²" "localhost" "²" := by
  have hpair : Composed "[::1]:1433" "[" "::1" "]" "1433" := by decide +kernel
  have hempty : Composed "[]:1433" "[" "" "]" "1433" := by decide +kernel
  have htwice : Composed "[[::1]]:1433" "[[" "::1" "]]" "1433" := by decide +kernel
  have hmarked : Composed "localhost:²" "" "localhost" "" "²" := by decide +kernel
  have hnumeral : IsNumeral "1433".toList := by decide +kernel
  refine ⟨⟨((split_usable_iff _).1 _ _).2 ⟨_, _, hpair⟩, ((split_usable_iff _).2 _ _ _ _ hpair).2
      ⟨by decide, .inr ⟨rfl, rfl⟩, hnumeral, by decide⟩⟩,
    ⟨((split_usable_iff _).1 _ _).2 ⟨_, _, hempty⟩, fun h => ?_⟩,
    ⟨((split_usable_iff _).1 _ _).2 ⟨_, _, htwice⟩, fun h => ?_⟩,
    ((split_usable_iff _).1 _ _).2 ⟨_, _, hmarked⟩, fun h => ?_⟩
  · exact (((split_usable_iff _).2 _ _ _ _ hempty).1 h).1 rfl
  · have hbrackets := (((split_usable_iff _).2 _ _ _ _ htwice).1 h).2.1
    revert hbrackets
    decide
  · have hnumeral := (((split_usable_iff _).2 _ _ _ _ hmarked).1 h).2.2.1
    revert hnumeral
    decide +kernel

end SeededServer.Address
