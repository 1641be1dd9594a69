import SeededServer.Docker.Format
import SeededServer.Proofs.DigitRows
import SeededServer.Proofs.Lines
import SeededServer.Proofs.Splitting
import SeededServer.Proofs.Trimming

/-!
# The first published port

Of the lines that docker prints for a port the first one counts that ends in a colon and a row of
decimal digits. Warnings in front of it are passed, and what follows it is not looked at, whatever
it is. An output without such a line is a preset fault.

The limit on the length of integers is left out of account here: the reader of integers is a
parameter, of which only the value of a row of decimal digits is known. The reader that is used
gives the same for rows of up to 4300 digits.

## Main definitions

* `Docker.Publishes` — the port that a line publishes.
* `Docker.PublishesFirst` — the port that the lines of an output publish first.
* `Docker.publishedPortWith` — the published port, for any reader of integers.
-/
namespace SeededServer.Docker

open Text

/-! ## Lines that publish a port -/

/-- Without the blanks around it, the line ends in a colon and a row of decimal digits. -/
def Publishes (line digits : List Char) : Prop :=
  ∃ host, trim isBlank line = host ++ ':' :: digits ∧ IsNumeral digits

/-- No line of the output publishes a port. -/
def PublishesNone (output : String) : Prop :=
  ∀ line ∈ lines output.toList, ∀ digits, ¬ Publishes line digits

/-- A line of the output publishes a port, and no line in front of it does. -/
def PublishesFirst (output : String) (digits : List Char) : Prop :=
  ∃ before line after, lines output.toList = before ++ line :: after ∧
    (∀ earlier ∈ before, ∀ others, ¬ Publishes earlier others) ∧ Publishes line digits

/-- There are no digits but decimal digits. -/
def DecimalOnly (cs : List Char) : Prop := ∀ c ∈ cs, isDigit c = true → isDecimal c = true

instance : DecidablePred DecimalOnly := fun cs =>
  decidable_of_iff (cs.all (fun c => !isDigit c || isDecimal c) = true)
    (by simp [DecimalOnly, imp_iff_not_or])

theorem portDigits?_nil : portDigits? [] = none := rfl

theorem portDigits?_eq_some_iff {line digits : List Char} : portDigits? line = some digits ↔
    ∃ host, trim isBlank line = host ++ ':' :: digits ∧ isDigits digits = true := by
  constructor
  · intro h
    obtain ⟨⟨host, port⟩, hsplit, hport⟩ := Option.bind_eq_some_iff.1 h
    obtain ⟨hline, -⟩ := splitAtLast_eq_some_iff.1 hsplit
    obtain ⟨hdigits, hsame⟩ := Option.ite_none_right_eq_some.1 hport
    cases hsame
    exact ⟨host, hline, hdigits⟩
  · rintro ⟨host, hline, hdigits⟩
    have hcolon := colon_not_mem_of_isDigits hdigits
    simp [portDigits?, hline, splitAtLast_append hcolon, hdigits]

/-- Without other digits the digits that are taken from a line are those that it publishes. -/
theorem portDigits?_eq_some_iff_publishes {line : List Char} (h : DecimalOnly line)
    {digits : List Char} : portDigits? line = some digits ↔ Publishes line digits := by
  rw [portDigits?_eq_some_iff]
  refine exists_congr fun host => and_congr_right fun hline => ⟨fun hdigits => ?_, (·.isDigits)⟩
  obtain ⟨hne, hdigit⟩ := isDigits_iff.1 hdigits
  refine ⟨hne, fun c hc => ?_⟩
  have hkept : c ∈ trim isBlank line := by simp [hline, hc]
  exact h c (mem_of_mem_trim hkept) (hdigit c hc)

theorem portDigits?_eq_none_iff {line : List Char} (h : DecimalOnly line) :
    portDigits? line = none ↔ ∀ digits, ¬ Publishes line digits := by
  simp only [Option.eq_none_iff_forall_ne_some, ne_eq, portDigits?_eq_some_iff_publishes h]

/-- There are no blanks in the colon and the digits behind it. -/
theorem not_isBlank_of_mem {digits : List Char} (h : IsNumeral digits) :
    ∀ c ∈ ':' :: digits, isBlank c = false := by
  have hcolon : isBlank ':' = false := by decide +kernel
  exact List.forall_mem_cons.2 ⟨hcolon, fun c hc => not_isBlank_of_isDecimal (h.decimal c hc)⟩

/-- The digits behind a host and a colon are published, with blanks in front of the host too. -/
theorem publishes_append (host : List Char) {digits : List Char} (h : IsNumeral digits) :
    Publishes (host ++ ':' :: digits) digits := by
  have htrimmed : Trimmed isBlank (':' :: digits) := .of_forall (not_isBlank_of_mem h)
  exact ⟨_, trim_append_of_trimmed htrimmed (List.cons_ne_nil _ _) host, h⟩

/-- A line boundary is a blank. -/
theorem isBlank_of_isLineBoundary {c : Char} (h : isLineBoundary c = true) : isBlank c = true := by
  have hblank : ['\n', '\r', '\x0b', '\x0c', '\x1c', '\x1d', '\x1e', '\u0085', '\u2028',
      '\u2029'].all isBlank = true := by decide +kernel
  exact List.all_eq_true.1 hblank c (of_decide_eq_true h)

theorem isLine_hostLine {host digits : List Char} (hhost : IsLine host) (h : IsNumeral digits) :
    IsLine (host ++ ':' :: digits) := by
  refine List.forall_mem_append.2 ⟨hhost, fun c hc => ?_⟩
  have hblank := not_isBlank_of_mem h c hc
  by_contra hboundary
  rw [isBlank_of_isLineBoundary (by simpa using hboundary)] at hblank
  cases hblank

/-! ## The first port -/

section First

variable {output : String} (h : DecimalOnly output.toList)
include h

theorem DecimalOnly.of_mem_lines {line : List Char} (hline : line ∈ lines output.toList) :
    DecimalOnly line := fun c hc => h c (mem_of_mem_lines hline c hc)

theorem publishesNone_iff :
    PublishesNone output ↔ (lines output.toList).findSome? portDigits? = none := by
  rw [List.findSome?_eq_none_iff]
  refine forall₂_congr fun line hline => ?_
  rw [portDigits?_eq_none_iff (h.of_mem_lines hline)]

theorem publishesFirst_iff {digits : List Char} : PublishesFirst output digits ↔
    (lines output.toList).findSome? portDigits? = some digits := by
  rw [List.findSome?_eq_some_iff]
  refine exists₃_congr fun before line after => and_congr_right fun hlines => ?_
  have hline : line ∈ lines output.toList := by simp [hlines]
  have hbefore (earlier) (hearlier : earlier ∈ before) : earlier ∈ lines output.toList := by
    simp [hlines, hearlier]
  rw [and_comm, portDigits?_eq_some_iff_publishes (h.of_mem_lines hline)]
  refine and_congr_right fun _ => forall₂_congr fun earlier hearlier => ?_
  rw [portDigits?_eq_none_iff (h.of_mem_lines (hbefore earlier hearlier))]

theorem PublishesFirst.unique {digits others : List Char} (hdigits : PublishesFirst output digits)
    (hothers : PublishesFirst output others) : digits = others := by
  rw [publishesFirst_iff h] at hdigits hothers
  exact Option.some.inj (hdigits.symm.trans hothers)

end First

/-! ## Reading the port -/

/-- The published port, with a reader of integers as a parameter. -/
def publishedPortWith (read : List Char → Except Number.Refusal Int) (output : String) :
    Except Fault Int :=
  match (lines output.toList).findSome? portDigits? with
  | none => .error (unparsable output)
  | some digits => (read digits).mapError (unreadable digits)

theorem publishedPort_eq : publishedPort = publishedPortWith Number.readInt := rfl

/-- The reader converts every row of decimal digits, however long. -/
def ConvertsAll (read : List Char → Except Number.Refusal Int) : Prop :=
  ∀ digits, IsNumeral digits → read digits = .ok (numeralValue digits)

section Reading

variable {output : String}

theorem publishedPortWith_none (h : (lines output.toList).findSome? portDigits? = none)
    (read : List Char → Except Number.Refusal Int) :
    publishedPortWith read output = .error (unparsable output) := by
  rw [publishedPortWith, h]

theorem publishedPortWith_some {digits : List Char}
    (h : (lines output.toList).findSome? portDigits? = some digits)
    (read : List Char → Except Number.Refusal Int) :
    publishedPortWith read output = (read digits).mapError (unreadable digits) := by
  rw [publishedPortWith, h]

theorem PublishesFirst.isNumeral {digits : List Char} (h : PublishesFirst output digits) :
    IsNumeral digits := by
  obtain ⟨-, -, -, -, -, -, -, hdigits⟩ := h
  exact hdigits

theorem PublishesFirst.not_none {digits : List Char} (h : PublishesFirst output digits) :
    ¬ PublishesNone output := by
  obtain ⟨before, line, after, hlines, -, hline⟩ := h
  intro hnone
  exact hnone line (by simp [hlines]) digits hline

/-- Either no port is published, or one port is published first and its digits are read. -/
theorem publishedPortWith_cases (h : DecimalOnly output.toList) :
    (PublishesNone output ∧ ∀ read, publishedPortWith read output = .error (unparsable output)) ∨
    ∃ digits, PublishesFirst output digits ∧
      ∀ read, publishedPortWith read output = (read digits).mapError (unreadable digits) := by
  cases hfirst : (lines output.toList).findSome? portDigits? with
  | none => exact .inl ⟨(publishesNone_iff h).2 hfirst, publishedPortWith_none hfirst⟩
  | some digits =>
    exact .inr ⟨digits, (publishesFirst_iff h).2 hfirst, publishedPortWith_some hfirst⟩

end Reading

/-! ## Nothing but the first port -/

/-- Lines that stand in front of the first published port: each of them has an end, none publishes a
port, and they have no digits but decimal ones. -/
structure Leading (leading : List (String × String)) : Prop where
  isLine : ∀ entry ∈ leading, IsLine entry.1.toList
  isLineEnd : ∀ entry ∈ leading, IsLineEnd entry.2.toList
  decimalOnly : ∀ entry ∈ leading, DecimalOnly entry.1.toList
  publishesNone : ∀ entry ∈ leading, ∀ digits, ¬ Publishes entry.1.toList digits

/-- The first published port is taken, and nothing else. -/
structure TakesFirst (published : String → Except Fault Int) : Prop where
  number_iff (output : String) : DecimalOnly output.toList → ∀ n, published output = .ok n ↔
    ∃ digits, PublishesFirst output digits ∧ n = numeralValue digits
  fault_iff (output : String) : DecimalOnly output.toList → ∀ fault,
    published output = .error fault ↔ PublishesNone output ∧ fault = unparsable output
  /-- Behind the end of a line any text may follow. -/
  unaffected (output lineEnd rest : String) (n : Int) : IsLineEnd lineEnd.toList →
    published output = .ok n → published (output ++ lineEnd ++ rest) = .ok n
  /-- Behind lines that publish no port, the number behind a host and a colon is found. -/
  found (leading : List (String × String)) (host : String) (n : Nat) (lineEnd rest : String) :
    Leading leading → IsLine host.toList → IsLineEnd lineEnd.toList →
    published (laidOut leading ++ host ++ ":" ++ Number.intText n ++ lineEnd ++ rest) = .ok n

theorem publishedPortWith_append {read : List Char → Except Number.Refusal Int}
    {output lineEnd : String} (hend : IsLineEnd lineEnd.toList) (rest : String) {n : Int}
    (h : publishedPortWith read output = .ok n) :
    publishedPortWith read (output ++ lineEnd ++ rest) = .ok n := by
  cases hfirst : (lines output.toList).findSome? portDigits? with
  | none =>
    rw [publishedPortWith_none hfirst] at h
    cases h
  | some digits =>
    have hlonger : (lines (output ++ lineEnd ++ rest).toList).findSome? portDigits? =
        some digits := by
      rw [String.toList_append, String.toList_append,
        findSome?_lines_append portDigits?_nil hend, hfirst, Option.some_or]
    rw [publishedPortWith_some hlonger, ← publishedPortWith_some hfirst, h]

theorem findSome?_hostLine {leading : List (String × String)} (hleading : Leading leading)
    {host port lineEnd : String} (hhost : IsLine host.toList) (hport : IsNumeral port.toList)
    (hend : IsLineEnd lineEnd.toList) (rest : String) :
    (lines (laidOut leading ++ host ++ ":" ++ port ++ lineEnd ++ rest).toList).findSome?
      portDigits? = some port.toList := by
  have hpassed : ∀ entry ∈ leading, IsLine entry.1.toList ∧ IsLineEnd entry.2.toList ∧
      portDigits? entry.1.toList = none := fun entry hentry =>
    ⟨hleading.isLine entry hentry, hleading.isLineEnd entry hentry,
      (portDigits?_eq_none_iff (hleading.decimalOnly entry hentry)).2
        (hleading.publishesNone entry hentry)⟩
  have htext : (laidOut leading ++ host ++ ":" ++ port ++ lineEnd ++ rest).toList =
      (laidOut leading).toList ++
        (host.toList ++ ':' :: port.toList ++ lineEnd.toList ++ rest.toList) := by
    simp
  obtain ⟨shown, htrim, -⟩ := publishes_append host.toList hport
  have hfound : portDigits? (host.toList ++ ':' :: port.toList) = some port.toList :=
    portDigits?_eq_some_iff.2 ⟨shown, htrim, hport.isDigits⟩
  rw [htext, findSome?_lines_laidOut portDigits?_nil hpassed,
    findSome?_lines_lineEnd portDigits?_nil (isLine_hostLine hhost hport) hend, hfound,
    Option.some_or]

section ConvertsAll

variable {read : List Char → Except Number.Refusal Int} (hread : ConvertsAll read)
include hread

theorem ConvertsAll.mapError {digits : List Char} (h : IsNumeral digits) :
    (read digits).mapError (unreadable digits) = .ok (numeralValue digits : Int) := by
  rw [hread digits h]
  rfl

theorem publishedPortWith_takesFirst : TakesFirst (publishedPortWith read) where
  number_iff output h n := by
    rcases publishedPortWith_cases h with ⟨hnone, hfault⟩ | ⟨digits, hfirst, hdigits⟩
    · rw [hfault]
      exact iff_of_false nofun fun ⟨_, hsome, _⟩ => hsome.not_none hnone
    · rw [hdigits, hread.mapError hfirst.isNumeral]
      constructor
      · intro hn
        cases hn
        exact ⟨digits, hfirst, rfl⟩
      · rintro ⟨others, hothers, rfl⟩
        rw [hothers.unique h hfirst]
  fault_iff output h fault := by
    rcases publishedPortWith_cases h with ⟨hnone, hfault⟩ | ⟨digits, hfirst, hdigits⟩
    · simp [hfault, hnone, eq_comm]
    · rw [hdigits, hread.mapError hfirst.isNumeral]
      exact iff_of_false nofun fun hnone => hfirst.not_none hnone.1
  unaffected _ _ rest _ hend := publishedPortWith_append hend rest
  found leading host n lineEnd rest hleading hhost hend := by
    have hport : IsNumeral (Number.intText n).toList := by
      rw [Number.intText_natCast]
      exact Number.isNumeral_decimalDigits n
    rw [publishedPortWith_some (findSome?_hostLine hleading hhost hport hend rest),
      hread.mapError hport, Number.intText_natCast, Number.numeralValue_decimalDigits]

/-- The reader that is used gives the same for digits that are not too many. -/
theorem publishedPort_eq_of_length_le {output : String} (h : DecimalOnly output.toList)
    (hlength : ∀ digits, PublishesFirst output digits → digits.length ≤ Number.digitLimit) :
    publishedPort output = publishedPortWith read output := by
  rw [publishedPort_eq]
  rcases publishedPortWith_cases h with ⟨-, hfault⟩ | ⟨digits, hfirst, hdigits⟩
  · rw [hfault, hfault]
  · have hshort := hlength digits hfirst
    rw [hdigits, hdigits, hread.mapError hfirst.isNumeral,
      Number.readInt_numeral hfirst.isNumeral, if_neg (by omega)]
    rfl

end ConvertsAll

/-- A preset fault means that no port is published, however many digits a port has. -/
theorem publishedPort_preset_iff {output : String} (h : DecimalOnly output.toList) :
    (∃ fault, publishedPort output = .error fault ∧ fault.isPreset = true) ↔
      PublishesNone output := by
  rw [publishedPort_eq]
  rcases publishedPortWith_cases h with ⟨hnone, hfault⟩ | ⟨digits, hfirst, hdigits⟩
  · exact iff_of_true ⟨_, hfault Number.readInt, rfl⟩ hnone
  · refine iff_of_false ?_ hfirst.not_none
    rintro ⟨fault, hfault, hpreset⟩
    rw [hdigits] at hfault
    cases hrefusal : Number.readInt digits with
    | ok n =>
      rw [hrefusal] at hfault
      cases hfault
    | error refusal =>
      rw [hrefusal] at hfault
      cases hfault
      cases hpreset

/-- With a reader that converts any number of digits, the number of the first published port is
found, whatever follows it, and there is a fault if and only if no port is published. The reader
that is used gives the same unless that port has more than 4300 digits, and a preset fault means
that no port is published in any case. -/
theorem publishedPort_takes_first {read : List Char → Except Number.Refusal Int}
    (hread : ConvertsAll read) :
    TakesFirst (publishedPortWith read) ∧
      ∀ output, DecimalOnly output.toList →
        ((∀ digits, PublishesFirst output digits → digits.length ≤ Number.digitLimit) →
          publishedPort output = publishedPortWith read output) ∧
        ((∃ fault, publishedPort output = .error fault ∧ fault.isPreset = true) ↔
          PublishesNone output) :=
  ⟨publishedPortWith_takesFirst hread, fun _ h =>
    ⟨publishedPort_eq_of_length_le hread h, publishedPort_preset_iff h⟩⟩

/-- A binding behind a warning is found, and an output without a binding is a preset fault. -/
theorem publishedPort_behindWarning :
    publishedPort "no swap: 8 GiB\r\n [::1]:49153 \n[::1]:49154" = .ok 49153 ∧
    publishedPortWith (fun digits => .ok (numeralValue digits))
      "no swap: 8 GiB\r\n[::1]:49153\n127.0.0.1:²" = .ok 49153 ∧
    ∃ fault, publishedPort "no swap: 8 GiB" = .error fault ∧ fault.isPreset = true := by
  have hread : ConvertsAll fun digits => .ok (numeralValue digits) := fun _ _ => rfl
  obtain ⟨htakes, hused⟩ := publishedPort_takes_first hread
  have hdecimal : DecimalOnly "no swap: 8 GiB\r\n [::1]:49153 \n[::1]:49154".toList := by
    decide +kernel
  have hfirst : PublishesFirst "no swap: 8 GiB\r\n [::1]:49153 \n[::1]:49154"
      "49153".toList := (publishesFirst_iff hdecimal).2 (by decide +kernel)
  have hwarning : DecimalOnly "no swap: 8 GiB".toList := by decide +kernel
  have hnone : PublishesNone "no swap: 8 GiB" :=
    (publishesNone_iff hwarning).2 (by decide +kernel)
  have hleading : Leading [("no swap: 8 GiB", "\r\n")] :=
    ⟨by decide +kernel, by simpa using .pair, by simpa using hwarning,
      by simpa using (portDigits?_eq_none_iff hwarning).1 (by decide +kernel)⟩
  refine ⟨?_, htakes.found _ "[::1]" 49153 "\n" "127.0.0.1:²" hleading (by decide) (.single rfl),
    (hused _ hwarning).2.2 hnone⟩
  rw [(hused _ hdecimal).1 ?_]
  · exact (htakes.number_iff _ hdecimal _).2 ⟨_, hfirst, by decide +kernel⟩
  · intro digits hdigits
    obtain rfl := hdigits.unique hdecimal hfirst
    decide

end SeededServer.Docker
