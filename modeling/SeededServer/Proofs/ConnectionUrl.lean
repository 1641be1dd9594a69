import Mathlib.Data.List.Basic
import SeededServer.Access
import SeededServer.Proofs.PercentEncoding
import SeededServer.Proofs.Splitting

/-!
# The connection URL

A connection URL names the password, the address and the database. The address stands in it as it
is, and may hold any character. It is found all the same: the encoded password in front of it has no
at sign, and behind it the encoded database has no question mark.

## Main definitions

* `Access.Target` — what a connection URL names.
* `Access.readUrl?` — the reader of a connection URL.
-/
namespace SeededServer.Access

open Text (splitAtFirst splitAtLast splitAtFirst_append splitAtLast_append)

/-- What a connection URL names. -/
structure Target where
  password : String
  address : String
  database : String
  deriving DecidableEq, Repr

/-- What stands in front of the password. -/
def urlHead : String := "sqlserver://sa:"

/-- What stands in front of the database. -/
def queryHead : String := "database="

/-- Reads a connection URL. The encoded password ends at the first at sign; what follows is the
address up to the last question mark, and behind that the encoded database. -/
def readUrl? (url : String) : Option Target := do
  let authority ← urlHead.toList.isPrefixOf? url.toList
  let (password, rest) ← splitAtFirst '@' authority
  let (address, query) ← splitAtLast '?' rest
  let database ← queryHead.toList.isPrefixOf? query
  return { password := String.ofList (← Text.Percent.decode password)
           address := String.ofList address
           database := String.ofList (← Text.Percent.decode database) }

theorem urlWith_toList (password address database : String) :
    (urlWith password address database).toList = urlHead.toList ++
      (Text.Percent.encode password.toList ++ '@' ::
        (address.toList ++ '?' :: (queryHead.toList ++ Text.Percent.encode database.toList))) := by
  have hhead : "sqlserver://" ++ user ++ ":" = urlHead := by decide
  have hquery : "?database=" = "?" ++ queryHead := by decide
  have hat : "@".toList = ['@'] := rfl
  have hmark : "?".toList = ['?'] := rfl
  unfold urlWith
  rw [hhead, hquery]
  simp only [urlPart, hat, hmark, String.toList_append, String.toList_ofList, List.append_assoc,
    List.cons_append, List.nil_append]

theorem readUrl?_urlWith (password address database : String) :
    readUrl? (urlWith password address database) = some ⟨password, address, database⟩ := by
  have hpassword : '@' ∉ Text.Percent.encode password.toList :=
    Text.Percent.not_mem_encode (by decide) (by decide) _
  have hdatabase : '?' ∉ queryHead.toList ++ Text.Percent.encode database.toList := by
    have hencoded : '?' ∉ Text.Percent.encode database.toList :=
      Text.Percent.not_mem_encode (by decide) (by decide) _
    have hhead : '?' ∉ queryHead.toList := by simp [queryHead]
    simp [hencoded, hhead]
  have isPrefixOf?_append (front rest : List Char) :
      front.isPrefixOf? (front ++ rest) = some rest :=
    List.isPrefixOf?_eq_some_iff_append_eq.2 rfl
  simp [readUrl?, urlWith_toList, isPrefixOf?_append, splitAtFirst_append hpassword,
    splitAtLast_append hdatabase, Text.Percent.decode_encode]

theorem urlWith_inj {password address database otherPassword otherAddress otherDatabase : String} :
    urlWith otherPassword otherAddress otherDatabase = urlWith password address database ↔
      otherPassword = password ∧ otherAddress = address ∧ otherDatabase = database := by
  constructor
  · intro hurl
    have hread := readUrl?_urlWith otherPassword otherAddress otherDatabase
    rw [hurl, readUrl?_urlWith] at hread
    simpa [eq_comm] using hread
  · rintro ⟨rfl, rfl, rfl⟩
    rfl

/-- The connection URL loses nothing: it reads back, so the URLs of different passwords, addresses
or databases differ. -/
theorem url_loses_nothing (password : String) (loginTimeout : Option Number)
    (address database : String) :
    ∃ text, url { password := password, loginTimeout } address database = .ok text ∧
      readUrl? text = some ⟨password, address, database⟩ ∧
      ∀ (other : Access) (otherAddress otherDatabase : String),
        other.url otherAddress otherDatabase = .ok text ↔
          other.password = password ∧ otherAddress = address ∧ otherDatabase = database := by
  refine ⟨_, url_of_plain address database rfl, readUrl?_urlWith password address database,
    fun other otherAddress otherDatabase => ?_⟩
  cases hplain : other.password.plain? with
  | some otherPassword =>
    have hother : other.password = otherPassword := WideText.plain?_eq_some_iff.1 hplain
    rw [url_of_plain _ _ hother, Except.ok.injEq, urlWith_inj, hother]
    simp
  | none =>
    have hwide : other.password.isPlain = false := by
      simpa [WideText.plain?] using hplain
    obtain ⟨message, hfault⟩ := url_of_not_plain otherAddress otherDatabase hwide
    rw [hfault]
    constructor
    · intro h
      cases h
    · intro h
      rw [h.1] at hwide
      cases hwide

example : readUrl? (urlWith "p@s?" "h@?:1433" "a?b") = some ⟨"p@s?", "h@?:1433", "a?b"⟩ := by
  decide +kernel

end SeededServer.Access
