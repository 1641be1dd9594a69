import SeededServer.Address
import SeededServer.Advice
import SeededServer.Run
import SeededServer.Text.Percent

/-!
# Access to the server

Sessions are opened as the administrator, with every statement committed on its own. The connection
URL holds the same account, with the password and the database percent-encoded.
-/
namespace SeededServer

structure Access where
  password : WideText
  loginTimeout : Option Number := some (.int 10)

namespace Access

def user : String := "sa"

/-- The database that every server has. -/
def masterDatabase : String := "master"

/-- The fault of a text that UTF-8 cannot encode. It names the surrogates that come first. -/
def unencodable (position : Nat) (surrogate : Fin 2048) (row : Nat) : Fault :=
  .other .unencodable <| "'utf-8' codec can't encode character" ++
    (if row = 1 then
      " '\\u" ++ String.ofList (Text.hexDigits 4 (0xD800 + surrogate.val)) ++ "' in position "
        ++ Number.intText position
    else
      "s in position " ++ Number.intText position ++ "-"
        ++ Number.intText (position + row - 1 : Nat))
    ++ ": surrogates not allowed"

def urlPart (s : String) : String := String.ofList (Text.Percent.encode s.toList)

def urlWith (password address database : String) : String :=
  "sqlserver://" ++ user ++ ":" ++ urlPart password ++ "@" ++ address ++ "?database="
    ++ urlPart database

/-- The connection URL of a database, if the password can be encoded. -/
def url (access : Access) (address database : String) : Except Fault String :=
  match access.password with
  | ⟨password, []⟩ => .ok (urlWith password address database)
  | ⟨text, (surrogate, behind) :: rest⟩ =>
    .error (unencodable text.length surrogate (WideText.firstRow ((surrogate, behind) :: rest)))

section Url

variable {access : Access} (address database : String)

theorem url_of_plain {password : String} (h : access.password = password) :
    access.url address database = .ok (urlWith password address database) := by
  rw [url, h]

/-- The fault of a password that cannot be encoded does not depend on the address. -/
theorem url_of_not_plain (h : access.password.isPlain = false) :
    ∃ message, access.url address database = .error (.other .unencodable message) := by
  obtain ⟨⟨text, tail⟩, timeout⟩ := access
  cases tail with
  | nil => cases h
  | cons => exact ⟨_, rfl⟩

end Url

/-- Replaces the driver's own errors by a failed session with the database. -/
def orConnectionFailed {α : Type} (address database : String) (m : Run α) : Run α :=
  m.mapDriverError (Advice.connectionFailed address database)

def connect (access : Access) (address database : String) : Run Unit := do
  let (host, port) ← Run.ofExcept (Address.split address)
  Run.log .debug ("Connecting to " ++ database ++ " at " ++ address ++ " as " ++ user)
  orConnectionFailed address database <| Run.connect
    { server := host, port, user, password := access.password, database,
      timeout := access.loginTimeout, autocommit := true }

/-- Opens a session, and closes it whatever happens in it. -/
def withSession {α : Type} (access : Access) (address database : String) (body : Run α) :
    Run α := do
  access.connect address database
  Run.ensure body (Run.close database)

end Access

end SeededServer
