import SeededServer.Access

/-!
# The liveness probe

A server is alive if it answers the liveness query with the integer 1. One probe opens one session
and never repeats itself.
-/
namespace SeededServer.Liveness

def query : String := "select 1"

/-- The integer 1; truth values and other numbers equal to 1 do not count. -/
def isOne : Value → Bool
  | .int n => n == 1
  | _ => false

/-- The value that a row answers with: its first one, if there is a row that has one. -/
def answer (row : Option Row) : Value := Value.ofOption (row.bind List.head?)

/-- The fault of an answer other than 1. -/
def unexpected (value : Value) : Fault :=
  .showing value.write fun text => .preset (.unexpectedHealth value)
    (Advice.message .unexpectedHealthcheckResult [("value", text)]) none

theorem unexpected_of_writable {value : Value} (h : value.isWritable = true) :
    unexpected value = .preset (.unexpectedHealth value)
      (Advice.message .unexpectedHealthcheckResult [("value", value.literal)]) none := by
  rw [unexpected, Value.write, if_pos h]
  rfl

theorem unexpected_of_not_writable {value : Value} (h : value.isWritable = false) :
    unexpected value = Number.tooLong := by
  simp [unexpected, Value.write, h, Fault.showing]

def probe (access : Access) (address : String) : Run Unit := do
  let database := Access.masterDatabase
  let row ← access.withSession address database <|
    Access.orConnectionFailed address database do
      Run.openCursor database
      Run.execute database query
      Run.fetch database
  let value := answer row
  if isOne value then Run.log .debug ("Healthcheck passed for " ++ address)
  else Run.raise (unexpected value)

end SeededServer.Liveness
