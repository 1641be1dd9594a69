import SeededServer.Text.Printable

/-!
# Quoted literals

A text or a byte string is shown inside a message as a quoted literal. The quote is the apostrophe,
unless the content has an apostrophe and no double quote. The quote itself, the backslash and
everything that is not printable are written as escapes.
-/
namespace SeededServer.Text

def hexDigit (n : Nat) : Char := (Nat.digitChar n)

/-- The last `width` hexadecimal digits of a number. -/
def hexDigits : (width : Nat) → Nat → List Char
  | 0, _ => []
  | width + 1, n => hexDigits width (n / 16) ++ [hexDigit (n % 16)]

/-- The quote that a literal with this content uses. -/
def quoteFor (hasApostrophe hasDoubleQuote : Bool) : Char :=
  if hasApostrophe && !hasDoubleQuote then '"' else '\''

/-- The escapes that texts and byte strings share, for a character below U+0080. -/
def shortEscape? (quote c : Char) : Option (List Char) :=
  if c = quote ∨ c = '\\' then some ['\\', c]
  else if c = '\t' then some ['\\', 't']
  else if c = '\n' then some ['\\', 'n']
  else if c = '\r' then some ['\\', 'r']
  else none

def escapeChar (quote c : Char) : List Char :=
  match shortEscape? quote c with
  | some escape => escape
  | none =>
    if isPrintable c then [c]
    else if c.toNat < 0x100 then '\\' :: 'x' :: hexDigits 2 c.toNat
    else if c.toNat < 0x10000 then '\\' :: 'u' :: hexDigits 4 c.toNat
    else '\\' :: 'U' :: hexDigits 8 c.toNat

def quoted (cs : List Char) : List Char :=
  let quote := quoteFor (cs.contains '\'') (cs.contains '"')
  quote :: cs.flatMap (escapeChar quote) ++ [quote]

/-- How a byte is written between the quotes: graphic ASCII stands for itself. -/
def escapeByte (quote : Char) (b : UInt8) : List Char :=
  let c := Char.ofNat b.toNat
  match shortEscape? quote c with
  | some escape => escape
  | none =>
    if 0x20 ≤ b ∧ b < 0x7F then [c] else '\\' :: 'x' :: hexDigits 2 b.toNat

def quotedBytes (bytes : List UInt8) : List Char :=
  let quote := quoteFor (bytes.contains 0x27) (bytes.contains 0x22)
  'b' :: quote :: bytes.flatMap (escapeByte quote) ++ [quote]

end SeededServer.Text
