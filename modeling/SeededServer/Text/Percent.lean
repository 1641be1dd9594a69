import SeededServer.Text.Quoted

/-!
# Percent encoding

In a part of a URL every character but the unreserved ones is written as its UTF-8 bytes, each a
percent sign and two upper-case hexadecimal digits. `decode` is the reader of such a part.
-/
namespace SeededServer.Text.Percent

/-- The characters that no part of a URL reserves. -/
def isUnreserved (c : Char) : Bool :=
  c.isAlphanum || c ∈ ['_', '.', '-', '~']

def encodeByte (b : UInt8) : List Char :=
  '%' :: (hexDigits 2 b.toNat).map Char.toUpper

/-- A character stands for itself or for its bytes. -/
def encodeChar (c : Char) : List Char :=
  if isUnreserved c then [c] else (String.utf8EncodeChar c).flatMap encodeByte

def encode (cs : List Char) : List Char := cs.flatMap encodeChar

def hexValue? (c : Char) : Option Nat :=
  if '0' ≤ c ∧ c ≤ '9' then some (c.toNat - '0'.toNat)
  else if 'A' ≤ c ∧ c ≤ 'F' then some (c.toNat - 'A'.toNat + 10)
  else if 'a' ≤ c ∧ c ≤ 'f' then some (c.toNat - 'a'.toNat + 10)
  else none

/-- The bytes that an encoded part stands for; a percent sign has to have its two digits. -/
def decodeBytes : List Char → Option (List UInt8)
  | [] => some []
  | '%' :: high :: low :: rest => do
    let byte := UInt8.ofNat ((← hexValue? high) * 16 + (← hexValue? low))
    return byte :: (← decodeBytes rest)
  | c :: rest =>
    if c = '%' then none else (decodeBytes rest).map (String.utf8EncodeChar c ++ ·)

/-- The text that an encoded part stands for, if its bytes are UTF-8. -/
def decode (cs : List Char) : Option (List Char) := do
  let bytes ← decodeBytes cs
  let text ← String.fromUTF8? ⟨bytes.toArray⟩
  return text.toList

end SeededServer.Text.Percent
