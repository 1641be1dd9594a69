import SeededServer.Number.Reading
import SeededServer.Yaml.Property

/-!
# Directives

Lines in front of a document that tell how it is to be read. The version of the language may be
given once and is 1 point something; handles of tags are declared once each; any other directive is
skipped.
-/
namespace SeededServer.Yaml

open Reading

inductive Directive where
  /-- The version of the language; of its numbers only the first one counts. -/
  | version (major : Int)
  | handle (name : List Char)
  | other
  deriving DecidableEq, Repr

namespace Directive

/-- Reads a number; one that is too long is no fault of the markup. -/
def number : Reading Int := do
  let digits ← takeWhile Char.isDigit
  if digits.isEmpty then malformed
  match Number.readInt digits with
  | .ok n => return n
  | .error refusal => throw (.other .badValue (refusal.message (Text.quoted digits)))

def readVersion : Reading Directive := do
  let _ ← takeWhile (· = ' ')
  let major ← number
  if (← peek) ≠ some '.' then malformed
  move
  let _ ← number
  return version major

def readHandle : Reading Directive := do
  let _ ← takeWhile (· = ' ')
  let name ← Yaml.handle
  if (← peek) ≠ some ' ' then malformed
  let _ ← takeWhile (· = ' ')
  tagName
  return handle name

/-- Reads a directive from its sign on, and its line with it. -/
def read : Reading Directive := do
  move
  let name ← name
  if !atWordEnd (← peek) then malformed
  let directive ←
    if name = "YAML".toList then readVersion
    else if name = "TAG".toList then readHandle
    else do
      let _ ← takeLine
      pure other
  if !atWordEnd (← peek) then malformed
  nextLine
  return directive

def handle? : Directive → Option (List Char)
  | handle name => some name
  | _ => none

def version? : Directive → Option Int
  | version major => some major
  | _ => none

/-- Whether directives may stand together in front of a document. -/
def areSound (directives : List Directive) : Bool :=
  directives.filterMap version? ∈ [[], [1]] && (directives.filterMap handle?).Nodup

end Directive

end SeededServer.Yaml
