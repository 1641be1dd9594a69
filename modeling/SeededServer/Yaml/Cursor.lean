import SeededServer.Fault
import SeededServer.Text.Basic

/-!
# Reading a document character by character

A cursor stands before the next character of a document and knows how far it has come. Reading is a
computation on a cursor that may find the document not well formed. Every carriage return of a file
is read as a line feed before, so it needs no rule here.
-/
namespace SeededServer.Yaml

def allowedRanges : List (Nat × Nat) := [
  (0x9, 0xA), (0xD, 0xD), (0x20, 0x7E), (0x85, 0x85), (0xA0, 0xD7FF), (0xE000, 0xFFFD),
  (0x10000, 0x10FFFF)]

def isAllowed (c : Char) : Bool := Text.inRanges allowedRanges c

/-- The byte order mark, which may stand at the start of a document and takes no column. -/
def byteOrderMark : Char := '\uFEFF'

def isBreak (c : Char) : Bool := c ∈ ['\n', '\u0085', '\u2028', '\u2029']

def isSpace (c : Char) : Bool := c = ' ' || c = '\t'

/-- The end of the document or a line break. -/
def atBreak : Option Char → Bool
  | none => true
  | some c => isBreak c

/-- The end of the document, a line break, or a space or tab. -/
def atGap : Option Char → Bool
  | none => true
  | some c => isBreak c || isSpace c

/-- The end of the document, a line break, or a space; a tab is none of these. -/
def atWordEnd : Option Char → Bool
  | none => true
  | some c => isBreak c || c = ' '

structure Cursor where
  rest : List Char
  index : Nat := 0
  line : Nat := 0
  column : Nat := 0

namespace Cursor

def peek (c : Cursor) (k : Nat := 0) : Option Char := c.rest[k]?

def step (c : Cursor) : Cursor :=
  match c.rest with
  | [] => c
  | ch :: rest =>
    if isBreak ch then ⟨rest, c.index + 1, c.line + 1, 0⟩
    else ⟨rest, c.index + 1, c.line, if ch = byteOrderMark then c.column else c.column + 1⟩

def move : Nat → Cursor → Cursor
  | 0, c => c
  | n + 1, c => move n c.step

/-- Whether the three characters here are a document marker: dashes or dots, and a gap after. -/
def atMarker (c : Cursor) (mark : Char) : Bool :=
  c.rest.take 3 = [mark, mark, mark] && atGap (c.peek 3)

def atAnyMarker (c : Cursor) : Bool := c.atMarker '-' || c.atMarker '.'

end Cursor

abbrev Reading := StateT Cursor (Except Fault)

namespace Reading

def malformed {α : Type} : Reading α := throw (.outside .markup)

def peek (k : Nat := 0) : Reading (Option Char) := return (← get).peek k

def move (n : Nat := 1) : Reading Unit := modify (Cursor.move n)

def takeWhile (p : Char → Bool) : Reading (List Char) := do
  let taken := (← get).rest.takeWhile p
  move taken.length
  return taken

def takeLine : Reading (List Char) := takeWhile (!isBreak ·)

/-- Reads a line break, if there is one here. The next-line character counts as a line feed. -/
def lineBreak : Reading (List Char) := do
  match ← peek with
  | some c =>
    if isBreak c then
      move
      return [if c = '\u0085' then '\n' else c]
    else return []
  | none => return []

def skipComment : Reading Unit := do
  if (← peek) = some '#' then
    let _ ← takeLine

/-- Reads to the next line. There may be a comment on the rest of this one, but nothing else. -/
def nextLine : Reading Unit := do
  let _ ← takeWhile (· = ' ')
  skipComment
  if !atBreak (← peek) then malformed
  let _ ← lineBreak

end Reading

end SeededServer.Yaml
