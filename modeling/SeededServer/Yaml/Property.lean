import SeededServer.Text.Percent
import SeededServer.Yaml.Cursor

/-!
# Properties of nodes

In front of a node may stand an anchor, by which aliases refer to it, and a tag. Only the lone tag
has a meaning in a configuration: a scalar with it means what a plain one means. What a longer tag
names is not looked at, but it has to be written as it should: it starts with a handle, and its
percent escapes are UTF-8.
-/
namespace SeededServer.Yaml

open Reading

/-- The characters of a name: ASCII letters and digits, dashes and underscores. -/
def isNameChar (c : Char) : Bool := c.isAlphanum || c = '-' || c = '_'

def name : Reading (List Char) := do
  let name ← takeWhile isNameChar
  if name.isEmpty then malformed
  return name

/-! ## Anchors and aliases -/

/-- The characters besides gaps that may follow the name of an anchor or of an alias. -/
def anchorEnds : List Char := ['?', ':', ',', ']', '}', '%', '@', '\x60']

/-- Reads an anchor or an alias from its sign on: the name behind it. -/
def anchorName : Reading (List Char) := do
  move
  let name ← name
  let next ← peek
  if !(atGap next || next.any (· ∈ anchorEnds)) then malformed
  return name

/-! ## Tags -/

inductive Tag where
  | lone
  | shorthand (handle : List Char)
  | verbatim
  deriving DecidableEq, Repr

def shortHandle : List Char := ['!']

/-- The handles that need not be declared. -/
def knownHandles : List (List Char) := [shortHandle, ['!', '!']]

/-- Reads a handle: the sign alone if a space follows, or else a name between two signs. -/
def handle : Reading (List Char) := do
  if (← peek) ≠ some '!' then malformed
  move
  if (← peek) = some ' ' then return shortHandle
  let name ← takeWhile isNameChar
  if (← peek) ≠ some '!' then malformed
  move
  return '!' :: name ++ ['!']

def isTagChar (c : Char) : Bool :=
  c.isAlphanum || c ∈ ['-', ';', '/', '?', ':', '@', '&', '=', '+', '$', ',', '_', '.', '!', '~',
    '*', '\'', '(', ')', '[', ']', '%']

def tagName : Reading Unit := do
  let name ← takeWhile isTagChar
  if name.isEmpty || (Text.Percent.decode name).isNone then malformed

/-- Reads a tag behind its opening angle bracket. -/
def verbatimTag : Reading Tag := do
  tagName
  if (← peek) ≠ some '>' then malformed
  move
  return .verbatim

/-- Reads a tag that starts with a handle. Without a second sign, the first one is the handle. -/
def shorthandTag : Reading Tag := do
  let word := (← get).rest.takeWhile fun c => !atWordEnd (some c)
  let handle ← if word.tail.contains '!' then handle else do
    move
    pure shortHandle
  tagName
  return .shorthand handle

def tag : Reading Tag := do
  let next ← peek 1
  let tag ←
    if next = some '<' then do
      move 2
      verbatimTag
    else if atGap next then do
      move
      pure .lone
    else shorthandTag
  if !atWordEnd (← peek) then malformed
  return tag

end SeededServer.Yaml
