import SeededServer.Text.Percent
import SeededServer.Yaml.Cursor

/-!
# Scalars

The text of a scalar. A plain scalar has no quotes; a quoted one may hold escapes; a block scalar
takes whole lines below its header. A scalar may go over several lines: a single line break between
two lines of text is folded into a space, and of several the first one is left out.
-/
namespace SeededServer.Yaml

open Reading

/-- Joins the lines of a folded scalar: the first break, and the breaks of the empty lines. -/
def fold (first : List Char) (others : List Char) : List Char :=
  if first ≠ ['\n'] then first ++ others
  else if others.isEmpty then [' ']
  else others

/-! ## Plain scalars -/

/-- Whether a plain scalar ends before the character that is `k` places on. -/
def endsPlain (inFlow : Bool) (c : Cursor) (k : Nat) : Bool :=
  match c.peek k with
  | none => true
  | some ch =>
    isBreak ch || isSpace ch
      || (ch = ':' && (atGap (c.peek (k + 1))
          || (inFlow && (c.peek (k + 1)).any (· ∈ [',', '[', ']', '{', '}']))))
      || (inFlow && ch ∈ [',', '?', '[', ']', '{', '}'])

/-- How many characters a plain scalar goes on without a gap, counted from the `k`th one. -/
def plainLength (inFlow : Bool) (c : Cursor) : (fuel k : Nat) → Nat
  | 0, k => k
  | fuel + 1, k => if endsPlain inFlow c k then k else plainLength inFlow c fuel (k + 1)

/-- Reads the empty lines inside a plain scalar; nothing if a document marker follows. -/
def plainBreaks : (fuel : Nat) → List Char → Reading (Option (List Char))
  | 0, breaks => return some breaks
  | fuel + 1, breaks => do
    match ← peek with
    | some ' ' =>
      move
      plainBreaks fuel breaks
    | some c =>
      if isBreak c then
        let breaks := breaks ++ (← lineBreak)
        if (← get).atAnyMarker then return none else plainBreaks fuel breaks
      else return some breaks
    | none => return some breaks

/-- Reads the gap between two words of a plain scalar: what it stands for, and whether there is a
line break in it. -/
def plainGap : Reading (List Char × Bool) := do
  let spaces ← takeWhile (· = ' ')
  let first ← lineBreak
  if first.isEmpty then return (spaces, false)
  else if (← get).atAnyMarker then return ([], true)
  else match ← plainBreaks ((← get).rest.length + 1) [] with
    | none => return ([], true)
    | some others => return (fold first others, true)

def plainWords (inFlow : Bool) (indent : Int) :
    (fuel : Nat) → (gap text : List Char) → (broken : Bool) → Reading (List Char × Bool)
  | 0, _, text, broken => return (text, broken)
  | fuel + 1, gap, text, broken => do
    let c ← get
    let length := if c.peek = some '#' then 0 else plainLength inFlow c (c.rest.length + 1) 0
    if length = 0 then return (text, broken)
    else
      let text := text ++ gap ++ c.rest.take length
      move length
      let (gap, broken) ← plainGap
      let c ← get
      if gap.isEmpty || c.peek = some '#' || (!inFlow && c.column < indent) then
        return (text, broken)
      else plainWords inFlow indent fuel gap text broken

def plainScalar (inFlow : Bool) (indent : Int) : Reading (List Char × Bool) := do
  plainWords inFlow (indent + 1) ((← get).rest.length + 1) [] [] false

/-! ## Quoted scalars -/

def escapedChar? : Char → Option Char
  | '0' => some '\x00'
  | 'a' => some '\x07'
  | 'b' => some '\x08'
  | 't' => some '\t'
  | '\t' => some '\t'
  | 'n' => some '\n'
  | 'v' => some '\x0b'
  | 'f' => some '\x0c'
  | 'r' => some '\r'
  | 'e' => some '\x1b'
  | ' ' => some ' '
  | '"' => some '"'
  | '\\' => some '\\'
  | '/' => some '/'
  | 'N' => some '\u0085'
  | '_' => some '\u00A0'
  | 'L' => some '\u2028'
  | 'P' => some '\u2029'
  | _ => none

def escapeWidth? : Char → Option Nat
  | 'x' => some 2
  | 'u' => some 4
  | 'U' => some 8
  | _ => none

/-- The character of an escaped code point; there are code points up to U+10FFFF only. -/
def charOfCode (code : Nat) : Except Fault Char :=
  if code ≤ 0x10FFFF then .ok (Char.ofNat code)
  else if code < 0x80000000 then .error (.other .badValue "no such code point")
  else .error (.other .tooLarge "code point too large")

/-- Reads the empty lines inside a quoted scalar; there may be no document marker. -/
def quotedBreaks : (fuel : Nat) → List Char → Reading (List Char)
  | 0, breaks => return breaks
  | fuel + 1, breaks => do
    if (← get).atAnyMarker then malformed
    let _ ← takeWhile isSpace
    let found ← lineBreak
    if found.isEmpty then return breaks else quotedBreaks fuel (breaks ++ found)

def escape : Reading (List Char) := do
  match ← peek with
  | none => malformed
  | some c =>
    match escapedChar? c, escapeWidth? c with
    | some ch, _ =>
      move
      return [ch]
    | none, some width =>
      move
      let digits := (← get).rest.take width
      match digits.mapM Text.Percent.hexValue? with
      | some values =>
        if values.length < width then malformed
        else
          let ch ← charOfCode (values.foldl (fun n d => n * 16 + d) 0)
          move width
          return [ch]
      | none => malformed
    | none, none =>
      if isBreak c then
        let _ ← lineBreak
        quotedBreaks ((← get).rest.length + 1) []
      else malformed

/-- Reads the characters of a quoted scalar up to a space or the closing quote. -/
def quotedWord (double : Bool) : (fuel : Nat) → List Char → Reading (List Char)
  | 0, text => return text
  | fuel + 1, text => do
    let plain ← takeWhile fun c => !(isBreak c || isSpace c || c ∈ ['\'', '"', '\\'])
    let text := text ++ plain
    match double, ← peek, ← peek 1 with
    | false, some '\'', some '\'' =>
      move 2
      quotedWord double fuel (text ++ ['\''])
    | false, some '"', _ | true, some '\'', _ =>
      move
      quotedWord double fuel (text ++ [if double then '\'' else '"'])
    | false, some '\\', _ =>
      move
      quotedWord double fuel (text ++ ['\\'])
    | true, some '\\', _ =>
      move
      quotedWord double fuel (text ++ (← escape))
    | _, _, _ => return text

def quotedGap : Reading (List Char) := do
  let spaces ← takeWhile isSpace
  match ← peek with
  | none => malformed
  | some _ =>
    let first ← lineBreak
    if first.isEmpty then return spaces
    else return fold first (← quotedBreaks ((← get).rest.length + 1) [])

def quotedText (double : Bool) : (fuel : Nat) → List Char → Reading (List Char)
  | 0, _ => malformed
  | fuel + 1, text => do
    let text := text ++ (← quotedWord double ((← get).rest.length + 1) [])
    if (← peek) = some (if double then '"' else '\'') then
      move
      return text
    else quotedText double fuel (text ++ (← quotedGap))

def quotedScalar (double : Bool) : Reading (List Char) := do
  move
  quotedText double ((← get).rest.length + 1) []

/-! ## Block scalars -/

/-- What happens to the line breaks at the end of a block scalar. -/
inductive Chomping where
  | clip
  | strip
  | keep
  deriving DecidableEq, Repr

def chomping : Reading (Option Chomping) := do
  match ← peek with
  | some '+' =>
    move
    return some .keep
  | some '-' =>
    move
    return some .strip
  | _ => return none

def indentation : Reading (Option Nat) := do
  match ← peek with
  | some c =>
    if c.isDigit then
      if c = '0' then malformed
      move
      return some (c.toNat - '0'.toNat)
    else return none
  | none => return none

/-- Reads the header of a block scalar: both indicators in any order, and a comment. -/
def blockHeader : Reading (Chomping × Option Nat) := do
  let before ← chomping
  let increment ← indentation
  let after ← if before.isNone && increment.isSome then chomping else pure none
  if !atWordEnd (← peek) then malformed
  nextLine
  return ((before <|> after).getD .clip, increment)

def skipIndent (column : Int) : Reading Unit := do
  let c ← get
  let spaces := (c.rest.takeWhile (· = ' ')).length
  move (min spaces (column - c.column).toNat)

/-- Reads empty lines of a block scalar with a known indentation, up to its column. -/
def blockBreaks (column : Int) : (fuel : Nat) → List Char → Reading (List Char)
  | 0, breaks => return breaks
  | fuel + 1, breaks => do
    skipIndent column
    let found ← lineBreak
    if found.isEmpty then return breaks else blockBreaks column fuel (breaks ++ found)

/-- Reads empty lines before the first line of a block scalar: the breaks, and the most spaces that
a line starts with. -/
def leadingBreaks : (fuel : Nat) → List Char → Nat → Reading (List Char × Nat)
  | 0, breaks, most => return (breaks, most)
  | fuel + 1, breaks, most => do
    let _ ← takeWhile (· = ' ')
    let most := max most (← get).column
    let found ← lineBreak
    if found.isEmpty then return (breaks, most)
    else leadingBreaks fuel (breaks ++ found) most

/-- Reads the lines of a block scalar; `breaks` are the empty lines before the next one. -/
def blockLines (folded : Bool) (column : Int) (chomp : Chomping) :
    (fuel : Nat) → (breaks text last : List Char) → Reading (List Char)
  | 0, _, text, _ => return text
  | fuel + 1, breaks, text, last => do
    let c ← get
    if (c.column : Int) = column && c.peek.isSome then
      let flush := !c.peek.any isSpace
      let line ← takeLine
      let last ← lineBreak
      let text := text ++ breaks ++ line
      let breaks ← blockBreaks column ((← get).rest.length + 1) []
      let c ← get
      if (c.column : Int) = column && c.peek.isSome then
        let joint :=
          if folded && last = ['\n'] && flush && !c.peek.any isSpace then
            if breaks.isEmpty then [' '] else []
          else last
        blockLines folded column chomp fuel breaks (text ++ joint) last
      else
        return text ++ (if chomp = .strip then [] else last)
          ++ (if chomp = .keep then breaks else [])
    else
      return text ++ (if chomp = .strip then [] else last) ++ (if chomp = .keep then breaks else [])

/-- Reads a block scalar from its indicator on, inside a block of the given indentation. -/
def blockScalar (folded : Bool) (indent : Int) : Reading (List Char) := do
  move
  let (chomp, increment) ← blockHeader
  let least := max 1 (indent + 1)
  let fuel := (← get).rest.length + 1
  match increment with
  | none =>
    let (breaks, most) ← leadingBreaks fuel [] 0
    blockLines folded (max least most) chomp fuel breaks [] []
  | some increment =>
    let column := least + increment - 1
    let breaks ← blockBreaks column fuel []
    blockLines folded column chomp fuel breaks [] []

end SeededServer.Yaml
