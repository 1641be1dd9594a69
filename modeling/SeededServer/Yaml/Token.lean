import SeededServer.Yaml.Directive
import SeededServer.Yaml.Scalar

/-!
# Tokens

A document as a list of tokens. Collections that are written by indentation alone get tokens for
their start and their end. A key of a mapping is recognised only by the colon after it, so its token
is put in afterwards, in front of what turns out to be the key: a node may be such a key if it
stands where one may start, lies on one line, and has at most 1024 characters.

A document need not be read to its end to be refused: a fault counts only for who gets to it. So the
tokens in front of a fault are kept, as far as they stand: none that may still get a key token in
front of it.
-/
namespace SeededServer.Yaml

inductive Token where
  | directive (directive : Directive)
  | documentStart
  | documentEnd
  | streamEnd
  | blockSequenceStart
  | blockMappingStart
  | blockEnd
  | flowSequenceStart
  | flowSequenceEnd
  | flowMappingStart
  | flowMappingEnd
  | blockEntry
  | flowEntry
  | key
  | value
  | anchor (name : List Char)
  | reference (name : List Char)
  | tag (tag : Tag)
  | scalar (plain : Bool) (text : List Char)
  deriving DecidableEq, Repr

/-- The tokens of a document, and the fault of who reads on behind them. -/
structure TokenStream where
  tokens : List Token
  beyond : Fault

structure KeyCandidate where
  position : Nat
  required : Bool
  index : Nat
  line : Nat
  column : Nat

structure Tokenizer where
  /-- The tokens so far, the last one first. -/
  tokens : List Token := []
  depth : Nat := 0
  /-- The column of the innermost block collection, and those of the ones around it. -/
  indent : Int := -1
  outer : List Int := []
  keyAllowed : Bool := true
  candidates : List (Nat × KeyCandidate) := []

abbrev Tokenizing := StateT Tokenizer Reading

namespace Tokenizing

def here : Tokenizing Cursor := StateT.lift get

def malformed {α : Type} : Tokenizing α := throw (.outside .markup)

def inFlow : Tokenizing Bool := return (← get).depth ≠ 0

def emit (token : Token) : Tokenizing Unit :=
  modify fun s => { s with tokens := token :: s.tokens }

/-- Puts a token in after the first `position` ones. -/
def insertAt (position : Nat) (token : Token) : Tokenizing Unit :=
  modify fun s =>
    let later := s.tokens.length - position
    { s with tokens := s.tokens.take later ++ token :: s.tokens.drop later }

def allowKey (allowed : Bool) : Tokenizing Unit := modify fun s => { s with keyAllowed := allowed }

/-- Drops the possible key of the current depth; one that had to become a key is an error. -/
def dropCandidate : Tokenizing Unit := do
  let s ← get
  if (Entries.get? s.candidates s.depth).any (·.required) then malformed
  set { s with candidates := s.candidates.filter (·.1 ≠ s.depth) }

/-- Notes that what starts here may turn out to be a key. -/
def noteCandidate : Tokenizing Unit := do
  if (← get).keyAllowed then
    dropCandidate
    let s ← get
    let c ← here
    let candidate : KeyCandidate :=
      { position := s.tokens.length, required := s.depth = 0 && s.indent = c.column,
        index := c.index, line := c.line, column := c.column }
    set { s with candidates := Entries.put s.depth candidate s.candidates }

/-- Whether a node that started there can no longer become a key. -/
def isStale (c : Cursor) (candidate : KeyCandidate) : Bool :=
  candidate.line ≠ c.line || 1024 < c.index - candidate.index

def dropStale : Tokenizing Unit := do
  let c ← here
  let s ← get
  if s.candidates.any fun entry => isStale c entry.2 && entry.2.required then malformed
  set { s with candidates := s.candidates.filter fun entry => !isStale c entry.2 }

/-- Opens a block collection at a column further in; whether it is a new one. -/
def pushIndent (column : Int) : Tokenizing Bool := do
  let s ← get
  if s.indent < column then
    set { s with indent := column, outer := s.indent :: s.outer }
    return true
  else return false

def popIndents (column : Int) : List Int → Tokenizing Unit
  | [] => return
  | around :: rest => do
    let s ← get
    if column < s.indent then
      set { s with indent := around, outer := rest, tokens := .blockEnd :: s.tokens }
      popIndents column rest

/-- Closes block collections that end at a column; inside flow collections columns do not count. -/
def unwind (column : Int) : Tokenizing Unit := do
  let s ← get
  if s.depth = 0 then popIndents column s.outer

/-- Moves on to the next token, over spaces, comments and line breaks. A line break lets a key
start, except inside flow collections. -/
def skipGaps : (fuel : Nat) → Tokenizing Unit
  | 0 => return
  | fuel + 1 => do
    let _ ← StateT.lift (Reading.takeWhile (· = ' '))
    StateT.lift Reading.skipComment
    let found ← StateT.lift Reading.lineBreak
    if !found.isEmpty then
      if !(← inFlow) then allowKey true
      skipGaps fuel

/-- Adds a token that is written with some characters. -/
def emitOver (token : Token) (length : Nat := 1) : Tokenizing Unit := do
  StateT.lift (Reading.move length)
  emit token

def readEnd : Tokenizing Unit := do
  unwind (-1)
  dropCandidate
  emit .streamEnd

def readMarker (token : Token) : Tokenizing Unit := do
  unwind (-1)
  dropCandidate
  allowKey false
  emitOver token 3

def readDirective : Tokenizing Unit := do
  unwind (-1)
  dropCandidate
  allowKey false
  emit (.directive (← StateT.lift Directive.read))

def readFlowStart (token : Token) : Tokenizing Unit := do
  noteCandidate
  modify fun s => { s with depth := s.depth + 1 }
  allowKey true
  emitOver token

def readFlowEnd (token : Token) : Tokenizing Unit := do
  dropCandidate
  if !(← inFlow) then malformed
  modify fun s => { s with depth := s.depth - 1 }
  allowKey false
  emitOver token

def readFlowEntry : Tokenizing Unit := do
  allowKey true
  dropCandidate
  emitOver .flowEntry

/-- Opens a block collection at the current column, where a key may start. -/
def openBlock (token : Token) : Tokenizing Unit := do
  if !(← inFlow) then
    if !(← get).keyAllowed then malformed
    if ← pushIndent (← here).column then emit token

def readBlockEntry : Tokenizing Unit := do
  openBlock .blockSequenceStart
  allowKey true
  dropCandidate
  emitOver .blockEntry

def readKey : Tokenizing Unit := do
  openBlock .blockMappingStart
  allowKey !(← inFlow)
  dropCandidate
  emitOver .key

/-- A colon in front of a value. What stands before it is the key, if it may be one. -/
def readValue : Tokenizing Unit := do
  let s ← get
  match Entries.get? s.candidates s.depth with
  | some candidate =>
    set { s with candidates := s.candidates.filter (·.1 ≠ s.depth) }
    insertAt candidate.position .key
    if !(← inFlow) then
      if ← pushIndent candidate.column then insertAt candidate.position .blockMappingStart
    allowKey false
  | none =>
    openBlock .blockMappingStart
    allowKey !(← inFlow)
    dropCandidate
  emitOver .value

def readProperty (property : Reading Token) : Tokenizing Unit := do
  noteCandidate
  allowKey false
  emit (← StateT.lift property)

def readBlockScalar (folded : Bool) : Tokenizing Unit := do
  allowKey true
  dropCandidate
  let text ← StateT.lift (blockScalar folded (← get).indent)
  emit (.scalar false text)

def readQuotedScalar (double : Bool) : Tokenizing Unit := do
  noteCandidate
  allowKey false
  let text ← StateT.lift (quotedScalar double)
  emit (.scalar false text)

def readPlainScalar : Tokenizing Unit := do
  noteCandidate
  let (text, broken) ← StateT.lift (plainScalar (← inFlow) (← get).indent)
  allowKey broken
  emit (.scalar true text)

def indicators : List Char :=
  ['-', '?', ':', ',', '[', ']', '{', '}', '#', '&', '*', '!', '|', '>', '\'', '"', '%', '@',
    '\x60']

def startsPlain (inFlow : Bool) (c : Cursor) (ch : Char) : Bool :=
  !(isBreak ch || isSpace ch || ch ∈ indicators)
    || (!atGap (c.peek 1) && (ch = '-' || (!inFlow && (ch = '?' || ch = ':'))))

def readToken (c : Cursor) (ch : Char) : Tokenizing Unit := do
  let inFlow ← inFlow
  let gap := atGap (c.peek 1)
  if c.column = 0 && ch = '%' then readDirective
  else if c.column = 0 && c.atMarker '-' then readMarker .documentStart
  else if c.column = 0 && c.atMarker '.' then readMarker .documentEnd
  else if ch = '[' then readFlowStart .flowSequenceStart
  else if ch = '{' then readFlowStart .flowMappingStart
  else if ch = ']' then readFlowEnd .flowSequenceEnd
  else if ch = '}' then readFlowEnd .flowMappingEnd
  else if ch = ',' then readFlowEntry
  else if ch = '-' && gap then readBlockEntry
  else if ch = '?' && (inFlow || gap) then readKey
  else if ch = ':' && (inFlow || gap) then readValue
  else if ch = '*' then readProperty (.reference <$> anchorName)
  else if ch = '&' then readProperty (.anchor <$> anchorName)
  else if ch = '!' then readProperty (.tag <$> tag)
  else if ch = '|' && !inFlow then readBlockScalar false
  else if ch = '>' && !inFlow then readBlockScalar true
  else if ch = '\'' then readQuotedScalar false
  else if ch = '"' then readQuotedScalar true
  else if startsPlain inFlow c ch then readPlainScalar
  else malformed

/-- Reads on to the next tokens; whether they are the last ones. -/
def step : Tokenizing Bool := do
  skipGaps ((← here).rest.length + 1)
  dropStale
  let c ← here
  unwind c.column
  match c.peek with
  | none =>
    readEnd
    return true
  | some ch =>
    readToken c ch
    return false

end Tokenizing

/-- The tokens that stand: all of them in front of the first one that may still become a key. -/
def Tokenizer.settled (s : Tokenizer) (c : Cursor) : List Token :=
  let pending := s.candidates.filter fun entry => !Tokenizing.isStale c entry.2
  s.tokens.reverse.take (pending.foldl (fun n entry => min n entry.2.position) s.tokens.length)

/-- Reads tokens up to the end of the document or to a fault. -/
def Tokenizer.read (s : Tokenizer) (c : Cursor) : (fuel : Nat) → TokenStream
  | 0 => ⟨s.settled c, .outside .markup⟩
  | fuel + 1 =>
    match (Tokenizing.step.run s).run c with
    | .ok ((true, s), _) => ⟨s.tokens.reverse, .outside .markup⟩
    | .ok ((false, s), c) => s.read c fuel
    | .error fault => ⟨s.settled c, fault⟩

/-- The tokens of a document. It may hold no character that a document may not hold, wherever. -/
def TokenStream.ofText (text : List Char) : Except Fault TokenStream :=
  if text.all isAllowed then
    let body := if text.head? = some byteOrderMark then text.tail else text
    .ok (Tokenizer.read {} { rest := body } (body.length + 1))
  else .error (.outside .markup)

end SeededServer.Yaml
