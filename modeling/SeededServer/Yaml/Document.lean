import SeededServer.Yaml.Node
import SeededServer.Yaml.Token

/-!
# Documents

A document as a tree of nodes, read from its tokens. An entry, a key or a value that is left out is
an empty plain scalar. An alias stands for the node with its anchor, which has to be complete by
then.

The fuel of a reader bounds how often readers call each other; four times the number of tokens
suffices for it, since at least one of four calls in a row takes a token.
-/
namespace SeededServer.Yaml.Document

/-- What is left of a document while its nodes are read, and what is known of it so far. -/
structure Source where
  stream : TokenStream
  handles : List (List Char) := knownHandles
  /-- The nodes with an anchor; a node that is not complete yet is missing. -/
  anchors : List (List Char × Option Node) := []

abbrev Taking := StateT Source (Except Fault)

def malformed {α : Type} : Taking α := throw (.outside .markup)

def next : Taking Token := do
  match (← get).stream with
  | ⟨token :: _, _⟩ => return token
  | ⟨[], beyond⟩ => throw beyond

def drop : Taking Unit :=
  modify fun s => { s with stream := { s.stream with tokens := s.stream.tokens.tail } }

def isNext (among : List Token) : Taking Bool := return among.contains (← next)

def takes (token : Token) : Taking Bool := do
  let found ← isNext [token]
  if found then drop
  return found

/-- Takes the comma in front of an entry of a flow collection; the first one has none. -/
def takesComma (first : Bool) : Taking Bool := if first then return true else takes .flowEntry

/-! ## Properties -/

def takesAnchor : Taking (Option (List Char)) := do
  match ← next with
  | .anchor name =>
    drop
    return some name
  | _ => return none

def takesTag : Taking (Option Tag) := do
  match ← next with
  | .tag tag =>
    drop
    return some tag
  | _ => return none

/-- Takes the properties of a node: an anchor and a tag in any order. -/
def takesProperties : Taking (Option (List Char) × Option Tag) := do
  match ← takesAnchor with
  | some name => return (some name, ← takesTag)
  | none =>
    match ← takesTag with
    | some tag => return (← takesAnchor, some tag)
    | none => return (none, none)

def isKnown (handles : List (List Char)) : Option Tag → Bool
  | some (.shorthand handle) => handles.contains handle
  | _ => true

/-- Notes the anchor of a node that begins here. There may be only one node with it. -/
def openAnchor : Option (List Char) → Taking Unit
  | none => return
  | some name => do
    let s ← get
    if Entries.has s.anchors name then malformed
    set { s with anchors := (name, none) :: s.anchors }

def closeAnchor (node : Node) : Option (List Char) → Taking Unit
  | none => return
  | some name => modify fun s => { s with anchors := Entries.put name (some node) s.anchors }

/-- The content of a node that has none: only a node with properties may be empty. -/
def absent : Option (List Char) × Option Tag → Taking Node
  | (none, none) => malformed
  | _ => return .empty

def referred (name : List Char) : Taking Node := do
  match Entries.get? (← get).anchors name with
  | some (some node) => return node
  | _ => malformed

/-! ## Collections -/

mutual

/-- A node. Block collections count only outside of flow collections; `indentless` lets a sequence
stand at the column of the mapping around it. A node with properties may be empty. -/
def node (block indentless : Bool) : (fuel : Nat) → Taking Node
  | 0 => malformed
  | fuel + 1 => do
    match ← next with
    | .reference name =>
      drop
      referred name
    | _ =>
      let (anchor, tag) ← takesProperties
      if !isKnown (← get).handles tag then malformed
      let token ← next
      openAnchor anchor
      let content ← match token with
        | .scalar plain text => do
          drop
          pure (.scalar plain text)
        | .flowSequenceStart => do
          drop
          pure (.sequence (← flowItems true fuel))
        | .flowMappingStart => do
          drop
          pure (.ofEntries (← flowEntries true fuel))
        | .blockEntry =>
          if indentless then do pure (.sequence (← indentlessItems fuel))
          else absent (anchor, tag)
        | .blockSequenceStart =>
          if block then do
            drop
            pure (.sequence (← blockItems fuel))
          else absent (anchor, tag)
        | .blockMappingStart =>
          if block then do
            drop
            pure (.ofEntries (← blockEntries fuel))
          else absent (anchor, tag)
        | _ => absent (anchor, tag)
      let node := content.withTag tag
      closeAnchor node anchor
      return node

/-- A node, unless one of the given tokens is next: then it is left out. -/
def nodeUnless (among : List Token) (block indentless : Bool) : (fuel : Nat) → Taking Node
  | 0 => malformed
  | fuel + 1 => do
    if ← isNext among then return .empty else node block indentless fuel

/-- The value of an entry; without a colon it is left out. -/
def valueUnless (among : List Token) (block indentless : Bool) : (fuel : Nat) → Taking Node
  | 0 => malformed
  | fuel + 1 => do
    if ← takes .value then nodeUnless among block indentless fuel else return .empty

def blockItems : (fuel : Nat) → Taking (List Node)
  | 0 => malformed
  | fuel + 1 => do
    if ← takes .blockEntry then
      let item ← nodeUnless [.blockEntry, .blockEnd] true false fuel
      return item :: (← blockItems fuel)
    else if ← takes .blockEnd then return []
    else malformed

def indentlessItems : (fuel : Nat) → Taking (List Node)
  | 0 => malformed
  | fuel + 1 => do
    if ← takes .blockEntry then
      let item ← nodeUnless [.blockEntry, .key, .value, .blockEnd] true false fuel
      return item :: (← indentlessItems fuel)
    else return []

def blockEntries : (fuel : Nat) → Taking (List (Node × Node))
  | 0 => malformed
  | fuel + 1 => do
    if ← takes .key then
      let key ← nodeUnless [.key, .value, .blockEnd] true true fuel
      let value ← valueUnless [.key, .value, .blockEnd] true true fuel
      return (key, value) :: (← blockEntries fuel)
    else if ← takes .blockEnd then return []
    else malformed

/-- The items of a flow sequence up to its end; all but the first stand behind a comma, and a comma
may stand at the end. An item may be a mapping of one entry. -/
def flowItems (first : Bool) : (fuel : Nat) → Taking (List Node)
  | 0 => malformed
  | fuel + 1 => do
    if ← takes .flowSequenceEnd then return []
    else if ← takesComma first then
      if ← takes .flowSequenceEnd then return []
      else if ← takes .key then
        let key ← nodeUnless [.value, .flowEntry, .flowSequenceEnd] false false fuel
        let value ← valueUnless [.flowEntry, .flowSequenceEnd] false false fuel
        return .ofEntries [(key, value)] :: (← flowItems false fuel)
      else
        let item ← node false false fuel
        return item :: (← flowItems false fuel)
    else malformed

/-- The entries of a flow mapping up to its end; all but the first stand behind a comma, and a comma
may stand at the end. An entry may be a key alone. -/
def flowEntries (first : Bool) : (fuel : Nat) → Taking (List (Node × Node))
  | 0 => malformed
  | fuel + 1 => do
    if ← takes .flowMappingEnd then return []
    else if ← takesComma first then
      if ← takes .flowMappingEnd then return []
      else if ← takes .key then
        let key ← nodeUnless [.value, .flowEntry, .flowMappingEnd] false false fuel
        let value ← valueUnless [.flowEntry, .flowMappingEnd] false false fuel
        return (key, value) :: (← flowEntries false fuel)
      else
        let key ← node false false fuel
        return (key, .empty) :: (← flowEntries false fuel)
    else malformed

end

/-! ## Documents -/

def directive? : Token → Option Directive
  | .directive directive => some directive
  | _ => none

def takesStart : Taking Unit := do
  let s ← get
  let directives := (s.stream.tokens.takeWhile (directive? · |>.isSome)).filterMap directive?
  if !Directive.areSound directives then malformed
  set { s with
    stream := { s.stream with tokens := s.stream.tokens.drop directives.length }
    handles := knownHandles ++ directives.filterMap Directive.handle? }
  if !(← takes .documentStart) then malformed

def takesEnds : Taking Unit := do
  let _ ← next
  modify fun s =>
    { s with stream := { s.stream with tokens := s.stream.tokens.dropWhile (· = .documentEnd) } }

/-- The root of a document: behind a start marker it may be left out. -/
def root (fuel : Nat) : Taking Node := do
  let token ← next
  if token = .documentStart || (directive? token).isSome then
    takesStart
    let token ← next
    if token ∈ [.documentStart, .documentEnd, .streamEnd] || (directive? token).isSome then
      return .empty
    else node true false fuel
  else node true false fuel

def document : Taking (Option Node) := do
  if ← isNext [.streamEnd] then return none
  let root ← root (4 * (← get).stream.tokens.length + 4)
  takesEnds
  if ← isNext [.streamEnd] then return some root
  takesStart
  malformed

/-- The root of the one document of a stream, if there is any. -/
def rootOf (stream : TokenStream) : Except Fault (Option Node) := do
  let (root, _) ← document.run { stream }
  return root

end SeededServer.Yaml.Document
