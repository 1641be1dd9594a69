import SeededServer.Yaml.Property

/-!
# Nodes

A document is a tree of nodes. A mapping may take in the entries of other mappings, under a key of
its own kind; they stand in front of its own entries, which count before them, since of a key that
is repeated the last value counts.
-/
namespace SeededServer.Yaml

inductive Node where
  | scalar (plain : Bool) (text : List Char)
  | sequence (items : List Node)
  | mapping (entries : List (Node × Node))
  /-- A mapping that should take in what is no mapping. -/
  | unmergeable
  /-- A node with a tag that has no meaning here. -/
  | foreign

namespace Node

def empty : Node := .scalar true []

/-- The node with a tag: the lone tag makes a scalar a plain one. -/
def withTag (tag : Option Tag) (node : Node) : Node :=
  match tag, node with
  | none, node => node
  | some .lone, .scalar _ text => .scalar true text
  | some .lone, node => node
  | some _, _ => .foreign

/-! ## Merging -/

/-- Whether the node is the key under which stand the mappings to be taken in. -/
def isMergeKey : Node → Bool
  | .scalar true ['<', '<'] => true
  | _ => false

def entries? : Node → Option (List (Node × Node))
  | .mapping entries => some entries
  | _ => none

/-- The entries to be taken in: those of a mapping, or of all mappings of a sequence, the ones of
its first mapping last. -/
def taken? : Node → Option (List (Node × Node))
  | .sequence items => (items.reverse.mapM entries?).map List.flatten
  | node => node.entries?

def ofEntries (entries : List (Node × Node)) : Node :=
  let (merging, own) := entries.partition (·.1.isMergeKey)
  match merging.mapM (·.2.taken?) with
  | some taken => .mapping (taken.flatten ++ own)
  | none => .unmergeable

end Node

end SeededServer.Yaml
