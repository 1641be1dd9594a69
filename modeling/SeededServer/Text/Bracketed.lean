/-!
# Bracketed identifiers

An identifier of the server's language may be written in square brackets. A closing bracket inside
it is written twice; the first one that stands alone ends the identifier.
-/
namespace SeededServer.Text.Bracketed

def double : List Char → List Char
  | [] => []
  | c :: rest => if c = ']' then ']' :: ']' :: double rest else c :: double rest

def quote (name : List Char) : List Char := '[' :: double name ++ [']']

/-- Reads up to the closing bracket that stands alone: the identifier, and what follows it. -/
def scanInside : List Char → Option (List Char × List Char)
  | [] => none
  | ']' :: ']' :: rest => (scanInside rest).map fun (name, after) => (']' :: name, after)
  | c :: rest =>
    if c = ']' then some ([], rest)
    else (scanInside rest).map fun (name, after) => (c :: name, after)

def scan : List Char → Option (List Char × List Char)
  | '[' :: rest => scanInside rest
  | _ => none

/-- Undoes `double`: of every two closing brackets in a row one is left. -/
def undouble : List Char → List Char
  | ']' :: ']' :: rest => ']' :: undouble rest
  | c :: rest => c :: undouble rest
  | [] => []

end SeededServer.Text.Bracketed
