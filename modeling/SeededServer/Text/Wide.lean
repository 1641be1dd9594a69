import SeededServer.Text.Basic

/-!
# Wide texts

A text that comes from outside may hold surrogates, code points that stand for no character: a byte
of the command line that is not UTF-8 becomes one. Nothing but a text without surrogates can be
written as UTF-8.

A wide text is given by the text in front of its first surrogate and by the surrogates, each with
the text up to the next one, so that every wide text is written in one way.
-/
namespace SeededServer

/-- A text that may hold surrogates. -/
structure WideText where
  head : String
  /-- The surrogates, counted from U+D800, each with the text behind it. -/
  tail : List (Fin 2048 × String) := []
  deriving DecidableEq, Repr

namespace WideText

instance : Coe String WideText := ⟨fun s => { head := s }⟩

def isPlain (t : WideText) : Bool := t.tail.isEmpty

def plain? (t : WideText) : Option String := if t.isPlain then some t.head else none

def prepend (s : String) (t : WideText) : WideText := { t with head := s ++ t.head }

/-- How many surrogates in a row come first. -/
def firstRow : List (Fin 2048 × String) → Nat
  | [] => 0
  | (_, behind) :: rest => if behind.isEmpty then firstRow rest + 1 else 1

@[simp] theorem plain?_coe (s : String) : (s : WideText).plain? = some s := rfl

theorem plain?_eq_some_iff {t : WideText} {s : String} : t.plain? = some s ↔ t = s := by
  obtain ⟨head, tail⟩ := t
  cases tail with
  | nil => simp [plain?, isPlain]
  | cons => simp [plain?, isPlain]

end WideText

end SeededServer
