/-!
# The height of a pattern

How deep the parts of a pattern are nested. A sequence of parts is one more level only if it holds
more than one part.
-/

namespace ZoneNet.Text.Pattern

/-- The greatest height that a pattern may have. -/
def maxHeight : Nat := 250

/-- What is known of parts that stand side by side. -/
structure Sequence where
  size : Nat := 0
  /-- The height of the highest part. -/
  highest : Nat := 0
  deriving DecidableEq, Repr

namespace Sequence

/-- One part more, of a height. -/
def push (q : Sequence) (height : Nat) : Sequence := ⟨q.size + 1, max q.highest height⟩

def height (q : Sequence) : Nat := if q.size ≤ 1 then q.highest else q.highest + 1

example : (push {} 3).height = 3 ∧ ((push {} 3).push 2).height = 4 := by decide

end Sequence

end ZoneNet.Text.Pattern
