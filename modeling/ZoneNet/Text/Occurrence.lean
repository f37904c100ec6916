/-!
# One text inside another

`occursIn_iff` — the check says exactly whether a text is a stretch of another one.
-/

namespace ZoneNet.Text

variable {α : Type} [DecidableEq α]

/-- Whether `p` stands somewhere in a text. -/
def occursIn (p : List α) : List α → Bool
  | [] => p.isEmpty
  | c :: r => p.isPrefixOf (c :: r) || occursIn p r

theorem occursIn_iff {p l : List α} : occursIn p l = true ↔ p <:+: l := by
  induction l with
  | nil => simp [occursIn]
  | cons c r ih =>
    rw [occursIn, Bool.or_eq_true, List.isPrefixOf_iff_prefix, ih, List.infix_cons_iff]

end ZoneNet.Text
