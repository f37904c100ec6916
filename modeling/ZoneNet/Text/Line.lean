/-!
# Lines

A text is cut after every line feed. Of a line that ends in a line feed, the line feed goes, and
with it one carriage return directly before it; a last line without a line feed is kept as it is.
Bytes and characters follow one rule, so the two marks are parameters.
-/

namespace ZoneNet.Text

variable {α : Type} [DecidableEq α]

/-- Puts one more symbol in front of a text that is already in lines. -/
def prependToLines (lf c : α) (ls : List (List α)) : List (List α) :=
  if c = lf then [c] :: ls
  else
    match ls with
    | [] => [[c]]
    | l :: ls => (c :: l) :: ls

/-- The lines of a text, each with its end. -/
def terminated (lf : α) (l : List α) : List (List α) := l.foldr (prependToLines lf) []

theorem terminated_cons (lf c : α) (l : List α) :
    terminated lf (c :: l) = prependToLines lf c (terminated lf l) := rfl

/-- A line without its end. -/
def dropEnd (lf cr : α) (l : List α) : List α :=
  match l.reverse with
  | c :: r =>
    if c = lf then
      match r with
      | d :: q => if d = cr then q.reverse else r.reverse
      | [] => []
    else l
  | [] => []

/-- The lines of a text of characters, without their ends. -/
def lines (l : List Char) : List (List Char) := (terminated '\n' l).map (dropEnd '\n' '\r')

example : lines "a\r\n\nb\r".toList = ["a".toList, [], "b\r".toList] := by decide

end ZoneNet.Text
