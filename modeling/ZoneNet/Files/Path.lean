import ZoneNet.Text.Cut

/-!
# Paths

A path is taken apart at its separators. Parts that are empty or one dot lead nowhere, and two dots
lead to the directory above.
-/

namespace ZoneNet

/-- The names that lead from the top directory to a place. -/
abbrev Place := List String

namespace Path

def parts (path : String) : List String := (Text.pieces '/' path.toList).map String.ofList

/-- Whether a path begins at the top directory. -/
def isAbsolute (path : String) : Bool := path.toList.head? = some '/'

/-- Whether a part leads nowhere. -/
def isIdle (part : String) : Bool := part = "" || part = "."

/-- A path of parts. -/
def ofParts (ps : List String) : String := String.intercalate "/" ps

/-- Whether a separator stands at the end of a path. -/
def endsOpen (path : String) : Bool := path.toList.getLast? = some '/'

/-- The parts before the last one that is not empty. -/
def before (path : String) : List String :=
  (((parts path).reverse.dropWhile (· = "")).drop 1).reverse

/-- The parts above the last name of a path, the last part first. -/
def above (path : String) : List String := ((parts path).reverse.dropWhile isIdle).drop 1

/-- One part more from a place. -/
def follow (p : Place) (part : String) : Place :=
  if isIdle part then p else if part = ".." then p.dropLast else p ++ [part]

/-- The place that a path leads to if nothing stands in its way. -/
def place (here : Place) (path : String) : Place :=
  (parts path).foldl follow (if isAbsolute path then [] else here)

/-- The longest name, in bytes. -/
def longestName : Nat := 255

/-- The longest path, in bytes. -/
def longest : Nat := 4095

example : before "/a/b/." = ["", "a", "b"] ∧ before "/a/b//" = ["", "a"] := by decide
example : above "/a/b/." = ["a", ""] ∧ above "/a/b//" = ["a", ""] := by decide
example : place ["x"] "a/../b" = ["x", "b"] := by decide

end Path

end ZoneNet
