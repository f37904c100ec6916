/-!
# Joining paths

A relative path is put behind a base with one separator between; an absolute path takes the place
of the base. Nothing else is changed.
-/

namespace ZoneNet.Text

/-- The path that `rel` names when seen from `base`. -/
def joinPath (base rel : String) : String :=
  let b := base.toList
  let r := rel.toList
  if r.head? = some '/' then rel
  else if b = [] ∨ b.getLast? = some '/' then String.ofList (b ++ r)
  else String.ofList (b ++ '/' :: r)

example : joinPath "/native" "sbin/tool" = "/native/sbin/tool" := by decide
example : joinPath "/native/" "sbin" = "/native/sbin" := by decide
example : joinPath "/native" "/sbin" = "/sbin" := by decide
example : joinPath "" "sbin" = "sbin" := by decide

end ZoneNet.Text
