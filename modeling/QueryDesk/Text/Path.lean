import QueryDesk.Text.Search

/-!
# Paths

The last component of a path and the extension of a file name.
-/

namespace QueryDesk.Text

/-- The last component of a path that is not empty or a single dot. -/
def fileName? (path : String) : Option (List Char) :=
  let parts := (fields '/' path.toList).filter fun p => !p.isEmpty && p != ['.']
  match parts.getLast? with
  | some ['.', '.'] => none
  | other => other

/-- What follows the last dot of a file name that does not start with it. -/
def extension? (fileName : List Char) : Option (List Char) :=
  let parts := fields '.' fileName
  match parts with
  | [] | [_] | [[], _] => none
  | _ => parts.getLast?

/-- The extension of a path's last component. -/
def pathExtension? (path : String) : Option String :=
  ((fileName? path).bind extension?).map String.ofList

end QueryDesk.Text
