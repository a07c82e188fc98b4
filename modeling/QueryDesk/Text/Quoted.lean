/-!
# Quoted texts

A text between two quote characters, in which the quote character is written twice.  Literals of
SQL and fields of comma-separated text are quoted so, each with its own character.
-/

namespace QueryDesk.Text

/-- A text with a character doubled wherever it stands. -/
def doubled (quote : Char) : List Char → List Char
  | [] => []
  | c :: rest => if c = quote then quote :: quote :: doubled quote rest else c :: doubled quote rest

def quotedBy (quote : Char) (s : List Char) : List Char :=
  quote :: doubled quote s ++ [quote]

end QueryDesk.Text
