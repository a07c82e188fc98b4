import QueryDesk.Text.Blank
import QueryDesk.Text.Search

/-!
# Statements as they are sent

A statement without the blanks around it and the semicolons that end it.
-/

namespace QueryDesk

/-- The statement between its outer blanks, without the semicolons that end it. -/
def bareStatement (sql : String) : String :=
  String.ofList (Text.dropTrailing ';' (Text.strip sql.toList))

end QueryDesk
