import QueryDesk.Text.Blank
import QueryDesk.Text.Case
import QueryDesk.Text.Search

/-!
# Structural checks

Whether a text could be a SELECT statement: its first word, the presence of FROM, and the
balance of its parentheses outside literals.
-/

namespace QueryDesk.Sql

/-- How the parentheses outside literals of a text stand. -/
inductive Balance where
  /-- One was closed before it was opened. -/
  | closedEarly
  /-- The number left open at the end, and whether the end lies inside a literal. -/
  | ended (depth : Nat) (inLiteral : Bool)
deriving DecidableEq, Repr

/-- The balance of a text that starts at a depth, inside or outside a literal. -/
def balanceFrom (depth : Nat) (inLiteral : Bool) : List Char → Balance
  | [] => .ended depth inLiteral
  | c :: rest =>
    if c = '\'' then balanceFrom depth (!inLiteral) rest
    else if inLiteral then balanceFrom depth inLiteral rest
    else if c = '(' then balanceFrom (depth + 1) inLiteral rest
    else if c = ')' then
      if depth = 0 then .closedEarly else balanceFrom (depth - 1) inLiteral rest
    else balanceFrom depth inLiteral rest

def balance (s : List Char) : Balance := balanceFrom 0 false s

/-- What makes a text unusable as a statement. -/
inductive Defect where
  | noSelect | noFrom | unbalanced
deriving DecidableEq, Repr

def Defect.message : Defect → String
  | noSelect => "statement must start with SELECT"
  | noFrom => "statement must contain FROM"
  | unbalanced => "unbalanced parentheses"

/-- The warning about a literal that does not end. -/
def unterminated : String := "unterminated string literal"

/-- What was found about a text. -/
structure Findings where
  defects : List Defect
  warnings : List String
deriving DecidableEq, Repr

def check (sql : String) : Findings :=
  let upper := Text.upperChars (Text.strip sql.toList)
  let b := balance sql.toList
  { defects :=
      (if "SELECT".toList.isPrefixOf upper then [] else [.noSelect]) ++
      (if Text.occurs "FROM".toList upper then [] else [.noFrom]) ++
      (match b with
        | .ended 0 _ => []
        | _ => [.unbalanced])
    warnings := match b with
      | .ended _ true => [unterminated]
      | _ => [] }

def isSound (sql : String) : Bool :=
  (check sql).defects.isEmpty

end QueryDesk.Sql
