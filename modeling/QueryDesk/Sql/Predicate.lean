import QueryDesk.Query.Basic
import QueryDesk.Sql.Identifier
import QueryDesk.Text.Quoted

/-!
# Predicates

Conditions and time windows as atomic predicates, and the filter made of them.  A filter holds
when the conditions hold, read with AND binding tighter than OR, and the window holds.
-/

namespace QueryDesk.Sql

/-- A literal of text. -/
def quote (s : String) : String :=
  String.ofList (Text.quotedBy '\'' s.toList)

def literalText : Literal → String
  | .bool true => "TRUE"
  | .bool false => "FALSE"
  | .int n => String.ofList (Decimal.intText n.toInt)
  | .float x => String.ofList (Decimal.plain.float x)
  | .text s => quote s

/-- A literal that has a text, or the fault. -/
def finite (l : Literal) : Except SqlFault Literal :=
  match l with
  | .float x =>
    if x.isFinite then .ok l
    else .error (.nonFinite (String.ofList (Decimal.plainText x)))
  | _ => .ok l

/-- An atomic predicate. -/
inductive Atom where
  | compare (field : Identifier) (operator : Operator) (value : Literal)
  | within (field : Identifier) (first : Literal) (more : List Literal)
  | between (field : Identifier) (low high : Literal)

namespace Atom

def sql : Atom → String
  | compare field operator value =>
    field.name ++ " " ++ operator.sql ++ " " ++ literalText value
  | within field first more =>
    field.name ++ " IN (" ++ ", ".intercalate ((first :: more).map literalText) ++ ")"
  | between field low high =>
    field.name ++ " BETWEEN " ++ literalText low ++ " AND " ++ literalText high

end Atom

/-- The atomic predicate of a condition: its field is checked first, then that its operand fits
its operator, then its literals in order. -/
def atom (c : Condition) : Except SqlFault Atom := do
  let field ← identifier .conditionField c.field
  match c.operator, c.value with
  | .isIn, .list (first :: more) =>
    return .within field (← finite first) (← more.mapM finite)
  | .isIn, .single value => return .within field (← finite value) []
  | .between, .range low high => return .between field (← finite low) (← finite high)
  | .between, .list [low, high] => return .between field (← finite low) (← finite high)
  | .isIn, _ => throw (.misfit c.operator.sql c.field false)
  | .between, _ => throw (.misfit c.operator.sql c.field false)
  | operator, .single value => return .compare field operator (← finite value)
  | operator, _ => throw (.misfit operator.sql c.field true)

def dateLiteral (d : Date) : Literal := .text d.text

/-- The atomic predicates of a window on a column, all of which have to hold. -/
def windowAtoms (column : Identifier) (today : Date) : Window → Except SqlFault (List Atom)
  | .relative days =>
    match today.minusDays? days.toNat with
    | some start => .ok [.compare column .ge (dateLiteral start),
        .compare column .le (dateLiteral today)]
    | none => .error (.beforeCalendar days.toNat)
  | .absolute (some start) (some stop) =>
    if start = stop then .ok [.compare column .eq (dateLiteral start)]
    else .ok [.compare column .ge (dateLiteral start), .compare column .le (dateLiteral stop)]
  | .absolute (some start) none => .ok [.compare column .ge (dateLiteral start)]
  | .absolute none (some stop) => .ok [.compare column .le (dateLiteral stop)]
  | .absolute none none => .ok []

/-- The conditions with their joins, and the atomic predicates of the window. -/
structure Filter where
  conditions : List (Join × Atom)
  window : List Atom

namespace Filter

/-- The conditions in a row; the join of the first one is not written. -/
def chain : List (Join × Atom) → String
  | [] => ""
  | (_, a) :: rest =>
    rest.foldl (fun text (j, a) => text ++ " " ++ j.name ++ " " ++ a.sql) a.sql

/-- Whether one of the conditions after the first is joined by OR. -/
def hasOr (conditions : List (Join × Atom)) : Bool :=
  conditions.tail.any (·.1 == .or)

/-- The texts that are joined by AND: the conditions, in parentheses when one is joined by OR,
and the window. -/
def parts (f : Filter) : List String :=
  (if f.conditions.isEmpty then []
    else if hasOr f.conditions then ["(" ++ chain f.conditions ++ ")"]
    else [chain f.conditions]) ++ f.window.map Atom.sql

/-- The text of a filter, none if it holds always. -/
def sql? (f : Filter) : Option String :=
  match f.parts with
  | [] => none
  | parts => some (" AND ".intercalate parts)

end Filter

end QueryDesk.Sql
