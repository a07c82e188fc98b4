import QueryDesk.Proofs.Sql.Pieces
import QueryDesk.Proofs.Sql.Words
import QueryDesk.Query.Basic

/-!
# Reading a WHERE clause

A reader for the fragment of SQL that filters are written in, made without the renderer in mind.
The text is scanned by the quoting rule, cut into words, comparison signs, parentheses, commas and
literals (`tokens`), read from left to right into predicates, connectives and parentheses
(`items`), and grouped with AND binding tighter than OR (`group`).

Words are told apart by their place, not by a list of reserved words: where a predicate may start,
every word is a column, so a column may have the name of a keyword.  The AND of `x BETWEEN a AND b`
is met where a second bound is due and never as a connective.
-/

namespace QueryDesk.Sql

/-! ## Tokens -/

/-- A part of a clause. -/
inductive Token where
  /-- A name, a keyword or a number. -/
  | word (s : List Char)
  /-- Comparison signs in a row. -/
  | sign (s : List Char)
  /-- A literal with its content. -/
  | text (s : List Char)
  | opening
  | closing
  | comma
  | blank
  /-- Anything else. -/
  | other
deriving DecidableEq, Repr

/-- Whether the character may stand in a comparison sign. -/
def isSignChar (c : Char) : Bool := c == '<' || c == '=' || c == '>'

/-- The tokens of a text from those of its rest: words and signs are as long as possible. -/
def pushChar (c : Char) (rest : List Token) : List Token :=
  if isWordChar c then
    match rest with
    | .word w :: rest => .word (c :: w) :: rest
    | _ => .word [c] :: rest
  else if isSignChar c then
    match rest with
    | .sign w :: rest => .sign (c :: w) :: rest
    | _ => .sign [c] :: rest
  else if c = '(' then .opening :: rest
  else if c = ')' then .closing :: rest
  else if c = ',' then .comma :: rest
  else if c = ' ' then .blank :: rest
  else .other :: rest

/-- The tokens of a text cut at its literals, blanks included. -/
def spacedTokens : List Piece → List Token
  | [] => []
  | .code c :: rest => pushChar c (spacedTokens rest)
  | .literal s :: rest => .text s :: spacedTokens rest
  | .unclosed _ :: rest => .other :: spacedTokens rest

/-- The tokens of a text cut at its literals. -/
def tokens (ps : List Piece) : List Token := (spacedTokens ps).filter (· != .blank)

/-! ## Predicates -/

/-- A value as a clause shows it: a word, or the content of a literal. -/
inductive Value where
  | word (s : List Char)
  | text (s : List Char)
deriving DecidableEq, Repr

/-- The value that a token stands for. -/
def Token.value? : Token → Option Value
  | .word s => some (.word s)
  | .text s => some (.text s)
  | _ => none

/-- An atomic predicate as a clause shows it. -/
structure Predicate where
  field : List Char
  operator : Operator
  values : List Value
deriving DecidableEq, Repr

/-- An atomic predicate, a connective or a parenthesis around predicates. -/
inductive Item where
  | predicate (p : Predicate)
  | join (j : Join)
  | opening
  | closing
deriving DecidableEq, Repr

/-- What has been read of a predicate, and so what may come next. -/
inductive Place where
  /-- A predicate or an opening parenthesis is due. -/
  | start
  | column (field : List Char)
  | comparison (field : List Char) (operator : Operator)
  | betweenLow (field : List Char)
  | betweenAnd (field : List Char) (low : Value)
  | betweenHigh (field : List Char) (low : Value)
  | listOpening (field : List Char)
  | listItem (field : List Char) (before : List Value)
  | listNext (field : List Char) (values : List Value)
  /-- A connective, a closing parenthesis or the end is due. -/
  | afterPredicate
deriving DecidableEq, Repr

/-- The operators that compare with a single value. -/
def comparisons : List Operator := [.eq, .gt, .lt, .ge, .le, .like]

def operatorToken (o : Operator) : Token :=
  match o with
  | .like | .isIn | .between => .word o.sql.toList
  | _ => .sign o.sql.toList

/-- Reads one token: the next place, and the item that the token completes. -/
def step : Place → Token → Option (Place × Option Item)
  | .start, .opening => some (.start, some .opening)
  | .start, .word field => some (.column field, none)
  | .column field, t =>
    if t = operatorToken .isIn then some (.listOpening field, none)
    else if t = operatorToken .between then some (.betweenLow field, none)
    else (comparisons.find? (operatorToken · = t)).map fun o => (.comparison field o, none)
  | .comparison field o, t =>
    t.value?.map fun v => (.afterPredicate, some (.predicate ⟨field, o, [v]⟩))
  | .betweenLow field, t => t.value?.map fun v => (.betweenAnd field v, none)
  | .betweenAnd field low, .word w =>
    if w = Join.and.name.toList then some (.betweenHigh field low, none) else none
  | .betweenHigh field low, t =>
    t.value?.map fun v => (.afterPredicate, some (.predicate ⟨field, .between, [low, v]⟩))
  | .listOpening field, .opening => some (.listItem field [], none)
  | .listItem field before, t => t.value?.map fun v => (.listNext field (before ++ [v]), none)
  | .listNext field values, .comma => some (.listItem field values, none)
  | .listNext field values, .closing =>
    some (.afterPredicate, some (.predicate ⟨field, .isIn, values⟩))
  | .afterPredicate, .closing => some (.afterPredicate, some .closing)
  | .afterPredicate, .word w =>
    if w = Join.and.name.toList then some (.start, some (.join .and))
    else if w = Join.or.name.toList then some (.start, some (.join .or))
    else none
  | _, _ => none

/-- The items of a token sequence that is read from a place on; none if it is no clause. -/
def items : Place → List Token → Option (List Item)
  | .afterPredicate, [] => some []
  | _, [] => none
  | place, t :: rest =>
    match step place t with
    | some (next, item) => (items next rest).map (item.toList ++ ·)
    | none => none

/-! ## Grouping -/

/-- A filter as a formula over atomic predicates. -/
inductive Formula where
  | atom (p : Predicate)
  | and (a b : Formula)
  | or (a b : Formula)
deriving DecidableEq, Repr

namespace Formula

/-- The atomic predicates of a formula, from left to right. -/
def predicates : Formula → List Predicate
  | atom p => [p]
  | and a b => a.predicates ++ b.predicates
  | or a b => a.predicates ++ b.predicates

/-- The truth of a formula under an assignment of truth values to atomic predicates. -/
def Holds (v : Predicate → Prop) : Formula → Prop
  | atom p => v p
  | and a b => a.Holds v ∧ b.Holds v
  | or a b => a.Holds v ∨ b.Holds v

end Formula

/-- What has been read between two parentheses: the disjunction of what stands before the last OR,
and the conjunction of what stands after it. -/
structure Frame where
  earlier : Option Formula
  run : Option Formula

namespace Frame

def empty : Frame := ⟨none, none⟩

/-- One more formula in the conjunction. -/
def add (f : Frame) (e : Formula) : Frame :=
  { f with run := some (match f.run with
      | none => e
      | some r => .and r e) }

/-- The formula of everything read, if something stands after the last OR. -/
def formula? (f : Frame) : Option Formula :=
  f.run.map fun r => match f.earlier with
    | none => r
    | some d => .or d r

end Frame

/-- Groups items, AND binding tighter than OR: the frames outside the open parentheses, innermost
first, and the frame inside them. -/
def group : List Frame → Frame → List Item → Option Formula
  | [], f, [] => f.formula?
  | _ :: _, _, [] => none
  | outer, f, .predicate p :: rest => group outer (f.add (.atom p)) rest
  | outer, f, .join .and :: rest => group outer f rest
  | outer, f, .join .or :: rest =>
    match f.formula? with
    | some e => group outer ⟨some e, none⟩ rest
    | none => none
  | outer, f, .opening :: rest => group (f :: outer) .empty rest
  | [], _, .closing :: _ => none
  | g :: outer, f, .closing :: rest =>
    match f.formula? with
    | some e => group outer (g.add e) rest
    | none => none

/-- The formula of a WHERE clause. -/
def readWhere (clause : String) : Option Formula :=
  match tokens (pieces clause.toList) with
  | .word w :: rest =>
    if w = "WHERE".toList then (items .start rest).bind (group [] .empty) else none
  | _ => none

end QueryDesk.Sql
