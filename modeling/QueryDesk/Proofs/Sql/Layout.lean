import Mathlib.Data.List.Forall2
import QueryDesk.Proofs.Sql.Pieces
import QueryDesk.Proofs.Sql.Words
import QueryDesk.Sql.Statement

/-!
# Statements as pieces

Every part of a statement is laid out once more, with its literals as data instead of quoted text:
`Atom.pieces`, `Filter.pieces`, `Statement.pieces`.  Scanning the text of a part by the quoting rule
gives back exactly that layout (`Atom.reads_sql`, `Filter.reads_text`, `Statement.pieces_sql`),
provided that the texts of the aggregate functions close their own literals.  The places where a
literal could run into more text are checked here and nowhere else: after each of them stands a
comma, a parenthesis, a blank or the end.

What stands after the SELECT list is put together from plain text, words, literals and pairs of
parentheses (`Statement.restPieces_regular`), so a property of such pieces is proved by the five
cases of `Regular`.
-/

namespace QueryDesk.Sql

/-! ## The layout -/

def literalPieces : Literal → List Piece
  | .text s => [.literal s.toList]
  | l => codes (literalText l)

/-- The pieces of an atomic predicate. -/
def Atom.pieces : Atom → List Piece
  | compare field operator value =>
    codes (field.name ++ " " ++ operator.sql ++ " ") ++ literalPieces value
  | within field first more =>
    codes (field.name ++ " IN (") ++
      ((codes ", ").intercalate ((first :: more).map literalPieces) ++ codes ")")
  | between field low high =>
    codes (field.name ++ " BETWEEN ") ++
      (literalPieces low ++ (codes " AND " ++ literalPieces high))

namespace Filter

/-- The pieces of conditions in a row. -/
def chainPieces : List (Join × Atom) → List Piece
  | [] => []
  | first :: rest =>
    first.2.pieces ++ rest.flatMap fun x => codes (" " ++ x.1.name ++ " ") ++ x.2.pieces

/-- The pieces of the texts that are joined by AND. -/
def partPieces (f : Filter) : List (List Piece) :=
  (if f.conditions.isEmpty then []
    else if hasOr f.conditions then [codes "(" ++ (chainPieces f.conditions ++ codes ")")]
    else [chainPieces f.conditions]) ++ f.window.map Atom.pieces

/-- The pieces of the text of a filter. -/
def pieces (f : Filter) : List Piece := (codes " AND ").intercalate f.partPieces

end Filter

def Column.pieces : Column → List Piece
  | aggregate function label => Sql.pieces function.toList ++ codes (" as " ++ label.name)
  | field name => codes name.name

def Selection.pieces : Selection → List Piece
  | columns [] => codes "*"
  | columns cs => (codes ", ").intercalate (cs.map Column.pieces)
  | rowCount => codes "COUNT(*) AS total_count"

namespace Statement

/-- The pieces of a WHERE clause. -/
def wherePieces (s : Statement) : List Piece :=
  if s.filter.parts.isEmpty then [] else codes " WHERE " ++ s.filter.pieces

/-- The clauses after the WHERE clause. -/
def tail (s : Statement) : String := s.groupByClause ++ s.orderClause ++ s.limitClause

/-- The text after the SELECT list. -/
def rest (s : Statement) : String := " FROM " ++ s.source.sql ++ (s.whereClause ++ s.tail)

/-- The pieces after the SELECT list. -/
def restPieces (s : Statement) : List Piece :=
  codes (" FROM " ++ s.source.sql) ++ (s.wherePieces ++ codes s.tail)

def pieces (s : Statement) : List Piece :=
  codes "SELECT " ++ (s.selection.pieces ++ s.restPieces)

end Statement

/-- The texts of the aggregate functions of a selection. -/
def Selection.functions : Selection → List String
  | columns cs => cs.filterMap fun
    | .aggregate function _ => some function
    | .field _ => none
  | rowCount => []

/-! ## Literals and atomic predicates -/

/-- A literal is quoted, or it is a word. -/
theorem literalPieces_cases (l : Literal) : (∃ s, l = .text s) ∨
    literalPieces l = codes (literalText l) ∧ IsWord (literalText l).toList := by
  cases l with
  | text s => exact Or.inl ⟨s, rfl⟩
  | bool b => exact Or.inr ⟨rfl, literalText_isWord fun _ => Literal.noConfusion⟩
  | int n => exact Or.inr ⟨rfl, literalText_isWord fun _ => Literal.noConfusion⟩
  | float x => exact Or.inr ⟨rfl, literalText_isWord fun _ => Literal.noConfusion⟩

theorem reads_literalText (l : Literal) : Reads (literalText l) (literalPieces l) := by
  rcases literalPieces_cases l with ⟨s, rfl⟩ | ⟨hcodes, hword⟩
  · exact Reads.quote s
  · rw [hcodes]
    exact Reads.codes (hword.not_mem rfl)

theorem Atom.reads_sql (a : Atom) : Reads a.sql a.pieces := by
  cases a with
  | compare field operator value =>
    have hplain : IsPlain (field.name ++ " " ++ operator.sql ++ " ") :=
      ((field.isPlain.append (by decide)).append (operator_isPlain operator)).append (by decide)
    exact Reads.codes_append hplain.noQuote (reads_literalText value)
  | within field first more =>
    have hopen : '\'' ∉ (field.name ++ " IN (").toList := by
      rw [String.toList_append, List.mem_append, not_or]
      exact ⟨field.isPlain.noQuote, by decide⟩
    have hitems : Reads (", ".intercalate ((first :: more).map literalText))
        ((codes ", ").intercalate ((first :: more).map literalPieces)) :=
      Reads.intercalate (by decide) (by decide)
        (Reads.forall₂_map fun l _ => reads_literalText l)
    rw [Atom.sql, String.append_assoc]
    exact Reads.codes_append hopen (hitems.append (Reads.codes (by decide)) (by decide))
  | between field low high =>
    have hopen : IsPlain (field.name ++ " BETWEEN ") := field.isPlain.append (by decide)
    have hhigh : Reads (" AND " ++ literalText high) (codes " AND " ++ literalPieces high) :=
      Reads.codes_append (by decide) (reads_literalText high)
    rw [Atom.sql, String.append_assoc, String.append_assoc]
    refine Reads.codes_append hopen.noQuote ((reads_literalText low).append hhigh ?_)
    simp

/-! ## Filters -/

namespace Filter

theorem reads_chain (conditions : List (Join × Atom)) :
    Reads (chain conditions) (chainPieces conditions) := by
  -- the row grows to the right: one more condition is appended to the text read so far
  have hrow : ∀ (rest : List (Join × Atom)) (text : String) (ps : List Piece), Reads text ps →
      Reads (rest.foldl (fun text x => text ++ " " ++ x.1.name ++ " " ++ x.2.sql) text)
        (ps ++ rest.flatMap fun x => codes (" " ++ x.1.name ++ " ") ++ x.2.pieces) := by
    intro rest
    induction rest with
    | nil => intro text ps h; simpa using h
    | cons x rest ih =>
      obtain ⟨j, a⟩ := x
      intro text ps h
      have hjoin : IsPlain (" " ++ j.name ++ " ") :=
        (IsPlain.append (by decide) (join_isPlain j)).append (by decide)
      have hnext : Reads (text ++ " " ++ j.name ++ " " ++ a.sql)
          (ps ++ (codes (" " ++ j.name ++ " ") ++ a.pieces)) := by
        have := h.append (Reads.codes_append hjoin.noQuote a.reads_sql) (by simp)
        simpa only [String.append_assoc] using this
      have := ih _ _ hnext
      rwa [List.append_assoc] at this
  cases conditions with
  | nil => exact Reads.codes (s := "") (by simp)
  | cons x rest => exact hrow rest x.2.sql x.2.pieces x.2.reads_sql

theorem forall₂_parts (f : Filter) : List.Forall₂ Reads f.parts f.partPieces := by
  have hwindow : List.Forall₂ Reads (f.window.map Atom.sql) (f.window.map Atom.pieces) :=
    Reads.forall₂_map fun a _ => a.reads_sql
  have hchain := reads_chain f.conditions
  unfold parts partPieces
  refine List.rel_append ?_ hwindow
  split
  · exact .nil
  · split
    · refine .cons ?_ .nil
      rw [String.append_assoc]
      exact Reads.codes_append (by decide) (hchain.append (Reads.codes (by decide)) (by decide))
    · exact .cons hchain .nil

theorem reads_text (f : Filter) : Reads (" AND ".intercalate f.parts) f.pieces := by
  unfold pieces
  exact Reads.intercalate (by decide) (by decide) f.forall₂_parts

theorem isEmpty_parts (f : Filter) :
    f.parts.isEmpty = (f.conditions.isEmpty && f.window.isEmpty) := by
  unfold parts
  cases f.conditions.isEmpty with
  | true => simp
  | false => cases hasOr f.conditions <;> simp

end Filter

/-! ## Selections and statements -/

theorem Column.reads_sql {c : Column} (h : ∀ function label, c = .aggregate function label →
    Closed function) : Reads c.sql c.pieces := by
  cases c with
  | aggregate function label =>
    have hlabel : IsPlain (" as " ++ label.name) := IsPlain.append (by decide) label.isPlain
    rw [Column.sql, String.append_assoc]
    exact (Reads.of_closed (h function label rfl)).append (Reads.codes hlabel.noQuote) (by simp)
  | field name => exact Reads.codes name.isPlain.noQuote

theorem Selection.reads_sql {s : Selection} (h : ∀ function ∈ s.functions, Closed function) :
    Reads s.sql s.pieces := by
  cases s with
  | rowCount => exact Reads.codes (by decide)
  | columns cs =>
    cases cs with
    | nil => exact Reads.codes (by decide)
    | cons c cs =>
      refine Reads.intercalate (by decide) (by decide) (Reads.forall₂_map fun c' hc' => ?_)
      refine Column.reads_sql fun function label heq => h function ?_
      exact List.mem_filterMap.mpr ⟨c', hc', by rw [heq]⟩

namespace Table

theorem isPlain_sql (t : Table) : IsPlain t.sql := by
  unfold Table.sql
  split
  · exact (Identifier.isPlain _).append (by decide) |>.append t.table.isPlain
  · exact t.table.isPlain

end Table

namespace Statement

theorem isPlain_tail (s : Statement) : IsPlain s.tail := by
  have hgroup : IsPlain s.groupByClause := by
    unfold groupByClause
    split
    · decide
    · refine IsPlain.append (by decide) (IsPlain.intercalate (by decide) fun x hx => ?_)
      obtain ⟨i, -, rfl⟩ := List.mem_map.mp hx
      exact i.isPlain
  have horder : IsPlain s.orderClause := by
    unfold orderClause
    split
    · next field direction _ =>
      have hdirection : IsPlain direction.sql := by cases direction <;> decide
      exact ((IsPlain.append (by decide) field.isPlain).append (by decide)).append hdirection
    · decide
  have hlimit : IsPlain s.limitClause := by
    unfold limitClause
    split
    · exact IsPlain.append (by decide) (digitsOf_isPlain _)
    · decide
  exact (hgroup.append horder).append hlimit

theorem whereClause_eq (s : Statement) : s.whereClause =
    if s.filter.parts.isEmpty then "" else " WHERE " ++ " AND ".intercalate s.filter.parts := by
  unfold whereClause Filter.sql?
  cases s.filter.parts <;> rfl

theorem reads_whereClause (s : Statement) : Reads s.whereClause s.wherePieces := by
  rw [whereClause_eq, wherePieces]
  split
  · exact Reads.codes (s := "") (by simp)
  · exact Reads.codes_append (by decide) s.filter.reads_text

theorem head_tail (s : Statement) : s.tail.toList.head? ≠ some '\'' := fun h =>
  s.isPlain_tail.noQuote (List.mem_of_head? h)

theorem sql_eq (s : Statement) : s.sql = "SELECT " ++ (s.selection.sql ++ s.rest) := by
  simp only [sql, rest, tail, String.append_assoc]

theorem reads_rest (s : Statement) : Reads s.rest s.restPieces := by
  have hfrom : IsPlain (" FROM " ++ s.source.sql) := IsPlain.append (by decide) s.source.isPlain_sql
  exact Reads.codes_append hfrom.noQuote
    (s.reads_whereClause.append (Reads.codes s.isPlain_tail.noQuote) s.head_tail)

/-- A statement is cut after its SELECT list, if that closes its literals. -/
theorem reads_of_selection {s : Statement} {ps : List Piece} (h : Reads s.selection.sql ps) :
    Reads s.sql (codes "SELECT " ++ (ps ++ s.restPieces)) := by
  have hhead : s.rest.toList.head? ≠ some '\'' := by simp [rest]
  rw [sql_eq]
  exact Reads.codes_append (by decide) (h.append s.reads_rest hhead)

/-- The pieces of a statement whose aggregate functions close their literals. -/
theorem pieces_sql {s : Statement} (h : ∀ function ∈ s.selection.functions, Closed function) :
    Sql.pieces s.sql.toList = s.pieces :=
  (reads_of_selection (Selection.reads_sql h)).pieces_eq

end Statement

/-! ## What the parts are made of -/

/-- Pieces put together from plain text, words, literals and pairs of parentheses. -/
inductive Regular : List Piece → Prop
  | plain {s : String} (h : IsPlain s) : Regular (codes s)
  | word {s : String} (h : IsWord s.toList) : Regular (codes s)
  | literal (t : List Char) : Regular [.literal t]
  | append {ps qs : List Piece} (hp : Regular ps) (hq : Regular qs) : Regular (ps ++ qs)
  | parens {ps : List Piece} (hp : Regular ps) : Regular (codes "(" ++ (ps ++ codes ")"))

namespace Regular

theorem nil : Regular [] := plain (s := "") (by decide)

theorem flatMap {α : Type} {f : α → List Piece} : ∀ {xs : List α}, (∀ x ∈ xs, Regular (f x)) →
    Regular (xs.flatMap f)
  | [], _ => nil
  | x :: xs, h => by
    rw [List.flatMap_cons]
    exact (h x List.mem_cons_self).append (flatMap fun y hy => h y (List.mem_cons_of_mem _ hy))

theorem intercalate {sep : List Piece} (hsep : Regular sep) :
    ∀ {pss : List (List Piece)}, (∀ ps ∈ pss, Regular ps) → Regular (sep.intercalate pss)
  | [], _ => nil
  | [ps], h => by simpa using h ps (by simp)
  | ps :: qs :: pss, h => by
    rw [List.intercalate_cons_cons]
    exact ((h ps List.mem_cons_self).append hsep).append
      (intercalate hsep fun rs hrs => h rs (List.mem_cons_of_mem _ hrs))

end Regular

theorem literalPieces_regular (l : Literal) : Regular (literalPieces l) := by
  rcases literalPieces_cases l with ⟨s, rfl⟩ | ⟨hcodes, hword⟩
  · exact .literal s.toList
  · rw [hcodes]
    exact .word hword

theorem Atom.pieces_regular (a : Atom) : Regular a.pieces := by
  cases a with
  | compare field operator value =>
    have hplain : IsPlain (field.name ++ " " ++ operator.sql ++ " ") :=
      ((field.isPlain.append (by decide)).append (operator_isPlain operator)).append (by decide)
    exact (Regular.plain hplain).append (literalPieces_regular value)
  | within field first more =>
    have hitems : Regular ((codes ", ").intercalate ((first :: more).map literalPieces)) := by
      refine Regular.intercalate (.plain (by decide)) fun ps hps => ?_
      obtain ⟨l, -, rfl⟩ := List.mem_map.mp hps
      exact literalPieces_regular l
    have hplain : IsPlain (field.name ++ " IN ") := field.isPlain.append (by decide)
    have hopen : codes (field.name ++ " IN (") = codes (field.name ++ " IN ") ++ codes "(" := by
      rw [← codes_append, String.append_assoc]
      rfl
    rw [pieces, hopen, List.append_assoc]
    exact (Regular.plain hplain).append hitems.parens
  | between field low high =>
    have hplain : IsPlain (field.name ++ " BETWEEN ") := field.isPlain.append (by decide)
    exact (Regular.plain hplain).append ((literalPieces_regular low).append
      ((Regular.plain (by decide)).append (literalPieces_regular high)))

theorem Filter.pieces_regular (f : Filter) : Regular f.pieces := by
  have hchain : Regular (chainPieces f.conditions) := by
    cases f.conditions with
    | nil => exact Regular.nil
    | cons x rest =>
      refine x.2.pieces_regular.append (Regular.flatMap fun y _ => ?_)
      have hjoin : IsPlain (" " ++ y.1.name ++ " ") :=
        (IsPlain.append (by decide) (join_isPlain y.1)).append (by decide)
      exact (Regular.plain hjoin).append y.2.pieces_regular
  refine Regular.intercalate (.plain (by decide)) fun ps hps => ?_
  rcases List.mem_append.mp hps with hps | hps
  · split at hps
    · simp at hps
    · split at hps
      · rw [List.mem_singleton.mp hps]
        exact hchain.parens
      · rw [List.mem_singleton.mp hps]
        exact hchain
  · obtain ⟨a, -, rfl⟩ := List.mem_map.mp hps
    exact a.pieces_regular

/-- Everything after the SELECT list is regular. -/
theorem Statement.restPieces_regular (s : Statement) : Regular s.restPieces := by
  have hfrom : IsPlain (" FROM " ++ s.source.sql) := IsPlain.append (by decide) s.source.isPlain_sql
  have hwhere : Regular s.wherePieces := by
    unfold wherePieces
    split
    · exact Regular.nil
    · exact (Regular.plain (by decide)).append s.filter.pieces_regular
  exact (Regular.plain hfrom).append (hwhere.append (.plain s.isPlain_tail))

end QueryDesk.Sql
