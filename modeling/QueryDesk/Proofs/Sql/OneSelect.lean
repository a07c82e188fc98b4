import QueryDesk.Proofs.Sql.Generation
import QueryDesk.Proofs.Text.Lines

/-!
# What can leave a statement

A statement is left by a semicolon or by the start of a comment outside its literals (`Leaves`).
Every part of a statement but its SELECT list is harmless: identifiers and keywords have none of
these characters, numbers have a hyphen in front at most, texts are quoted.  So a statement is left
exactly where its SELECT list is, and the list exactly where a text of an aggregate function is;
these are passed on as they come, checked for balanced parentheses only.
-/

namespace QueryDesk.Sql

/-! ## Leaving a statement -/

/-- A statement separator and the two ways to start a comment. -/
def exits : List (List Char) := [[';'], ['-', '-'], ['/', '*']]

/-- The characters that an exit starts with. -/
def exitStarts : List Char := exits.filterMap List.head?

theorem forall_exitStarts {p : Char → Prop} (h : p ';' ∧ p '-' ∧ p '/') :
    ∀ c ∈ exitStarts, p c := by
  simpa [exitStarts, exits] using h

/-- Pieces with a separator or the start of a comment outside literals. -/
def Leaves (ps : List Piece) : Prop := ∃ exit ∈ exits, exit.map Piece.code <:+: ps

instance (ps : List Piece) : Decidable (Leaves ps) :=
  inferInstanceAs (Decidable (∃ exit ∈ exits, exit.map Piece.code <:+: ps))

/-- Pieces that end without beginning an exit. -/
def Settled (ps : List Piece) : Prop := ∀ c, ps.getLast? = some (.code c) → c ≠ '-' ∧ c ≠ '/'

/-- Pieces that start without completing an exit. -/
def Fresh (ps : List Piece) : Prop := ∀ c, ps.head? = some (.code c) → c ≠ '-' ∧ c ≠ '*'

/-- An exit across a boundary is begun before it and completed after it. -/
theorem exists_of_append_eq_exit {exit : List Char} (hexit : exit ∈ exits) {l l' : List Piece}
    (hl : l ≠ []) (hl' : l' ≠ []) (h : exit.map Piece.code = l ++ l') :
    ∃ c c', l = [.code c] ∧ l' = [.code c'] ∧ (c = '-' ∨ c = '/') ∧ (c' = '-' ∨ c' = '*') := by
  have hpair : ∀ c c', [Piece.code c, Piece.code c'] = l ++ l' →
      l = [.code c] ∧ l' = [.code c'] := by
    intro c c' heq
    cases l with
    | nil => exact absurd rfl hl
    | cons p l =>
      rw [List.cons_append, List.cons.injEq] at heq
      obtain ⟨rfl, heq⟩ := heq
      cases l with
      | nil => exact ⟨rfl, heq.symm⟩
      | cons p' l =>
        rw [List.cons_append, List.cons.injEq] at heq
        exact absurd (List.append_eq_nil_iff.mp heq.2.symm).2 hl'
  simp only [exits, List.mem_cons, List.not_mem_nil, or_false] at hexit
  rcases hexit with rfl | rfl | rfl
  · cases l with
    | nil => exact absurd rfl hl
    | cons p l =>
      rw [List.map_singleton, List.cons_append, List.cons.injEq] at h
      exact absurd (List.append_eq_nil_iff.mp h.2.symm).2 hl'
  · obtain ⟨rfl, rfl⟩ := hpair '-' '-' h
    exact ⟨_, _, rfl, rfl, Or.inl rfl, Or.inl rfl⟩
  · obtain ⟨rfl, rfl⟩ := hpair '/' '*' h
    exact ⟨_, _, rfl, rfl, Or.inr rfl, Or.inr rfl⟩

/-- Where no exit can stand across the boundary, the parts can be looked at one by one. -/
theorem leaves_append {ps qs : List Piece} (h : Settled ps ∨ Fresh qs) :
    Leaves (ps ++ qs) ↔ Leaves ps ∨ Leaves qs := by
  constructor
  · rintro ⟨exit, hexit, hinfix⟩
    rcases List.infix_append_iff_ne_nil.mp hinfix with
      hps | hqs | ⟨l, l', hl, hl', heq, hlast, hhead⟩
    · exact Or.inl ⟨exit, hexit, hps⟩
    · exact Or.inr ⟨exit, hexit, hqs⟩
    · obtain ⟨c, c', rfl, rfl, hc, hc'⟩ := exists_of_append_eq_exit hexit hl hl' heq
      obtain ⟨t, rfl⟩ := hlast
      obtain ⟨t', rfl⟩ := hhead
      rcases h with h | h
      · obtain ⟨hne, hne'⟩ := h c List.getLast?_concat
        exact absurd hc (not_or.mpr ⟨hne, hne'⟩)
      · obtain ⟨hne, hne'⟩ := h c' rfl
        exact absurd hc' (not_or.mpr ⟨hne, hne'⟩)
  · rintro (⟨exit, hexit, hinfix⟩ | ⟨exit, hexit, hinfix⟩)
    · exact ⟨exit, hexit, List.infix_append_of_infix_left hinfix⟩
    · exact ⟨exit, hexit, List.infix_append_of_infix_right hinfix⟩

/-! ## Harmless parts -/

/-- Pieces that do not leave the statement, whatever harmless pieces follow them. -/
structure Harmless (ps : List Piece) : Prop where
  stays : ¬Leaves ps
  settled : Settled ps

theorem Harmless.append {ps qs : List Piece} (hp : Harmless ps) (hq : Harmless qs) :
    Harmless (ps ++ qs) := by
  refine ⟨?_, fun c hc => ?_⟩
  · rw [leaves_append (Or.inl hp.settled), not_or]
    exact ⟨hp.stays, hq.stays⟩
  · rw [List.getLast?_append] at hc
    cases hlast : qs.getLast? with
    | none =>
      rw [hlast, Option.none_or] at hc
      exact hp.settled c hc
    | some q =>
      rw [hlast, Option.some_or] at hc
      exact hq.settled c (hlast.trans hc)

theorem exists_mem_of_leaves {ps : List Piece} (h : Leaves ps) :
    ∃ c ∈ exitStarts, Piece.code c ∈ ps := by
  obtain ⟨exit, hexit, hinfix⟩ := h
  obtain ⟨c, hc⟩ : ∃ c, exit.head? = some c := by
    simp only [exits, List.mem_cons, List.not_mem_nil, or_false] at hexit
    rcases hexit with rfl | rfl | rfl <;> exact ⟨_, rfl⟩
  have hmem := hinfix.subset (List.mem_map_of_mem (List.mem_of_head? hc))
  exact ⟨c, List.mem_filterMap.mpr ⟨exit, hexit, hc⟩, hmem⟩

/-- Pieces without a character that an exit starts with. -/
theorem harmless_of_forall {ps : List Piece} (h : ∀ c ∈ exitStarts, Piece.code c ∉ ps) :
    Harmless ps := by
  refine ⟨fun hleaves => ?_, fun c hc => ?_⟩
  · obtain ⟨c, hexit, hmem⟩ := exists_mem_of_leaves hleaves
    exact h c hexit hmem
  · have hmem := List.mem_of_getLast? hc
    constructor
    · rintro rfl
      exact h _ (by decide) hmem
    · rintro rfl
      exact h _ (by decide) hmem

theorem harmless_codes {cs : List Char} (h : ∀ c ∈ exitStarts, c ∉ cs) :
    Harmless (cs.map .code) := by
  refine harmless_of_forall fun c hexit hmem => ?_
  obtain ⟨d, hd, hcd⟩ := List.mem_map.mp hmem
  obtain rfl := Piece.code.inj hcd
  exact h d hexit hd

theorem harmless_char {c : Char} (h : c ∉ exitStarts) : Harmless [.code c] := by
  refine harmless_codes (fun d hexit hd => h ?_ : ∀ d ∈ exitStarts, d ∉ [c])
  rwa [← List.mem_singleton.mp hd]

theorem harmless_of_isPlain {s : String} (h : IsPlain s) : Harmless (codes s) :=
  harmless_codes fun c hexit =>
    h.not_mem (forall_exitStarts (p := (isPlainChar · = false)) (by decide) c hexit)

theorem harmless_of_isUnsigned {u : List Char} (h : IsUnsigned u) : Harmless (u.map .code) := by
  refine harmless_codes fun c hexit hc => ?_
  have hnot := forall_exitStarts (p := (isUnsignedChar · = false)) (by decide) c hexit
  rw [h.2 c hc] at hnot
  exact Bool.noConfusion hnot

/-- A word has at most one hyphen, in front. -/
theorem harmless_of_isWord {w : List Char} (h : IsWord w) : Harmless (w.map .code) := by
  obtain ⟨u, hu, rfl | rfl⟩ := h
  · exact harmless_of_isUnsigned hu
  · have hu' := harmless_of_isUnsigned hu
    obtain ⟨c, rest, rfl⟩ := List.exists_cons_of_ne_nil hu.1
    have hfresh : Fresh ((c :: rest).map .code) := by
      rintro d hd
      obtain rfl : c = d := Piece.code.inj (Option.some.inj hd)
      have hunsigned := hu.2 c List.mem_cons_self
      constructor
      · rintro rfl
        exact absurd hunsigned (by decide)
      · rintro rfl
        exact absurd hunsigned (by decide)
    refine ⟨?_, ?_⟩
    · rw [List.map_cons, ← List.singleton_append, leaves_append (Or.inr hfresh), not_or]
      exact ⟨by decide, hu'.stays⟩
    · intro d hd
      rw [List.map_cons, List.map_cons, List.getLast?_cons_cons] at hd
      exact hu'.settled d hd

/-- Regular pieces do not leave the statement. -/
theorem Regular.harmless {ps : List Piece} (h : Regular ps) : Harmless ps := by
  induction h with
  | plain h => exact harmless_of_isPlain h
  | word h => exact harmless_of_isWord h
  | literal t => exact harmless_of_forall fun c _ hmem => by simp at hmem
  | append _ _ hp hq => exact hp.append hq
  | parens _ hp =>
    exact (harmless_char (by decide)).append
      (hp.append (harmless_char (by decide)))

/-! ## Statements -/

theorem fresh_cons {c : Char} (hc : c ≠ '-' ∧ c ≠ '*') (ps : List Piece) :
    Fresh (.code c :: ps) := by
  intro d hd
  rw [← Piece.code.inj (Option.some.inj hd)]
  exact hc

theorem Statement.fresh_restPieces (s : Statement) : Fresh s.restPieces := by
  rw [restPieces, codes_append, List.append_assoc]
  exact fresh_cons (c := ' ') (by decide) _

/-- A statement whose SELECT list closes its literals is left exactly where the list is. -/
theorem Statement.leaves_sql_iff {s : Statement} {ps : List Piece} (h : Reads s.selection.sql ps) :
    Leaves (Sql.pieces s.sql.toList) ↔ Leaves ps := by
  have hselect : Harmless (codes "SELECT ") := harmless_of_isPlain (by decide)
  have hrest : ¬Leaves s.restPieces := s.restPieces_regular.harmless.stays
  rw [(reads_of_selection h).pieces_eq, leaves_append (Or.inl hselect.settled),
    leaves_append (Or.inr s.fresh_restPieces), or_iff_right hselect.stays, or_iff_left hrest]

/-! ## SELECT lists -/

theorem Column.leaves_pieces_iff (c : Column) : Leaves c.pieces ↔
    ∃ function ∈ (Selection.columns [c]).functions, Leaves (Sql.pieces function.toList) := by
  cases c with
  | aggregate function label =>
    have hlabel : IsPlain (" as " ++ label.name) := IsPlain.append (by decide) label.isPlain
    have hfresh : Fresh (codes (" as " ++ label.name)) := by
      rw [codes_append]
      exact fresh_cons (c := ' ') (by decide) _
    rw [pieces, leaves_append (Or.inr hfresh), or_iff_left (harmless_of_isPlain hlabel).stays]
    simp [Selection.functions]
  | field name =>
    refine iff_of_false (harmless_of_isPlain name.isPlain).stays ?_
    simp [Selection.functions]

theorem leaves_columns_iff : ∀ (cs : List Column),
    Leaves ((codes ", ").intercalate (cs.map Column.pieces)) ↔
      ∃ function ∈ (Selection.columns cs).functions, Leaves (pieces function.toList)
  | [] => iff_of_false (by decide) (by simp [Selection.functions])
  | [c] => by
    rw [List.map_singleton, List.intercalate_singleton]
    exact c.leaves_pieces_iff
  | c :: c' :: cs => by
    have hcomma : Harmless (codes ", ") := harmless_of_isPlain (by decide)
    have hfunctions : (Selection.columns (c :: c' :: cs)).functions =
        (Selection.columns [c]).functions ++ (Selection.columns (c' :: cs)).functions := by
      cases c <;> simp [Selection.functions]
    have hfresh : ∀ ps, Fresh (codes ", " ++ ps) := fun ps => fresh_cons (c := ',') (by decide) _
    have ih := leaves_columns_iff (c' :: cs)
    rw [List.map_cons] at ih
    rw [List.map_cons, List.map_cons, List.intercalate_cons_cons, List.append_assoc,
      leaves_append (Or.inr (hfresh _)), leaves_append (Or.inl hcomma.settled),
      or_iff_right hcomma.stays, ih, c.leaves_pieces_iff, hfunctions]
    simp only [List.mem_append, or_and_right, exists_or]

theorem rowCount_stays : ¬Leaves Selection.rowCount.pieces :=
  (harmless_codes (forall_exitStarts (by decide))).stays

/-- A SELECT list is left exactly where a text of an aggregate function is. -/
theorem Selection.leaves_pieces_iff (s : Selection) : Leaves s.pieces ↔
    ∃ function ∈ s.functions, Leaves (Sql.pieces function.toList) := by
  cases s with
  | rowCount => exact iff_of_false rowCount_stays (by simp [functions])
  | columns cs =>
    cases cs with
    | nil => exact iff_of_false (by decide) (by simp [functions])
    | cons c cs => exact leaves_columns_iff (c :: cs)

theorem Statement.stays_of_rowCount {s : Statement} (h : s.selection = .rowCount) :
    ¬Leaves (Sql.pieces s.sql.toList) := by
  have hrows : ∀ function ∈ s.selection.functions, Closed function := by
    rw [h]
    exact fun function hf => nomatch hf
  have hreads := Selection.reads_sql hrows
  rw [leaves_sql_iff hreads, h]
  exact rowCount_stays

/-- A SELECT list closes its literals if the texts of its aggregate functions do. -/
theorem Selection.closed_sql {s : Selection} (h : ∀ function ∈ s.functions, Closed function) :
    Closed s.sql := by
  intro t ht
  have hcode : ∀ text : String, Piece.unclosed t ∉ codes text := fun _ => by simp [codes]
  rw [(reads_sql h).pieces_eq] at ht
  cases s with
  | rowCount => exact hcode _ ht
  | columns cs =>
    cases cs with
    | nil => exact hcode _ ht
    | cons c cs =>
      rcases mem_intercalate ht with ht | ⟨ps, hps, ht⟩
      · exact hcode _ ht
      · obtain ⟨c', hc', rfl⟩ := List.mem_map.mp hps
        cases c' with
        | field name => exact hcode _ ht
        | aggregate function label =>
          rcases List.mem_append.mp ht with ht | ht
          · exact h function (List.mem_filterMap.mpr ⟨_, hc', rfl⟩) t ht
          · exact hcode _ ht

namespace Generator

variable {g : Generator} {q : Query} {d : Dialect}

/-- The count statement is one plain SELECT.  The two others are, up to what their common SELECT
list does, if it closes its literals; and it does what the texts of the aggregate functions do, if
each of them closes its own. -/
theorem generate_leaves_iff {b : SqlBundle} (h : g.generate q d = .ok b) :
    ∃ s list, g.statements q d = .ok s ∧ s.main.selection.sql = list ∧
      s.sample.selection.sql = list ∧ b.sql = s.main.sql ∧ b.sampleSql = s.sample.sql ∧
      ¬Leaves (pieces b.countSql.toList) ∧
      (Closed list → (Leaves (pieces b.sql.toList) ↔ Leaves (pieces list.toList)) ∧
        (Leaves (pieces b.sampleSql.toList) ↔ Leaves (pieces list.toList))) ∧
      ((∀ function ∈ q.functions, Closed function) → Closed list ∧
        (Leaves (pieces list.toList) ↔
          ∃ function ∈ q.functions, Leaves (pieces function.toList))) := by
  obtain ⟨s, hs, -, rfl⟩ := generate_eq_ok_iff.mp h
  obtain ⟨source, cs, fields, filter, order, -, hcolumns, -, -, rfl⟩ := statements_eq_ok_iff.mp hs
  have hfunctions := functions_columns hcolumns
  refine ⟨_, (Selection.columns cs).sql, hs, rfl, rfl, rfl, rfl, ?_, fun hclosed => ⟨?_, ?_⟩,
    fun hclosed => ⟨?_, ?_⟩⟩
  · exact Statement.stays_of_rowCount rfl
  · exact Statement.leaves_sql_iff (Reads.of_closed hclosed)
  · exact Statement.leaves_sql_iff (Reads.of_closed hclosed)
  · exact Selection.closed_sql (hfunctions ▸ hclosed)
  · rw [(Selection.reads_sql (hfunctions ▸ hclosed)).pieces_eq, Selection.leaves_pieces_iff,
      hfunctions]

/-- A query with a difference in its aggregate function and a text that tries to go on. -/
def averageQuery : Query :=
  .ofTable "user_info" [⟨"name", .eq, .single (.text "x'; DROP TABLE user_info; --"), .and⟩]
    (some ⟨["city"], [⟨"mean", "AVG(age - 1)"⟩]⟩) none

theorem generate_leaves_iff_average : ∃ b,
    (Generator.mk 5 Date.first).generate averageQuery .hive = .ok b ∧
      ¬Leaves (pieces b.sql.toList) ∧ ¬Leaves (pieces b.countSql.toList) ∧
      ¬Leaves (pieces b.sampleSql.toList) := by
  obtain ⟨b, hb⟩ := isOk_iff_exists.mp (show ((Generator.mk 5 Date.first).generate
    averageQuery .hive).isOk = true by decide +kernel)
  have hfunctions : averageQuery.functions = ["AVG(age - 1)"] := rfl
  have hclosed : ∀ function ∈ averageQuery.functions, Closed function := fun function hf =>
    closed_of_noQuote ((show ∀ f ∈ averageQuery.functions, '\'' ∉ f.toList by decide) function hf)
  obtain ⟨s, list, -, -, -, -, -, hcount, hlist, hall⟩ := generate_leaves_iff hb
  obtain ⟨hmain, hsample⟩ := hlist (hall hclosed).1
  have hstays : ¬Leaves (pieces list.toList) := by
    rw [(hall hclosed).2, hfunctions]
    decide +kernel
  exact ⟨b, hb, mt hmain.mp hstays, hcount, mt hsample.mp hstays⟩

/-- A query whose aggregate function goes on behind a semicolon. -/
def droppingQuery : Query :=
  .ofTable "user_info" [] (some ⟨[], [⟨"n", "COUNT(*) FROM user_info; DROP TABLE user_info; --"⟩]⟩)
    none

/-- A query whose aggregate function opens a literal and leaves it open, so that the text of its
condition comes to stand outside. -/
def openQuery : Query :=
  .ofTable "user_info" [⟨"name", .eq, .single (.text "; DROP TABLE user_info; --"), .and⟩]
    (some ⟨[], [⟨"n", "'"⟩]⟩) none

theorem exists_leaves {q : Query} (h : (((Generator.mk 5 Date.first).generate q .hive).toOption.any
    fun b => decide (Leaves (pieces b.sql.toList))) = true) :
    ∃ b, (Generator.mk 5 Date.first).generate q .hive = .ok b ∧ Leaves (pieces b.sql.toList) := by
  cases hb : (Generator.mk 5 Date.first).generate q .hive with
  | error e =>
    rw [hb] at h
    cases h
  | ok b =>
    rw [hb] at h
    exact ⟨b, rfl, of_decide_eq_true h⟩

/-- The text of an aggregate function can append a second statement, and one that leaves a literal
open can let the text of a condition do so. -/
theorem generate_leaves_dropping :
    (∃ b, (Generator.mk 5 Date.first).generate droppingQuery .hive = .ok b ∧
      Leaves (pieces b.sql.toList)) ∧
    ∃ b, (Generator.mk 5 Date.first).generate openQuery .hive = .ok b ∧
      Leaves (pieces b.sql.toList) :=
  ⟨exists_leaves (by decide +kernel), exists_leaves (by decide +kernel)⟩

end Generator

end QueryDesk.Sql
