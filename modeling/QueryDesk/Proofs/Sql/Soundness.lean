import QueryDesk.Proofs.Sql.Layout
import QueryDesk.Proofs.Text.Search

/-!
# Which statements pass the structural check

Every statement starts with SELECT and contains FROM, so the check comes down to the parentheses
(`check_defects_eq_nil_iff`).  Literals, identifiers, operators and the parentheses of the renderer
itself leave the balance alone (`Neutral`); what is left are the texts of the aggregate functions
(`balance_sql`).
-/

namespace QueryDesk.Sql

/-! ## The first word and FROM -/

theorem startsIdentifier_not_blank {c : Char} (h : startsIdentifier c = true) :
    Text.isBlank c = false := by
  simp only [startsIdentifier, Bool.or_eq_true, Bool.and_eq_true, decide_eq_true_eq, beq_iff_eq,
    Char.le_def, UInt32.le_iff_toNat_le] at h
  have hrange : 65 ≤ c.toNat ∧ c.toNat ≤ 122 := by
    rcases h with (⟨h, h'⟩ | ⟨h, h'⟩) | rfl
    · change 97 ≤ c.toNat at h
      change c.toNat ≤ 122 at h'
      omega
    · change 65 ≤ c.toNat at h
      change c.toNat ≤ 90 at h'
      omega
    · decide
  simp only [Text.isBlank, Bool.or_eq_false_iff, Bool.and_eq_false_iff, decide_eq_false_iff_not,
    beq_eq_false_iff_ne]
  omega

theorem Table.exists_cons (t : Table) :
    ∃ c rest, t.sql.toList = c :: rest ∧ startsIdentifier c = true := by
  unfold Table.sql
  split
  · next d _ =>
    obtain ⟨c, rest, hname, hc, _⟩ := d.exists_cons
    exact ⟨c, _, by rw [String.toList_append, String.toList_append, hname]; rfl, hc⟩
  · obtain ⟨c, rest, hname, hc, _⟩ := t.table.exists_cons
    exact ⟨c, rest, hname, hc⟩

/-- The upper form of a stripped statement still starts with SELECT and has FROM inside. -/
theorem Statement.upper_strip (s : Statement) : ∃ selected rest,
    Text.upperChars (Text.strip s.sql.toList) =
      "SELECT".toList ++ (selected ++ ("FROM".toList ++ rest)) := by
  obtain ⟨c, table, htable, hc⟩ := s.source.exists_cons
  let rest := c :: table ++ (s.whereClause.toList ++ s.tail.toList)
  have htext : s.sql.toList =
      'S' :: ("ELECT ".toList ++ s.selection.sql.toList ++ " FROM ".toList) ++ rest := by
    simp [Statement.sql, Statement.tail, rest, htable]
  have hblank : ∃ d ∈ rest, Text.isBlank d = false :=
    ⟨c, List.mem_cons_self, startsIdentifier_not_blank hc⟩
  have hstrip : Text.strip s.sql.toList =
      'S' :: ("ELECT ".toList ++ s.selection.sql.toList ++ " FROM ".toList) ++
        Text.stripEnd rest := by
    rw [Text.strip, htext, List.cons_append, Text.stripStart_of_head rfl, ← List.cons_append,
      Text.stripEnd_append _ hblank]
  refine ⟨' ' :: (Text.upperChars s.selection.sql.toList ++ [' ']),
    ' ' :: Text.upperChars (Text.stripEnd rest), ?_⟩
  have hselect : Text.upperChars "ELECT ".toList = "ELECT ".toList := by decide
  have hfrom : Text.upperChars " FROM ".toList = " FROM ".toList := by decide
  have hS : Text.upperChars ['S'] = ['S'] := by decide
  rw [hstrip, List.cons_append, ← List.singleton_append, Text.upperChars_append,
    Text.upperChars_append, Text.upperChars_append, Text.upperChars_append, hselect, hfrom, hS]
  simp

/-- What a balance says about a text. -/
def Balance.defects : Balance → List Defect
  | .ended 0 _ => []
  | _ => [.unbalanced]

/-- The one thing that can be wrong with a statement is the balance of its parentheses. -/
theorem check_defects (s : Statement) :
    (check s.sql).defects = (balance s.sql.toList).defects := by
  obtain ⟨selected, rest, hupper⟩ := s.upper_strip
  have hselect : "SELECT".toList.isPrefixOf (Text.upperChars (Text.strip s.sql.toList)) = true := by
    rw [hupper]
    exact List.isPrefixOf_iff_prefix.mpr (List.prefix_append _ _)
  have hfrom : Text.occurs "FROM".toList (Text.upperChars (Text.strip s.sql.toList)) = true := by
    rw [Text.occurs_iff_infix, hupper, ← List.append_assoc]
    exact List.infix_append' _ _ _
  simp only [check, hselect, hfrom, if_true, List.nil_append]
  rfl

/-- A statement is refused for its parentheses only. -/
theorem check_defects_eq_nil_iff (s : Statement) :
    (check s.sql).defects = [] ↔ ∃ inLiteral, balance s.sql.toList = .ended 0 inLiteral := by
  rw [check_defects]
  cases balance s.sql.toList with
  | closedEarly => simp [Balance.defects]
  | ended depth inLiteral => cases depth <;> simp [Balance.defects]

/-! ## Parts that leave the balance alone -/

/-- Pieces that a balance passes over at any depth. -/
def Neutral (ps : List Piece) : Prop :=
  ∀ depth rest, balanceOf depth (ps ++ rest) = balanceOf depth rest

/-- Text without parentheses. -/
theorem neutral_codes {s : String} (hopen : '(' ∉ s.toList) (hclose : ')' ∉ s.toList) :
    Neutral (codes s) := by
  have hall : ∀ cs : List Char, '(' ∉ cs → ')' ∉ cs → Neutral (cs.map .code) := by
    intro cs
    induction cs with
    | nil => intro _ _ _ _; rfl
    | cons c cs ih =>
      intro h h' depth rest
      rw [List.mem_cons, not_or] at h h'
      rw [List.map_cons, List.cons_append, balanceOf, if_neg (Ne.symm h.1), if_neg (Ne.symm h'.1)]
      exact ih h.2 h'.2 depth rest
  exact hall s.toList hopen hclose

theorem neutral_of_isPlain {s : String} (h : IsPlain s) : Neutral (codes s) :=
  neutral_codes (h.not_mem rfl) (h.not_mem rfl)

/-- Regular pieces open and close their own parentheses only. -/
theorem Regular.neutral {ps : List Piece} (h : Regular ps) : Neutral ps := by
  induction h with
  | plain h => exact neutral_of_isPlain h
  | word h => exact neutral_codes (h.not_mem rfl) (h.not_mem rfl)
  | literal t => exact fun _ _ => rfl
  | append _ _ hp hq =>
    intro depth rest
    rw [List.append_assoc, hp, hq]
  | @parens ps _ hp =>
    intro depth rest
    show balanceOf (depth + 1) ((ps ++ codes ")") ++ rest) = balanceOf depth rest
    rw [List.append_assoc, hp]
    rfl

/-! ## What is left: the aggregate functions -/

/-- The pieces of the aggregate functions of a selection, in order. -/
def Selection.functionPieces (s : Selection) : List Piece :=
  s.functions.flatMap fun function => Sql.pieces function.toList

theorem Selection.functionPieces_cons (c : Column) (cs : List Column) :
    (columns (c :: cs)).functionPieces =
      (columns [c]).functionPieces ++ (columns cs).functionPieces := by
  cases c <;> simp [functionPieces, functions]

theorem balanceOf_append_congr {ps qs : List Piece}
    (h : ∀ depth, balanceOf depth ps = balanceOf depth qs) (rs : List Piece) :
    ∀ depth, balanceOf depth (rs ++ ps) = balanceOf depth (rs ++ qs) := by
  induction rs with
  | nil => exact h
  | cons r rs ih =>
    intro depth
    cases r with
    | code c => simp only [List.cons_append, balanceOf, ih]
    | literal s => exact ih depth
    | unclosed s => rfl

theorem Column.balanceOf_pieces (c : Column) (rest : List Piece) (depth : Nat) :
    balanceOf depth (c.pieces ++ rest) =
      balanceOf depth ((Selection.columns [c]).functionPieces ++ rest) := by
  cases c with
  | aggregate function label =>
    have hlabel : IsPlain (" as " ++ label.name) := IsPlain.append (by decide) label.isPlain
    rw [Column.pieces, List.append_assoc]
    have hpass := balanceOf_append_congr (fun d => neutral_of_isPlain hlabel d rest)
      (Sql.pieces function.toList) depth
    simpa [Selection.functionPieces, Selection.functions] using hpass
  | field name => exact neutral_of_isPlain name.isPlain depth rest

theorem balanceOf_columns (rest : List Piece) : ∀ (cs : List Column) (depth : Nat),
    balanceOf depth ((codes ", ").intercalate (cs.map Column.pieces) ++ rest) =
      balanceOf depth ((Selection.columns cs).functionPieces ++ rest)
  | [], _ => rfl
  | [c], depth => by simpa using c.balanceOf_pieces rest depth
  | c :: c' :: cs, depth => by
    have htail := fun depth => balanceOf_columns rest (c' :: cs) depth
    have hcomma : Neutral (codes ", ") := neutral_of_isPlain (by decide)
    rw [Selection.functionPieces_cons, List.map_cons, List.map_cons, List.intercalate_cons_cons,
      List.append_assoc, List.append_assoc, c.balanceOf_pieces, List.append_assoc]
    refine balanceOf_append_congr (fun depth => ?_) _ depth
    rw [hcomma, ← List.map_cons, htail]

/-- The balance of a selection is that of its aggregate functions. -/
theorem Selection.balanceOf_pieces (s : Selection) (rest : List Piece) (depth : Nat) :
    balanceOf depth (s.pieces ++ rest) = balanceOf depth (s.functionPieces ++ rest) := by
  cases s with
  | rowCount => rfl
  | columns cs =>
    cases cs with
    | nil => rfl
    | cons c cs => exact balanceOf_columns rest (c :: cs) depth

/-- The balance of a statement is that of its aggregate functions alone. -/
theorem Statement.balance_sql {s : Statement}
    (h : ∀ function ∈ s.selection.functions, Closed function) :
    balance s.sql.toList = balanceOf 0 s.selection.functionPieces := by
  have hrest := balanceOf_append_congr (fun depth => s.restPieces_regular.neutral depth [])
    s.selection.functionPieces 0
  rw [balance_eq, pieces_sql h, pieces, neutral_of_isPlain (by decide), Selection.balanceOf_pieces]
  simpa using hrest

/-! ## Unterminated literals -/

theorem balanceOf_ne_unclosed {ps : List Piece} (h : ∀ t, Piece.unclosed t ∉ ps) :
    ∀ depth depth', balanceOf depth ps ≠ .ended depth' true := by
  induction ps with
  | nil => intro depth depth' heq; simp [balanceOf] at heq
  | cons p ps ih =>
    have ih := ih fun t ht => h t (List.mem_cons_of_mem _ ht)
    intro depth depth'
    cases p with
    | code c =>
      rw [balanceOf]
      split
      · exact ih _ _
      · split
        · split
          · simp
          · exact ih _ _
        · exact ih _ _
    | literal s => exact ih depth depth'
    | unclosed s => exact absurd List.mem_cons_self (h s)

theorem Selection.functionPieces_closed {s : Selection}
    (h : ∀ function ∈ s.functions, Closed function) (t : List Char) :
    Piece.unclosed t ∉ s.functionPieces := by
  intro ht
  obtain ⟨function, hmem, hpiece⟩ := List.mem_flatMap.mp ht
  exact h function hmem t hpiece

/-- A statement whose aggregate functions close their literals gets no warning. -/
theorem check_warnings_eq_nil {s : Statement}
    (h : ∀ function ∈ s.selection.functions, Closed function) : (check s.sql).warnings = [] := by
  simp only [check, Statement.balance_sql h]
  split
  · next depth heq =>
    exact absurd heq (balanceOf_ne_unclosed (Selection.functionPieces_closed h) 0 depth)
  · rfl

theorem closed_of_balanceOf {ps : List Piece} : ∀ {depth depth' : Nat},
    balanceOf depth ps = .ended depth' false → ∀ t, Piece.unclosed t ∉ ps := by
  induction ps with
  | nil => intro _ _ _ t ht; cases ht
  | cons p ps ih =>
    intro depth depth' h t ht
    cases p with
    | code c =>
      have ht := (List.mem_cons.mp ht).resolve_left Piece.noConfusion
      rw [balanceOf] at h
      split at h
      · exact ih h t ht
      · split at h
        · split at h
          · cases h
          · exact ih h t ht
        · exact ih h t ht
    | literal s => exact ih h t ((List.mem_cons.mp ht).resolve_left Piece.noConfusion)
    | unclosed s => simp [balanceOf] at h

/-- A statement that passes the check closes its literals if its aggregate functions do. -/
theorem Statement.closed_sql {s : Statement}
    (h : ∀ function ∈ s.selection.functions, Closed function)
    (hsound : (check s.sql).defects = []) : Closed s.sql := by
  obtain ⟨inLiteral, hbalance⟩ := (check_defects_eq_nil_iff s).mp hsound
  cases inLiteral with
  | false => exact closed_of_balanceOf (balance_eq s.sql.toList ▸ hbalance)
  | true =>
    rw [balance_sql h] at hbalance
    exact absurd hbalance (balanceOf_ne_unclosed (Selection.functionPieces_closed h) 0 0)

end QueryDesk.Sql
