import QueryDesk.Engine.Statement
import QueryDesk.Proofs.Sql.Words
import QueryDesk.Sql.Statement

/-!
# How statements end

Engines drop the blanks around a statement and the semicolons behind it.  A statement starts with
SELECT and ends in a word, a closing quote or a closing parenthesis (`Statement.endsFirm_sql`),
whatever its clauses are and whatever its literals hold, so nothing of it is dropped
(`Statement.bareStatement_sql`).
-/

namespace QueryDesk.Sql

/-! ## Last characters -/

/-- The last character of the text is one of these. -/
def EndsIn (p : Char → Prop) (s : String) : Prop := ∃ c, s.toList.getLast? = some c ∧ p c

namespace EndsIn

variable {p : Char → Prop} {s t : String}

theorem mono {q : Char → Prop} (h : EndsIn p s) (hpq : ∀ c, p c → q c) : EndsIn q s := by
  obtain ⟨c, hlast, hc⟩ := h
  exact ⟨c, hlast, hpq c hc⟩

theorem append_left (s : String) (h : EndsIn p t) : EndsIn p (s ++ t) := by
  obtain ⟨c, hlast, hc⟩ := h
  refine ⟨c, ?_, hc⟩
  rw [String.toList_append, List.getLast?_append, hlast]
  rfl

/-- A part that may be missing does not matter. -/
theorem append_clause (hs : EndsIn p s) (ht : t = "" ∨ EndsIn p t) : EndsIn p (s ++ t) := by
  rcases ht with rfl | ht
  · rwa [String.append_empty]
  · exact ht.append_left s

theorem intercalate (sep : String) : ∀ {xs : List String}, xs ≠ [] → (∀ x ∈ xs, EndsIn p x) →
    EndsIn p (sep.intercalate xs)
  | [], h, _ => absurd rfl h
  | [x], _, h => by simpa using h x List.mem_cons_self
  | x :: y :: xs, _, h => by
    rw [String.intercalate_cons_cons]
    exact append_left _ (intercalate sep (List.cons_ne_nil y xs)
      fun z hz => h z (List.mem_cons_of_mem _ hz))

end EndsIn

theorem IsWord.endsIn {s : String} (h : IsWord s.toList) : EndsIn (isWordChar · = true) s :=
  ⟨_, List.getLast?_eq_some_getLast h.ne_nil, h.isWordChar_of_mem (List.getLast_mem h.ne_nil)⟩

theorem Identifier.endsIn (i : Identifier) : EndsIn (isWordChar · = true) i.name :=
  i.isUnsigned.isWord.endsIn

/-! ## Texts that end firmly -/

/-- The text ends in a character that is neither a blank nor a semicolon. -/
def EndsFirm (s : String) : Prop := EndsIn (fun c => Text.isBlank c = false ∧ c ≠ ';') s

theorem firm_of_isWordChar {c : Char} (h : isWordChar c = true) :
    Text.isBlank c = false ∧ c ≠ ';' := by
  have hrange : 45 ≤ c.toNat ∧ c.toNat ≤ 122 ∧ c.toNat ≠ 59 := by
    simp only [isWordChar, isUnsignedChar, continuesIdentifier, startsIdentifier, Bool.or_eq_true,
      Bool.and_eq_true, decide_eq_true_eq, beq_iff_eq, Char.le_def, UInt32.le_iff_toNat_le] at h
    rcases h with ((((h | h) | rfl) | h) | rfl) | rfl
    · change 97 ≤ c.toNat ∧ c.toNat ≤ 122 at h
      omega
    · change 65 ≤ c.toNat ∧ c.toNat ≤ 90 at h
      omega
    · decide
    · change 48 ≤ c.toNat ∧ c.toNat ≤ 57 at h
      omega
    · decide
    · decide
  constructor
  · simp only [Text.isBlank, Bool.or_eq_false_iff, Bool.and_eq_false_iff, decide_eq_false_iff_not,
      beq_eq_false_iff_ne]
    omega
  · rintro rfl
    exact hrange.2.2 rfl

theorem IsWord.endsFirm {s : String} (h : IsWord s.toList) : EndsFirm s :=
  h.endsIn.mono fun _ => firm_of_isWordChar

theorem Identifier.endsFirm (i : Identifier) : EndsFirm i.name :=
  i.isUnsigned.isWord.endsFirm

theorem endsFirm_quote (s : String) : EndsFirm (quote s) := by
  refine ⟨'\'', ?_, by decide, by decide⟩
  rw [quote, String.toList_ofList, Text.quotedBy, List.getLast?_concat]

theorem endsFirm_literalText (l : Literal) : EndsFirm (literalText l) := by
  cases l with
  | text s => exact endsFirm_quote s
  | bool b => exact (literalText_isWord fun _ => Literal.noConfusion).endsFirm
  | int n => exact (literalText_isWord fun _ => Literal.noConfusion).endsFirm
  | float x => exact (literalText_isWord fun _ => Literal.noConfusion).endsFirm

/-- A closing parenthesis ends a text firmly. -/
theorem endsFirm_closing (s : String) : EndsFirm (s ++ ")") :=
  .append_left s ⟨')', rfl, by decide, by decide⟩

theorem Atom.endsFirm (a : Atom) : EndsFirm a.sql := by
  cases a with
  | compare field operator value => exact .append_left _ (endsFirm_literalText value)
  | within field first more => exact endsFirm_closing _
  | between field low high => exact .append_left _ (endsFirm_literalText high)

namespace Filter

theorem endsFirm_chain {x : Join × Atom} {xs : List (Join × Atom)} :
    EndsFirm (chain (x :: xs)) := by
  -- the row grows to the right, and whatever comes last is a predicate
  have hrow : ∀ (xs : List (Join × Atom)) (text : String), EndsFirm text →
      EndsFirm (xs.foldl (fun text x => text ++ " " ++ x.1.name ++ " " ++ x.2.sql) text) := by
    intro xs
    induction xs with
    | nil => exact fun _ h => h
    | cons y xs ih => exact fun text _ => ih _ (.append_left _ y.2.endsFirm)
  exact hrow xs x.2.sql x.2.endsFirm

theorem endsFirm_of_mem_parts {f : Filter} {part : String} (h : part ∈ f.parts) :
    EndsFirm part := by
  rw [parts, List.mem_append] at h
  rcases h with h | h
  · split at h
    · cases h
    · next hsome =>
      obtain ⟨x, xs, hconditions⟩ : ∃ x xs, f.conditions = x :: xs :=
        List.exists_cons_of_ne_nil (by simpa using hsome)
      split at h
      · obtain rfl := List.mem_singleton.mp h
        exact endsFirm_closing _
      · obtain rfl := List.mem_singleton.mp h
        rw [hconditions]
        exact endsFirm_chain
  · obtain ⟨a, -, rfl⟩ := List.mem_map.mp h
    exact a.endsFirm

end Filter

/-! ## Clauses -/

theorem Table.endsFirm (t : Table) : EndsFirm t.sql := by
  rw [sql]
  split
  · exact .append_left _ t.table.endsFirm
  · exact t.table.endsFirm

namespace Statement

variable (s : Statement)

theorem endsFirm_whereClause : s.whereClause = "" ∨ EndsFirm s.whereClause := by
  cases hparts : s.filter.parts with
  | nil =>
    left
    simp [whereClause, Filter.sql?, hparts]
  | cons part rest =>
    have hsql : s.filter.sql? = some (" AND ".intercalate (part :: rest)) := by
      rw [Filter.sql?, hparts]
    rw [whereClause, hsql]
    refine Or.inr (.append_left _ (.intercalate _ (List.cons_ne_nil part rest) fun x hx => ?_))
    exact Filter.endsFirm_of_mem_parts (hparts ▸ hx)

theorem endsFirm_groupByClause : s.groupByClause = "" ∨ EndsFirm s.groupByClause := by
  rw [groupByClause]
  split
  · exact Or.inl rfl
  · next hsome =>
    refine Or.inr (.append_left _ (.intercalate _ (mt List.map_eq_nil_iff.mp hsome) ?_))
    rw [List.forall_mem_map]
    exact fun field _ => field.endsFirm

theorem endsFirm_orderClause : s.orderClause = "" ∨ EndsFirm s.orderClause := by
  rw [orderClause]
  split
  · next direction _ =>
    right
    refine .append_left _ ?_
    cases direction
    · exact ⟨'C', rfl, by decide, by decide⟩
    · exact ⟨'C', rfl, by decide, by decide⟩
  · exact Or.inl rfl

theorem endsFirm_limitClause : s.limitClause = "" ∨ EndsFirm s.limitClause := by
  rw [limitClause]
  split
  · next n _ =>
    have hdigits : IsWord (String.ofList (Decimal.digitsOf n.toNat)).toList := by
      rw [String.toList_ofList]
      exact (digitsOf_isUnsigned n.toNat).isWord
    exact Or.inr (hdigits.endsFirm.append_left _)
  · exact Or.inl rfl

theorem endsFirm_sql : EndsFirm s.sql :=
  (((s.source.endsFirm.append_left _).append_clause s.endsFirm_whereClause).append_clause
    s.endsFirm_groupByClause |>.append_clause s.endsFirm_orderClause).append_clause
      s.endsFirm_limitClause

/-- An engine runs the statement as it is. -/
theorem bareStatement_sql : bareStatement s.sql = s.sql := by
  obtain ⟨c, hlast, hblank, hsemicolon⟩ := s.endsFirm_sql
  obtain ⟨front, hfront⟩ := List.getLast?_eq_some_iff.mp hlast
  have hstart : Text.stripStart s.sql.toList = s.sql.toList := by
    simp only [sql, String.append_assoc, String.toList_append]
    exact Text.stripStart_of_head rfl
  have hdrop : Text.dropTrailing ';' (front ++ [c]) = front ++ [c] := by
    simp [Text.dropTrailing, hsemicolon]
  rw [bareStatement, Text.strip, hstart, hfront, Text.stripEnd_of_last hblank, hdrop, ← hfront,
    String.ofList_toList]

end Statement

end QueryDesk.Sql
