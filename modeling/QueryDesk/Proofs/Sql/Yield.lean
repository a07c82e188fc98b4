import QueryDesk.Proofs.Sql.Layout
import QueryDesk.Proofs.Sql.Predicates
import QueryDesk.Proofs.Sql.Reader

/-!
# The layout as the reader sees it

`Yields ps is` says that pieces, wherever a predicate may start, are read as the items `is`,
provided that no word follows them.  Atomic predicates yield themselves (`Yields.atom`), and yields
are put together with connectives and parentheses, so the pieces of conditions in a row yield their
predicates in order (`yields_chainPieces`).
-/

namespace QueryDesk.Sql

/-! ## Where words end -/

/-- Pieces that do not continue a word. -/
def Breaks (ps : List Piece) : Prop := ∀ w ts, spacedTokens ps ≠ .word w :: ts

theorem Breaks.nil : Breaks [] := fun _ _ h => nomatch h

theorem Breaks.code {c : Char} (hc : isWordChar c = false) (rest : List Piece) :
    Breaks (.code c :: rest) := by
  intro w ts h
  simp only [spacedTokens, pushChar, hc, Bool.false_eq_true, if_false] at h
  split at h
  · split at h <;> cases h
  · repeat (split at h; · cases h)
    cases h

theorem Breaks.codes {s : String} (h : s.toList.head?.any (!isWordChar ·) = true)
    (rest : List Piece) : Breaks (codes s ++ rest) := by
  cases hs : s.toList with
  | nil => rw [hs] at h; cases h
  | cons c t =>
    rw [hs, List.head?_cons, Option.any_some, Bool.not_eq_true'] at h
    rw [Sql.codes, hs]
    exact Breaks.code h _

theorem pushChar_word {c : Char} (hc : isWordChar c = true) (w : List Char) (ts : List Token) :
    pushChar c (.word w :: ts) = .word (c :: w) :: ts := by
  rw [pushChar, if_pos hc]

theorem pushChar_start {c : Char} (hc : isWordChar c = true) {ps : List Piece} (h : Breaks ps) :
    pushChar c (spacedTokens ps) = .word [c] :: spacedTokens ps := by
  unfold pushChar
  rw [if_pos hc]
  split
  · next w ts heq => exact absurd heq (h w ts)
  · rfl

/-- A word that nothing continues is one token. -/
theorem spacedTokens_word {w : List Char} (hw : IsWord w) {rest : List Piece} (h : Breaks rest) :
    spacedTokens (w.map .code ++ rest) = .word w :: spacedTokens rest := by
  have hne := hw.ne_nil
  have hchars := fun c hc => hw.isWordChar_of_mem (c := c) hc
  clear hw
  induction w with
  | nil => exact absurd rfl hne
  | cons c w ih =>
    have hc := hchars c List.mem_cons_self
    cases w with
    | nil => exact pushChar_start hc h
    | cons d w =>
      have ih := ih (List.cons_ne_nil d w) fun e he => hchars e (List.mem_cons_of_mem c he)
      rw [List.map_cons, List.cons_append, spacedTokens, ih, pushChar_word hc]

theorem tokens_word {w : List Char} (hw : IsWord w) {rest : List Piece} (h : Breaks rest) :
    tokens (w.map .code ++ rest) = .word w :: tokens rest := by
  rw [tokens, spacedTokens_word hw h]
  rfl

theorem tokens_operator (o : Operator) (rest : List Piece) :
    tokens (codes (" " ++ o.sql ++ " ") ++ rest) = operatorToken o :: tokens rest := by
  cases o <;> rfl

theorem tokens_join (j : Join) (rest : List Piece) :
    tokens (codes (" " ++ j.name ++ " ") ++ rest) = .word j.name.toList :: tokens rest := by
  cases j <;> rfl

/-! ## Values and predicates as they are shown -/

/-- The value that a literal is shown as. -/
def shown : Literal → Value
  | .text s => .text s.toList
  | l => .word (literalText l).toList

theorem tokens_literal (l : Literal) {rest : List Piece} (h : Breaks rest) :
    ∃ t, tokens (literalPieces l ++ rest) = t :: tokens rest ∧ t.value? = some (shown l) := by
  have hword : ∀ l, (∀ s, l ≠ .text s) → literalPieces l = codes (literalText l) →
      tokens (literalPieces l ++ rest) = .word (literalText l).toList :: tokens rest := by
    intro l hl heq
    rw [heq]
    exact tokens_word (literalText_isWord hl) h
  cases l with
  | text s => exact ⟨.text s.toList, rfl, rfl⟩
  | bool b => exact ⟨_, hword (.bool b) (fun _ => Literal.noConfusion) rfl, rfl⟩
  | int n => exact ⟨_, hword (.int n) (fun _ => Literal.noConfusion) rfl, rfl⟩
  | float x => exact ⟨_, hword (.float x) (fun _ => Literal.noConfusion) rfl, rfl⟩

/-! ## Pieces that yield items -/

/-- Pieces that are read as the given items where a predicate may start. -/
def Yields (ps : List Piece) (is : List Item) : Prop :=
  ∀ rest, Breaks rest →
    items .start (tokens (ps ++ rest)) = (items .afterPredicate (tokens rest)).map (is ++ ·)

theorem tokens_comma (rest : List Piece) :
    tokens (codes ", " ++ rest) = .comma :: tokens rest := rfl

theorem tokens_closing (rest : List Piece) :
    tokens (codes ")" ++ rest) = .closing :: tokens rest := rfl

/-- Reading one token further. -/
theorem items_cons {place next : Place} {t : Token} {item : Option Item} {ts : List Token}
    (h : step place t = some (next, item)) :
    items place (t :: ts) = (items next ts).map (item.toList ++ ·) := by
  rw [items, h]

/-- Reading one token further, no item being completed. -/
theorem items_cons_none {place next : Place} {t : Token} {ts : List Token}
    (h : step place t = some (next, none)) : items place (t :: ts) = items next ts := by
  rw [items_cons h]
  simp

theorem items_column (i : Identifier) {rest : List Piece} (h : Breaks rest) :
    items .start (tokens (codes i.name ++ rest)) = items (.column i.name.toList) (tokens rest) := by
  have htokens : tokens (codes i.name ++ rest) = .word i.name.toList :: tokens rest :=
    tokens_word i.isUnsigned.isWord h
  rw [htokens, items_cons_none rfl]

/-- Reading a value that completes a predicate. -/
theorem items_literal {place next : Place} {item : Value → Item}
    (hplace : ∀ t v, t.value? = some v → step place t = some (next, some (item v))) (l : Literal)
    {rest : List Piece} (h : Breaks rest) :
    items place (tokens (literalPieces l ++ rest)) =
      (items next (tokens rest)).map (item (shown l) :: ·) := by
  obtain ⟨t, ht, hvalue⟩ := tokens_literal l h
  rw [ht, items_cons (hplace t _ hvalue)]
  rfl

/-- Reading a value that does not. -/
theorem items_literal_none {place : Place} {next : Value → Place}
    (hplace : ∀ t v, t.value? = some v → step place t = some (next v, none)) (l : Literal)
    {rest : List Piece} (h : Breaks rest) :
    items place (tokens (literalPieces l ++ rest)) = items (next (shown l)) (tokens rest) := by
  obtain ⟨t, ht, hvalue⟩ := tokens_literal l h
  rw [ht, items_cons_none (hplace t _ hvalue)]

/-- Reading the values of a list up to its closing parenthesis. -/
theorem items_values (field : List Char) {rest : List Piece} :
    ∀ (l : Literal) (ls : List Literal) (before : List Value),
      items (.listItem field before)
          (tokens ((codes ", ").intercalate ((l :: ls).map literalPieces) ++ (codes ")" ++ rest))) =
        (items .afterPredicate (tokens rest)).map
          (.predicate ⟨field, .isIn, before ++ (l :: ls).map shown⟩ :: ·) := by
  have hitem : ∀ before t v, t.value? = some v →
      step (.listItem field before) t = some (.listNext field (before ++ [v]), none) := by
    intro before t v h
    simp [step, h]
  intro l ls
  induction ls generalizing l with
  | nil =>
    intro before
    rw [List.map_singleton, List.intercalate_singleton,
      items_literal_none (hitem before) l (Breaks.codes (by decide) _), tokens_closing,
      items_cons rfl]
    rfl
  | cons l' ls ih =>
    intro before
    rw [List.map_cons, List.map_cons, List.intercalate_cons_cons, List.append_assoc,
      List.append_assoc, items_literal_none (hitem before) l (Breaks.codes (by decide) _),
      tokens_comma, items_cons_none rfl, ← List.map_cons, ih l' (before ++ [shown l]),
      List.append_assoc]
    rfl

namespace Yields

theorem within (field : Identifier) (first : Literal) (more : List Literal) :
    Yields (Atom.within field first more).pieces
      [.predicate ⟨field.name.toList, .isIn, (first :: more).map shown⟩] := by
  intro rest hrest
  have hin : ∀ ps, tokens (codes " IN (" ++ ps) = operatorToken .isIn :: .opening :: tokens ps :=
    fun _ => rfl
  rw [Atom.pieces, codes_append, List.append_assoc, List.append_assoc, List.append_assoc,
    items_column field (Breaks.codes (by decide) _), hin, items_cons_none rfl,
    items_cons_none rfl, items_values]
  rfl

theorem between (field : Identifier) (low high : Literal) :
    Yields (Atom.between field low high).pieces
      [.predicate ⟨field.name.toList, .between, [shown low, shown high]⟩] := by
  intro rest hrest
  have hbetween : ∀ ps, tokens (codes " BETWEEN " ++ ps) = operatorToken .between :: tokens ps :=
    fun _ => rfl
  have hand : ∀ ps, tokens (codes " AND " ++ ps) = .word Join.and.name.toList :: tokens ps :=
    fun _ => rfl
  have hlow : ∀ t v, t.value? = some v → step (.betweenLow field.name.toList) t =
      some (.betweenAnd field.name.toList v, none) := by
    intro t v h
    simp [step, h]
  have hmiddle : step (.betweenAnd field.name.toList (shown low)) (.word Join.and.name.toList) =
      some (.betweenHigh field.name.toList (shown low), none) := rfl
  have hhigh : ∀ t v, t.value? = some v → step (.betweenHigh field.name.toList (shown low)) t =
      some (.afterPredicate, some (.predicate ⟨field.name.toList, .between, [shown low, v]⟩)) := by
    intro t v h
    simp [step, h]
  rw [Atom.pieces, codes_append, List.append_assoc, List.append_assoc, List.append_assoc,
    List.append_assoc, items_column field (Breaks.codes (by decide) _), hbetween,
    items_cons_none rfl, items_literal_none hlow low (Breaks.codes (by decide) _), hand,
    items_cons_none hmiddle,
    items_literal hhigh high hrest]
  rfl

/-- An atomic predicate yields itself. -/
theorem atom {field : Identifier} {o : Operator} {v : Operand} {a : Atom} (h : Fits field o v a) :
    Yields a.pieces [.predicate ⟨field.name.toList, o, v.literals.map shown⟩] := by
  intro rest hrest
  cases h with
  | compare ho value =>
    have hoperator : step (.column field.name.toList) (operatorToken o) =
        some (.comparison field.name.toList o, none) := by
      obtain ⟨hin, hbetween⟩ := ho
      cases o <;> first | contradiction | rfl
    have hvalue : ∀ t v, t.value? = some v → step (.comparison field.name.toList o) t =
        some (.afterPredicate, some (.predicate ⟨field.name.toList, o, [v]⟩)) := by
      intro t v h
      simp [step, h]
    have hbreak : Breaks (codes (" " ++ o.sql ++ " ") ++ (literalPieces value ++ rest)) :=
      Breaks.codes (by simp; rfl) _
    have hassoc : field.name ++ " " ++ o.sql ++ " " = field.name ++ (" " ++ o.sql ++ " ") := by
      simp only [String.append_assoc]
    rw [Atom.pieces, hassoc, codes_append, List.append_assoc, List.append_assoc,
      items_column field hbreak, tokens_operator, items_cons_none hoperator,
      items_literal hvalue value hrest]
    rfl
  | within first more => exact within field first more rest hrest
  | withinSingle value => exact within field value [] rest hrest
  | between low high => exact between field low high rest hrest
  | betweenList low high => exact between field low high rest hrest

/-- A connective between two yields. -/
theorem join {ps qs : List Piece} {is js : List Item} (hp : Yields ps is) (j : Join)
    (hq : Yields qs js) :
    Yields (ps ++ (codes (" " ++ j.name ++ " ") ++ qs)) (is ++ .join j :: js) := by
  intro rest hrest
  have hbreak : Breaks (codes (" " ++ j.name ++ " ") ++ (qs ++ rest)) :=
    Breaks.codes (by simp; rfl) _
  have hjoin : step .afterPredicate (.word j.name.toList) = some (.start, some (.join j)) := by
    cases j <;> rfl
  rw [List.append_assoc, List.append_assoc, hp _ hbreak, tokens_join, items_cons hjoin,
    hq rest hrest, Option.map_map, Option.map_map]
  simp [Function.comp_def]

/-- Parentheses around a yield. -/
theorem parens {ps : List Piece} {is : List Item} (hp : Yields ps is) :
    Yields (codes "(" ++ (ps ++ codes ")")) (.opening :: (is ++ [.closing])) := by
  intro rest _
  have hopening : ∀ qs, tokens (codes "(" ++ qs) = .opening :: tokens qs := fun _ => rfl
  have hstart : step .start .opening = some (.start, some .opening) := rfl
  have hend : step .afterPredicate .closing = some (.afterPredicate, some .closing) := rfl
  rw [List.append_assoc, List.append_assoc, hopening, items_cons hstart,
    hp _ (Breaks.codes (by decide) _), tokens_closing, items_cons hend, Option.map_map,
    Option.map_map]
  simp [Function.comp_def]

/-- Yields joined by AND. -/
theorem intercalate {pss : List (List Piece)} {iss : List (List Item)}
    (h : List.Forall₂ Yields pss iss) (hne : pss ≠ []) :
    Yields ((codes " AND ").intercalate pss) ([Item.join .and].intercalate iss) := by
  induction h with
  | nil => exact absurd rfl hne
  | @cons ps is pss iss hp h ih =>
    cases h with
    | nil => simpa using hp
    | cons =>
      rw [List.intercalate_cons_cons, List.intercalate_cons_cons, List.append_assoc,
        List.append_assoc]
      exact hp.join .and (ih (List.cons_ne_nil _ _))

end Yields

/-! ## Filters -/

/-- The predicate of a condition, as it is shown. -/
def predicateOf (c : Condition) : Predicate :=
  ⟨c.field.toList, c.operator, c.value.literals.map shown⟩

/-- The items that continue a row of predicates. -/
def rowTail (xs : List (Join × Predicate)) : List Item :=
  xs.flatMap fun x => [.join x.1, .predicate x.2]

theorem yields_of_atom {c : Condition} {a : Atom} (h : atom c = .ok a) :
    Yields a.pieces [.predicate (predicateOf c)] := by
  obtain ⟨field, hfield, -, hfits⟩ := atom_eq_ok_iff.mp h
  rw [predicateOf, ← identifier_name hfield]
  exact Yields.atom hfits

/-- Conditions in a row yield their predicates with the joins between them. -/
theorem yields_chainPieces {c : Condition} {cs : List Condition} {x : Join × Atom}
    {xs : List (Join × Atom)} (hx : atom c = .ok x.2)
    (h : List.Forall₂ (fun c x => c.join = x.1 ∧ atom c = .ok x.2) cs xs) :
    Yields (Filter.chainPieces (x :: xs))
      (.predicate (predicateOf c) :: rowTail (cs.map fun c => (c.join, predicateOf c))) := by
  -- the row grows to the right, as its text does
  have hrow : ∀ {ps : List Piece} {is : List Item}, Yields ps is →
      Yields (ps ++ xs.flatMap fun x => codes (" " ++ x.1.name ++ " ") ++ x.2.pieces)
        (is ++ rowTail (cs.map fun c => (c.join, predicateOf c))) := by
    clear hx
    induction h with
    | nil => intro ps is hp; simpa [rowTail] using hp
    | @cons c x cs xs hcx _ ih =>
      obtain ⟨hjoin, ha⟩ := hcx
      intro ps is hp
      have hnext := ih (hp.join x.1 (yields_of_atom ha))
      rw [List.flatMap_cons, ← List.append_assoc]
      rw [List.append_assoc is] at hnext
      simpa [rowTail, hjoin] using hnext
  exact hrow (yields_of_atom hx)

end QueryDesk.Sql
