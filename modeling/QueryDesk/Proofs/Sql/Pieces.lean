import Mathlib.Data.List.Forall2
import QueryDesk.Sql.Check
import QueryDesk.Sql.Predicate

/-!
# Texts cut at their literals

The quoting rule of SQL as a scanner: outside a literal a quote opens one, inside it a doubled quote
is one quote character and a lone quote closes it.  `pieces` cuts any text into the characters
outside literals and the literals, each decoded.

`Reads s ps` says that the text `s` is cut into `ps` wherever it stands outside a literal, provided
that no quote follows it; a quote directly after a closing quote would double it.  Texts without
quotes read as their characters (`Reads.codes`), a quoted text as one literal with its content
(`Reads.quote`), and texts put side by side as their pieces side by side (`Reads.append`).  The
structural check sees exactly the parentheses among the pieces (`balance_eq`).
-/

namespace QueryDesk.Sql

/-- A piece of a text that holds SQL literals. -/
inductive Piece where
  | code (c : Char)
  /-- A literal with its content. -/
  | literal (s : List Char)
  /-- A literal that the text ends in. -/
  | unclosed (s : List Char)
deriving DecidableEq, Repr

/-- The pieces of a text that starts outside literals, or inside one whose content so far is
given. -/
def piecesFrom : Option (List Char) → List Char → List Piece
  | none, [] => []
  | some s, [] => [.unclosed s]
  | none, c :: rest =>
    if c = '\'' then piecesFrom (some []) rest else .code c :: piecesFrom none rest
  | some s, '\'' :: '\'' :: rest => piecesFrom (some (s ++ ['\''])) rest
  | some s, c :: rest =>
    if c = '\'' then .literal s :: piecesFrom none rest else piecesFrom (some (s ++ [c])) rest

def pieces (s : List Char) : List Piece := piecesFrom none s

/-- The characters of a text as pieces. -/
def codes (s : String) : List Piece := s.toList.map .code

/-- The piece without the content of its literal. -/
def Piece.hollow : Piece → Piece
  | .code c => .code c
  | .literal _ => .literal []
  | .unclosed _ => .unclosed []

def Piece.content? : Piece → Option (List Char)
  | .literal s => some s
  | _ => none

/-- What stands outside the literals of a text, with the places of the literals. -/
def outline (s : String) : List Piece := (pieces s.toList).map Piece.hollow

/-- The contents of the literals of a text, in order. -/
def literals (s : String) : List (List Char) := (pieces s.toList).filterMap Piece.content?

/-- A text in which every literal that is opened is closed. -/
def Closed (s : String) : Prop := ∀ t, Piece.unclosed t ∉ pieces s.toList

/-! ## Scanning -/

theorem codes_append (s t : String) : codes (s ++ t) = codes s ++ codes t := by
  simp [codes]

theorem pieces_nil : pieces [] = [] := rfl

theorem pieces_cons {c : Char} (hc : c ≠ '\'') (rest : List Char) :
    pieces (c :: rest) = .code c :: pieces rest := by
  simp [pieces, piecesFrom, hc]

/-- Text without quotes is passed through, whatever follows it. -/
theorem pieces_append_of_not_mem {s : List Char} (h : '\'' ∉ s) (rest : List Char) :
    pieces (s ++ rest) = s.map .code ++ pieces rest := by
  induction s with
  | nil => rfl
  | cons c s ih =>
    rw [List.mem_cons, not_or] at h
    rw [List.cons_append, pieces_cons (Ne.symm h.1), ih h.2]
    rfl

/-- The inside of a quoted text is read back up to its closing quote. -/
theorem piecesFrom_doubled (t : List Char) {rest : List Char} (h : rest.head? ≠ some '\'') :
    ∀ s, piecesFrom (some s) (Text.doubled '\'' t ++ '\'' :: rest) =
      .literal (s ++ t) :: pieces rest := by
  induction t with
  | nil =>
    intro s
    cases rest with
    | nil => simp [Text.doubled, piecesFrom, pieces]
    | cons c rest =>
      have hc : c ≠ '\'' := by simpa using h
      simp [Text.doubled, piecesFrom, pieces, hc]
  | cons c t ih =>
    intro s
    by_cases hc : c = '\''
    · simp [Text.doubled, piecesFrom, hc, ih]
    · simp [Text.doubled, piecesFrom, hc, ih]

/-- Reading on after a text whose literals are closed. -/
theorem piecesFrom_append {rest : List Char} (hrest : rest.head? ≠ some '\'') :
    ∀ (o : Option (List Char)) (s : List Char), (∀ t, Piece.unclosed t ∉ piecesFrom o s) →
      piecesFrom o (s ++ rest) = piecesFrom o s ++ pieces rest := by
  intro o s
  fun_induction piecesFrom o s with
  | case1 => intro _; rfl
  | case2 s => intro h; exact absurd (List.mem_singleton_self _) (h s)
  | case3 s ih =>
    intro h
    simpa [piecesFrom] using ih h
  | case4 c s hc ih =>
    intro h
    simpa [piecesFrom, hc] using ih fun t ht => h t (List.mem_cons_of_mem _ ht)
  | case5 o s ih =>
    intro h
    simpa [piecesFrom] using ih h
  | case6 o s hne ih =>
    intro h
    -- the quote closes the literal only because no other quote follows it
    have htail := ih fun t ht => h t (List.mem_cons_of_mem _ ht)
    cases s with
    | nil =>
      cases rest with
      | nil => rfl
      | cons d rest =>
        have hd : d ≠ '\'' := by simpa using hrest
        simp [piecesFrom, pieces, hd]
    | cons d s =>
      have hd : d ≠ '\'' := fun h => hne s rfl (by rw [h])
      rw [List.cons_append] at htail ⊢
      simp [piecesFrom, hd] at htail ⊢
      exact htail
  | case7 o c s hne hc ih =>
    intro h
    simpa [piecesFrom, hc] using ih h

/-! ## Texts that read as given pieces -/

/-- The text is cut into the pieces wherever it stands outside literals with no quote after it. -/
def Reads (s : String) (ps : List Piece) : Prop :=
  ∀ rest : List Char, rest.head? ≠ some '\'' → pieces (s.toList ++ rest) = ps ++ pieces rest

namespace Reads

theorem pieces_eq {s : String} {ps : List Piece} (h : Reads s ps) : pieces s.toList = ps := by
  have := h [] (by simp)
  simpa [pieces_nil] using this

theorem of_closed {s : String} (h : Closed s) : Reads s (pieces s.toList) :=
  fun _ hrest => piecesFrom_append hrest none s.toList h

theorem append {s t : String} {ps qs : List Piece} (hs : Reads s ps) (ht : Reads t qs)
    (hhead : t.toList.head? ≠ some '\'') : Reads (s ++ t) (ps ++ qs) := by
  intro rest hrest
  rw [String.toList_append, List.append_assoc, hs, ht rest hrest, List.append_assoc]
  cases ht' : t.toList with
  | nil => exact hrest
  | cons c t => rwa [ht'] at hhead

theorem codes {s : String} (h : '\'' ∉ s.toList) : Reads s (codes s) :=
  fun rest _ => pieces_append_of_not_mem h rest

/-- Nothing stands between text without quotes and what follows it, not even a quote. -/
theorem codes_append {s t : String} {qs : List Piece} (hs : '\'' ∉ s.toList) (ht : Reads t qs) :
    Reads (s ++ t) (Sql.codes s ++ qs) := by
  intro rest hrest
  rw [String.toList_append, List.append_assoc, pieces_append_of_not_mem hs, ht rest hrest,
    List.append_assoc]
  rfl

theorem quote (t : String) : Reads (quote t) [.literal t.toList] := by
  intro rest hrest
  have h := piecesFrom_doubled t.toList hrest []
  simpa [Sql.quote, Text.quotedBy, pieces, piecesFrom] using h

theorem forall₂_map {α : Type} {text : α → String} {read : α → List Piece} {xs : List α}
    (h : ∀ x ∈ xs, Reads (text x) (read x)) :
    List.Forall₂ Reads (xs.map text) (xs.map read) := by
  rw [List.forall₂_map_left_iff, List.forall₂_map_right_iff, List.forall₂_same]
  exact h

/-- Texts joined by a separator without quotes. -/
theorem intercalate {sep : String} (hsep : '\'' ∉ sep.toList) (hne : sep.toList ≠ [])
    {ss : List String} {pss : List (List Piece)} (h : List.Forall₂ Reads ss pss) :
    Reads (sep.intercalate ss) ((Sql.codes sep).intercalate pss) := by
  induction h with
  | nil => exact codes (s := "") (by simp)
  | @cons s ps ss pss hs h ih =>
    cases h with
    | nil => simpa using hs
    | cons =>
      rw [String.intercalate_cons_cons, List.intercalate_cons_cons, String.append_assoc,
        List.append_assoc]
      refine hs.append (codes_append hsep ih) ?_
      rw [String.toList_append]
      cases hsep' : sep.toList with
      | nil => exact absurd hsep' hne
      | cons c rest =>
        rw [hsep', List.mem_cons, not_or] at hsep
        simpa using Ne.symm hsep.1

end Reads

/-! ## Parentheses -/

/-- The balance of the parentheses among pieces that start at a depth. -/
def balanceOf (depth : Nat) : List Piece → Balance
  | [] => .ended depth false
  | .code c :: rest =>
    if c = '(' then balanceOf (depth + 1) rest
    else if c = ')' then if depth = 0 then .closedEarly else balanceOf (depth - 1) rest
    else balanceOf depth rest
  | .literal _ :: rest => balanceOf depth rest
  | .unclosed _ :: _ => .ended depth true

theorem balanceFrom_eq (o : Option (List Char)) (s : List Char) :
    ∀ depth, balanceFrom depth o.isSome s = balanceOf depth (piecesFrom o s) := by
  fun_induction piecesFrom o s with
  | case1 => intro depth; rfl
  | case2 s => intro depth; rfl
  | case3 s ih => intro depth; simpa [balanceFrom] using ih depth
  | case4 c s hc ih =>
    intro depth
    have ih : ∀ depth, balanceFrom depth false s = balanceOf depth (piecesFrom none s) := ih
    simp [balanceFrom, balanceOf, hc, ih]
  | case5 o s ih => intro depth; simpa [balanceFrom] using ih depth
  | case6 o s hne ih => intro depth; simpa [balanceFrom, balanceOf] using ih depth
  | case7 o c s hne hc ih =>
    intro depth
    simpa [balanceFrom, hc] using ih depth

/-- The structural check balances the parentheses that stand outside literals. -/
theorem balance_eq (s : List Char) : balance s = balanceOf 0 (pieces s) :=
  balanceFrom_eq none s 0

end QueryDesk.Sql
