import Mathlib.Data.List.Infix
import QueryDesk.Proofs.Sql.Pieces

/-!
# Balanced parentheses

A text is balanced if no part at its head closes more parentheses than it opens and all that are
opened are closed (`Balanced`).  The scanner with its counter finds out exactly this about the text
outside literals (`balanceOf_eq_ended_iff`).
-/

namespace QueryDesk.Sql

/-- No part at the head of the text closes more parentheses than it opens and were open before. -/
def Within (depth : Nat) (s : List Char) : Prop :=
  ∀ t, t <+: s → t.count ')' ≤ depth + t.count '('

/-- No part at the head of the text closes more parentheses than it opens, and all are closed. -/
def Balanced (s : List Char) : Prop :=
  (∀ t, t <+: s → t.count ')' ≤ t.count '(') ∧ s.count '(' = s.count ')'

instance (s : List Char) : Decidable (Balanced s) :=
  decidable_of_iff ((∀ t ∈ s.inits, t.count ')' ≤ t.count '(') ∧ s.count '(' = s.count ')')
    (by simp only [List.mem_inits, Balanced])

/-- The text outside literals, up to a literal that does not end. -/
def outside : List Piece → List Char
  | [] => []
  | .code c :: rest => c :: outside rest
  | .literal _ :: rest => outside rest
  | .unclosed _ :: _ => []

theorem outside_codes (s : List Char) : outside (s.map .code) = s := by
  induction s with
  | nil => rfl
  | cons c s ih => rw [List.map_cons, outside, ih]

/-! ## One character -/

theorem within_nil (depth : Nat) : Within depth [] := by
  intro t ht
  rw [List.prefix_nil.mp ht]
  exact Nat.zero_le _

theorem within_cons_iff {depth : Nat} {c : Char} {s : List Char} : Within depth (c :: s) ↔
    ∀ t, t <+: s → (c :: t).count ')' ≤ depth + (c :: t).count '(' := by
  constructor
  · intro h t ht
    exact h (c :: t) (List.cons_prefix_cons.mpr ⟨rfl, ht⟩)
  · intro h t ht
    rcases List.prefix_cons_iff.mp ht with rfl | ⟨u, rfl, hu⟩
    · exact Nat.zero_le _
    · exact h u hu

theorem within_opening {depth : Nat} {s : List Char} :
    Within depth ('(' :: s) ↔ Within (depth + 1) s := by
  have hcount : ∀ t : List Char, ('(' :: t).count ')' ≤ depth + ('(' :: t).count '(' ↔
      t.count ')' ≤ depth + 1 + t.count '(' := by
    intro t
    rw [List.count_cons_of_ne (by decide), List.count_cons_self]
    omega
  rw [within_cons_iff, Within]
  simp only [hcount]

theorem within_closing {depth : Nat} {s : List Char} :
    Within depth (')' :: s) ↔ depth ≠ 0 ∧ Within (depth - 1) s := by
  have hcount : ∀ t : List Char, (')' :: t).count ')' ≤ depth + (')' :: t).count '(' ↔
      t.count ')' + 1 ≤ depth + t.count '(' := by
    intro t
    rw [List.count_cons_self, List.count_cons_of_ne (by decide)]
  rw [within_cons_iff, Within]
  simp only [hcount]
  constructor
  · intro h
    have hpos : 1 ≤ depth := by simpa using h [] List.nil_prefix
    exact ⟨by omega, fun t ht => by have := h t ht; omega⟩
  · rintro ⟨hpos, h⟩ t ht
    have := h t ht
    omega

theorem within_other {depth : Nat} {c : Char} (hopen : c ≠ '(') (hclose : c ≠ ')')
    {s : List Char} : Within depth (c :: s) ↔ Within depth s := by
  rw [within_cons_iff, Within]
  simp only [List.count_cons_of_ne hopen, List.count_cons_of_ne hclose]

/-! ## The scanner -/

/-- The scanner comes to its end exactly if the text outside literals stays within its depth, and
the depth at the end is what is left open. -/
theorem balanceOf_eq_ended_iff {ps : List Piece} : ∀ {depth depth' : Nat},
    (∃ inLiteral, balanceOf depth ps = .ended depth' inLiteral) ↔
      Within depth (outside ps) ∧
        depth' + (outside ps).count ')' = depth + (outside ps).count '(' := by
  induction ps with
  | nil => simp [balanceOf, outside, within_nil, eq_comm]
  | cons p ps ih =>
    intro depth depth'
    cases p with
    | literal s => exact ih
    | unclosed s => simp [balanceOf, outside, within_nil, eq_comm]
    | code c =>
      by_cases hopen : c = '('
      · subst hopen
        rw [balanceOf, if_pos rfl, ih, outside, within_opening,
          List.count_cons_of_ne (by decide), List.count_cons_self]
        exact and_congr_right fun _ => by omega
      · by_cases hclose : c = ')'
        · subst hclose
          rw [balanceOf, if_neg (by decide), if_pos rfl, outside, within_closing,
            List.count_cons_self, List.count_cons_of_ne (by decide)]
          by_cases hdepth : depth = 0
          · simp [hdepth]
          · rw [if_neg hdepth, ih, and_assoc, and_iff_right hdepth]
            exact and_congr_right fun _ => by omega
        · rw [balanceOf, if_neg hopen, if_neg hclose, ih, outside, within_other hopen hclose,
            List.count_cons_of_ne hopen, List.count_cons_of_ne hclose]

theorem balanced_iff (ps : List Piece) :
    (∃ inLiteral, balanceOf 0 ps = .ended 0 inLiteral) ↔ Balanced (outside ps) := by
  simp only [balanceOf_eq_ended_iff, Within, Balanced, Nat.zero_add, eq_comm]

end QueryDesk.Sql
