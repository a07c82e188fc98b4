import Mathlib.Data.List.TakeWhile
import QueryDesk.Text.Blank
import QueryDesk.Text.Search

/-!
# Stripping and searching put-together texts

A text that ends in anything but blanks keeps what stands in front of that when it is stripped, and
occurrence is being a contiguous part.
-/

namespace QueryDesk.Text

/-- Stripping the end of a text stops at its last part that is not all blanks. -/
theorem stripEnd_append (s : List Char) {t : List Char} (h : ∃ c ∈ t, isBlank c = false) :
    stripEnd (s ++ t) = s ++ stripEnd t := by
  obtain ⟨c, hc, hblank⟩ := h
  have hne : (t.reverse.dropWhile isBlank).isEmpty = false := by
    rw [List.isEmpty_eq_false_iff]
    intro hnil
    have hall := List.dropWhile_eq_nil_iff.mp hnil c (List.mem_reverse.mpr hc)
    rw [hblank] at hall
    exact Bool.noConfusion hall
  simp only [stripEnd, List.reverse_append, List.dropWhile_append, hne, Bool.false_eq_true,
    if_false, List.reverse_reverse]

/-- What is stripped off the end of a text is blank. -/
theorem exists_stripEnd_append (s : List Char) :
    ∃ b, (∀ c ∈ b, isBlank c = true) ∧ s = stripEnd s ++ b := by
  refine ⟨(s.reverse.takeWhile isBlank).reverse, fun c hc => ?_, ?_⟩
  · exact List.mem_takeWhile_imp (List.mem_reverse.mp hc)
  · rw [stripEnd, ← List.reverse_append, List.takeWhile_append_dropWhile, List.reverse_reverse]

theorem isInfix_strip (s : List Char) : strip s <:+: s := by
  have hend : stripEnd (stripStart s) <+: stripStart s := by
    unfold stripEnd
    rw [← List.reverse_suffix, List.reverse_reverse]
    exact List.dropWhile_suffix _
  exact hend.isInfix.trans (List.dropWhile_suffix _).isInfix

/-- What is left of a text is nothing exactly if it is all blanks. -/
theorem strip_eq_nil_iff {s : List Char} : strip s = [] ↔ ∀ c ∈ s, isBlank c = true := by
  unfold strip stripEnd stripStart
  rw [List.reverse_eq_nil_iff, List.dropWhile_eq_nil_iff]
  constructor
  · intro h c hc
    rw [← List.takeWhile_append_dropWhile (p := isBlank) (l := s)] at hc
    rcases List.mem_append.mp hc with hc | hc
    · exact List.mem_takeWhile_imp hc
    · exact h c (List.mem_reverse.mpr hc)
  · intro h c hc
    exact h c ((List.dropWhile_suffix isBlank).subset (List.mem_reverse.mp hc))

/-- A text occurs in another one exactly if it is a contiguous part of it. -/
theorem occurs_iff_infix (needle s : List Char) : occurs needle s = true ↔ needle <:+: s := by
  induction s with
  | nil => simp [occurs]
  | cons c s ih =>
    rw [occurs, Bool.or_eq_true, ih, List.isPrefixOf_iff_prefix, List.infix_cons_iff]

/-- A cut at the first occurrence leaves the text before and after it. -/
theorem splitAtFirst_eq_some {needle s before after : List Char}
    (h : splitAtFirst needle s = some (before, after)) : s = before ++ needle ++ after := by
  induction s generalizing before with
  | nil =>
    unfold splitAtFirst at h
    split at h
    · next hempty =>
      cases h
      rw [List.isEmpty_iff.mp hempty]
      rfl
    · cases h
  | cons c s ih =>
    unfold splitAtFirst at h
    split at h
    · next hprefix =>
      obtain ⟨rest, hrest⟩ := List.isPrefixOf_iff_prefix.mp hprefix
      cases h
      rw [← hrest, List.drop_left, List.nil_append]
    · obtain ⟨⟨before', after'⟩, hsplit, heq⟩ := Option.map_eq_some_iff.mp h
      cases heq
      rw [ih hsplit]
      rfl

/-- A part that lacks a character lies on one side of it. -/
theorem infix_of_infix_append_cons {l a b : List Char} {c : Char} (hc : c ∉ l)
    (h : l <:+: a ++ c :: b) : l <:+: a ∨ l <:+: b := by
  have hfront : ∀ {a : List Char}, l <+: a ++ c :: b → l <+: a := by
    intro a h
    rcases List.prefix_or_prefix_of_prefix h (List.prefix_append a (c :: b)) with h | ⟨r, rfl⟩
    · exact h
    · cases r with
      | nil => exact ⟨[], by rw [List.append_nil, List.append_nil]⟩
      | cons d r =>
        rw [List.prefix_append_right_inj, List.cons_prefix_cons] at h
        exact absurd (List.mem_append_right a (h.1 ▸ List.mem_cons_self)) hc
  induction a with
  | nil =>
    rcases List.infix_cons_iff.mp h with h | h
    · exact Or.inl (hfront h).isInfix
    · exact Or.inr h
  | cons d a ih =>
    rcases List.infix_cons_iff.mp h with h | h
    · exact Or.inl (hfront h).isInfix
    · exact (ih h).imp_left fun h => List.infix_cons h

/-- A text is cut at a needle that does not occur any earlier. -/
theorem splitAtFirst_append {needle before : List Char}
    (h : ¬needle <:+: before ++ needle.dropLast) (after : List Char) :
    splitAtFirst needle (before ++ needle ++ after) = some (before, after) := by
  induction before with
  | nil =>
    cases needle with
    | nil => exact absurd List.nil_infix h
    | cons c needle => simp [splitAtFirst]
  | cons c before ih =>
    have hrest : ¬needle <:+: before ++ needle.dropLast := fun hin => h (List.infix_cons hin)
    have hhead : needle.isPrefixOf (c :: (before ++ needle ++ after)) = false := by
      rw [Bool.eq_false_iff, Ne, List.isPrefixOf_iff_prefix]
      intro hstart
      have hkept : before ++ needle.dropLast <+: before ++ needle ++ after := by
        rw [List.append_assoc, List.prefix_append_right_inj]
        exact (List.dropLast_prefix needle).trans (List.prefix_append needle after)
      refine h (List.prefix_of_prefix_length_le hstart ?_ ?_).isInfix
      · exact (List.prefix_cons_inj c).mpr hkept
      · simp only [List.cons_append, List.length_cons, List.length_append, List.length_dropLast]
        omega
    rw [List.cons_append, List.cons_append, splitAtFirst, hhead, ih hrest]
    rfl

theorem splitAtFirst_eq_none {needle s : List Char} (h : ¬needle <:+: s) :
    splitAtFirst needle s = none := by
  cases hsplit : splitAtFirst needle s with
  | none => rfl
  | some parts => exact absurd ⟨parts.1, parts.2, (splitAtFirst_eq_some hsplit).symm⟩ h

end QueryDesk.Text
