import QueryDesk.Proofs.Sql.Balance
import QueryDesk.Proofs.Sql.Soundness
import QueryDesk.Proofs.Text.Lines

/-!
# What the structural check finds

The findings about any text, told without the scanner (`check_exact`).  A literal runs from a quote
to the next quote or to the end, so a text that is cut at its quotes stands outside literals in
every other field, from the first on (`bare`).  That is also what stands outside the pieces of the
text, where a doubled quote belongs to its literal (`outside_pieces`): two literals that touch have
nothing in between.  The scanner stops at a parenthesis that is closed before it was opened and else
comes to the end, inside a literal exactly if it met an odd number of quotes (`toNat_inLiteral`).
-/

namespace QueryDesk.Sql

/-! ## The text outside literals -/

/-- Every other element, from the first on. -/
def everyOther {α : Type} : List α → List α
  | [] => []
  | [x] => [x]
  | x :: _ :: rest => x :: everyOther rest

/-- The text outside literals, a literal running from a quote to the next one or to the end. -/
def bare (s : List Char) : List Char := (everyOther (Text.fields '\'' s)).flatten

theorem everyOther_cons {α : Type} (x : α) (xs : List α) :
    everyOther (x :: xs) = x :: everyOther xs.tail := by
  cases xs <;> rfl

/-- Inside a literal the text goes on outside with the second field. -/
theorem outside_piecesFrom (o : Option (List Char)) (s : List Char) :
    let fields := Text.fields '\'' s
    outside (piecesFrom o s) = (everyOther (if o.isSome then fields.tail else fields)).flatten := by
  fun_induction piecesFrom o s with
  | case1 => rfl
  | case2 => rfl
  | case3 s ih => simpa [Text.fields_cons_self, everyOther_cons] using ih
  | case4 c s hc ih =>
    obtain ⟨f, more, hs, hcs⟩ := Text.exists_fields_cons hc s
    simpa [hs, hcs, outside, everyOther_cons] using ih
  | case5 o s ih => simpa [Text.fields_cons_self, everyOther_cons] using ih
  | case6 o s hne ih => simpa [Text.fields_cons_self, outside] using ih
  | case7 o c s hne hc ih =>
    obtain ⟨f, more, hs, hcs⟩ := Text.exists_fields_cons hc s
    simpa [hs, hcs] using ih

theorem outside_pieces (s : List Char) : outside (pieces s) = bare s :=
  outside_piecesFrom none s

/-! ## The scanner -/

instance (depth : Nat) (s : List Char) : Decidable (Within depth s) :=
  decidable_of_iff (∀ t ∈ s.inits, t.count ')' ≤ depth + t.count '(')
    (by simp only [List.mem_inits, Within])

/-- The end lies inside a literal if the quotes before it do not pair off. -/
theorem toNat_inLiteral {depth depth' : Nat} {inLiteral inLiteral' : Bool} {s : List Char}
    (h : balanceFrom depth inLiteral s = .ended depth' inLiteral') :
    inLiteral'.toNat = (inLiteral.toNat + s.count '\'') % 2 := by
  fun_induction balanceFrom depth inLiteral s with
  | case1 =>
    cases h
    cases inLiteral' <;> rfl
  | case2 depth inLiteral s ih =>
    rw [List.count_cons_self, ih h]
    cases inLiteral <;> simp only [Bool.not_true, Bool.not_false, Bool.toNat_true,
      Bool.toNat_false] <;> omega
  | case5 => cases h
  -- any other character leaves the flag as it is
  | case3 _ c _ hc ih => rw [List.count_cons_of_ne hc, ih h]
  | case4 _ _ _ _ hc ih => rw [List.count_cons_of_ne hc, ih h]
  | case6 _ _ _ _ _ hc _ ih => rw [List.count_cons_of_ne hc, ih h]
  | case7 _ _ _ _ hc _ _ _ ih => rw [List.count_cons_of_ne hc, ih h]

/-- How the scanner leaves a text: early at a parenthesis that was not open, else at the end. -/
theorem balance_cases (s : List Char) :
    balance s = .closedEarly ∧ ¬Within 0 (bare s) ∨
      ∃ depth inLiteral, balance s = .ended depth inLiteral ∧ Within 0 (bare s) ∧
        depth + (bare s).count ')' = (bare s).count '(' ∧
        inLiteral.toNat = s.count '\'' % 2 := by
  have hended : ∀ depth, (∃ inLiteral, balance s = .ended depth inLiteral) ↔
      Within 0 (bare s) ∧ depth + (bare s).count ')' = (bare s).count '(' := by
    intro depth
    rw [balance_eq, balanceOf_eq_ended_iff, outside_pieces, Nat.zero_add]
  cases hbalance : balance s with
  | closedEarly =>
    refine Or.inl ⟨rfl, fun hwithin => ?_⟩
    have hle : (bare s).count ')' ≤ (bare s).count '(' := by
      simpa using hwithin (bare s) (List.prefix_refl _)
    obtain ⟨inLiteral, h⟩ :=
      (hended ((bare s).count '(' - (bare s).count ')')).mpr ⟨hwithin, by omega⟩
    rw [hbalance] at h
    cases h
  | ended depth inLiteral =>
    obtain ⟨hwithin, hdepth⟩ := (hended depth).mp ⟨inLiteral, hbalance⟩
    have hparity := toNat_inLiteral hbalance
    rw [Bool.toNat_false, Nat.zero_add] at hparity
    exact Or.inr ⟨depth, inLiteral, rfl, hwithin, hdepth, hparity⟩

/-! ## The findings -/

theorem balanced_iff_within (s : List Char) :
    Balanced s ↔ Within 0 s ∧ s.count '(' = s.count ')' := by
  simp only [Balanced, Within, Nat.zero_add]

theorem defects_balance (s : List Char) :
    (balance s).defects = if Balanced (bare s) then [] else [.unbalanced] := by
  have hiff := balanced_iff_within (bare s)
  rcases balance_cases s with ⟨hbalance, hnot⟩ | ⟨depth, inLiteral, hbalance, hwithin, hdepth, -⟩
  · rw [hbalance, if_neg fun h => hnot (hiff.mp h).1]
    rfl
  · rw [hbalance]
    cases depth with
    | zero => rw [if_pos (hiff.mpr ⟨hwithin, by omega⟩)]; rfl
    | succ depth => rw [if_neg fun h => by have := (hiff.mp h).2; omega]; rfl

/-- What a balance warns of. -/
def Balance.warnings : Balance → List String
  | .ended _ true => [unterminated]
  | _ => []

theorem warnings_balance (s : List Char) : (balance s).warnings =
    if s.count '\'' % 2 = 1 ∧ Within 0 (bare s) then [unterminated] else [] := by
  rcases balance_cases s with ⟨hbalance, hnot⟩ | ⟨depth, inLiteral, hbalance, hwithin, -, hparity⟩
  · rw [hbalance, if_neg fun h => hnot h.2]
    rfl
  · rw [hbalance, ← hparity]
    cases inLiteral with
    | false => exact (if_neg fun h => absurd h.1 (by decide)).symm
    | true => exact (if_pos ⟨rfl, hwithin⟩).symm

/-- The findings about a text, each told by what it says. -/
theorem check_eq (sql : String) :
    let text := (Text.upper (Text.trimmed sql)).toList
    let code := bare sql.toList
    check sql = {
      defects := (if "SELECT".toList <+: text then [] else [.noSelect]) ++
        (if "FROM".toList <:+: text then [] else [.noFrom]) ++
        (if Balanced code then [] else [.unbalanced])
      warnings :=
        if sql.toList.count '\'' % 2 = 1 ∧ Within 0 code then [unterminated] else [] } := by
  intro text code
  have htext : text = Text.upperChars (Text.strip sql.toList) := by
    rw [← Text.toList_trimmed, ← Text.toList_upper]
  rw [← defects_balance, ← warnings_balance, htext]
  simp only [← List.isPrefixOf_iff_prefix, ← Text.occurs_iff_infix]
  rfl

theorem mem_defects_iff (sql : String) (d : Defect) :
    let text := (Text.upper (Text.trimmed sql)).toList
    d ∈ (check sql).defects ↔ ¬"SELECT".toList <+: text ∧ d = .noSelect ∨
      ¬"FROM".toList <:+: text ∧ d = .noFrom ∨ ¬Balanced (bare sql.toList) ∧ d = .unbalanced := by
  intro text
  rw [check_eq]
  simp only [List.mem_append, List.mem_ite_nil_left, List.mem_singleton, or_assoc]
  rfl

theorem isSound_iff (sql : String) :
    let text := (Text.upper (Text.trimmed sql)).toList
    isSound sql = true ↔
      "SELECT".toList <+: text ∧ "FROM".toList <:+: text ∧ Balanced (bare sql.toList) := by
  intro text
  rw [isSound, List.isEmpty_iff, check_eq]
  simp only [List.append_eq_nil_iff, ite_eq_left_iff, List.cons_ne_nil, imp_false, not_not,
    and_assoc]
  rfl

/-- No defect is found twice. -/
theorem defects_sublist (sql : String) :
    (check sql).defects.Sublist [.noSelect, .noFrom, .unbalanced] := by
  have hone : ∀ (p : Prop) [Decidable p] (d : Defect), (if p then [] else [d]).Sublist [d] := by
    intro p _ d
    split
    · exact List.nil_sublist [d]
    · exact List.Sublist.refl [d]
  rw [check_eq]
  exact ((hone _ _).append (hone _ _)).append (hone _ _)

/-- The check is exact.  A text is sound if its upper form starts with SELECT and has FROM in it and
the parentheses outside its literals are balanced, and there is one defect for each of these that
fails.  A warning says that the quotes do not pair off, unless a parenthesis outside literals is
closed before it is opened. -/
theorem check_exact (sql : String) :
    let text := (Text.upper (Text.trimmed sql)).toList
    let code := bare sql.toList
    (isSound sql = true ↔ "SELECT".toList <+: text ∧ "FROM".toList <:+: text ∧ Balanced code) ∧
    (.noSelect ∈ (check sql).defects ↔ ¬"SELECT".toList <+: text) ∧
    (.noFrom ∈ (check sql).defects ↔ ¬"FROM".toList <:+: text) ∧
    (.unbalanced ∈ (check sql).defects ↔ ¬Balanced code) ∧
    ((check sql).defects.map Defect.message).Nodup ∧
    (check sql).warnings =
      if sql.toList.count '\'' % 2 = 1 ∧ Within 0 code then [unterminated] else [] := by
  intro text code
  have hmem := mem_defects_iff sql
  refine ⟨?_, ?_, ?_, ?_, ?_, ?_⟩
  · exact isSound_iff sql
  · simp [hmem, text]
  · simp [hmem, text]
  · simp [hmem, code]
  · exact ((defects_sublist sql).map Defect.message).nodup (by decide)
  · rw [check_eq]

/-- A text that starts with SELECT in upper case only, with a parenthesis in a literal and a literal
that does not end. -/
def foldedText : String := " ſelect ')', count(x) from t where name = 'it"

theorem check_exact_folded :
    "SELECT".toList <+: (Text.upper (Text.trimmed foldedText)).toList ∧
      "FROM".toList <:+: (Text.upper (Text.trimmed foldedText)).toList ∧
      bare foldedText.toList = " ſelect , count(x) from t where name = ".toList ∧
      isSound foldedText = true ∧ (check foldedText).warnings = [unterminated] := by
  have hselect : "SELECT".toList <+: (Text.upper (Text.trimmed foldedText)).toList := by
    decide +kernel
  have hfrom : "FROM".toList <:+: (Text.upper (Text.trimmed foldedText)).toList := by
    decide +kernel
  have hbare : bare foldedText.toList = " ſelect , count(x) from t where name = ".toList := by
    decide +kernel
  obtain ⟨hsound, -, -, -, -, hwarnings⟩ := check_exact foldedText
  rw [hbare] at hsound hwarnings
  refine ⟨hselect, hfrom, hbare, hsound.mpr ⟨hselect, hfrom, by decide +kernel⟩, ?_⟩
  rw [hwarnings, if_pos (by decide +kernel)]

end QueryDesk.Sql
