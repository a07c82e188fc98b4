import QueryDesk.Proofs.Calendar.DateText
import QueryDesk.Proofs.Calendar.DayNumber

/-!
# Dates ordered as texts

Dates whose years need no sign are written with the same number of digits throughout, so their texts
are ordered as the dates are (`precedes_chars_iff`).  Both orders are taken apart into year, month
and day: texts of the same length are compared part by part (`precedes_append_iff`), numbers with
leading zeros as their values are (`precedes_padded_iff`), and a later year, month or day is a later
day of the calendar (`number_lt_iff`).
-/

namespace QueryDesk

namespace Text

/-- The order of texts: where they first differ the one with the smaller character comes first, and
a text comes before its continuations. -/
def Precedes (s t : List Char) : Prop := List.Lex (· < ·) s t

theorem precedes_cons_iff {c d : Char} {s t : List Char} :
    Precedes (c :: s) (d :: t) ↔ c < d ∨ c = d ∧ Precedes s t :=
  List.cons_lex_cons_iff

/-- Texts that start with parts of the same length are compared by these first. -/
theorem precedes_append_iff {s t : List Char} (h : s.length = t.length) (x y : List Char) :
    Precedes (s ++ x) (t ++ y) ↔ Precedes s t ∨ s = t ∧ Precedes x y := by
  induction s generalizing t with
  | nil =>
    obtain rfl := List.length_eq_zero_iff.mp h.symm
    have hnil : ¬Precedes [] [] := fun h => nomatch h
    simp [hnil]
  | cons c s ih =>
    cases t with
    | nil => cases h
    | cons d t =>
      rw [List.cons_append, List.cons_append, precedes_cons_iff, precedes_cons_iff,
        ih (Nat.succ.inj h), List.cons.injEq, and_or_left, or_assoc, and_assoc]

theorem toNat_of_isAsciiDigit {c : Char} (h : isAsciiDigit c = true) :
    48 ≤ c.toNat ∧ c.toNat ≤ 57 := by
  simp only [isAsciiDigit, Bool.and_eq_true, decide_eq_true_eq, Char.le_def] at h
  exact h

/-- Digits that continue a number stay below the next one. -/
theorem ofDigitChars_bounds {s : List Char} (hs : ∀ c ∈ s, isAsciiDigit c = true) (n : Nat) :
    n * Nat.pow 10 s.length ≤ Nat.ofDigitChars 10 s n ∧
      Nat.ofDigitChars 10 s n < (n + 1) * Nat.pow 10 s.length := by
  induction s generalizing n with
  | nil => simp
  | cons c s ih =>
    obtain ⟨hlow, hhigh⟩ := toNat_of_isAsciiDigit (hs c List.mem_cons_self)
    obtain ⟨hbelow, habove⟩ := ih (fun d hd => hs d (List.mem_cons_of_mem c hd))
      (10 * n + (c.toNat - 48))
    have hleft : n * 10 ≤ 10 * n + (c.toNat - 48) := by omega
    have hright : 10 * n + (c.toNat - 48) + 1 ≤ (n + 1) * 10 := by omega
    have hpower : ∀ k, k * Nat.pow 10 (s.length + 1) = k * 10 * Nat.pow 10 s.length := by
      intro k
      have hsucc : Nat.pow 10 (s.length + 1) = Nat.pow 10 s.length * 10 := rfl
      rw [hsucc, Nat.mul_comm (Nat.pow 10 s.length), Nat.mul_assoc]
    rw [Nat.ofDigitChars_cons, List.length_cons, hpower, hpower]
    exact ⟨Nat.le_trans (Nat.mul_le_mul_right _ hleft) hbelow,
      Nat.lt_of_lt_of_le habove (Nat.mul_le_mul_right _ hright)⟩

/-- A smaller number in front decides, whatever digits continue the two. -/
theorem ofDigitChars_lt_of_lt {s t : List Char} (hs : ∀ c ∈ s, isAsciiDigit c = true)
    (ht : ∀ c ∈ t, isAsciiDigit c = true) (h : s.length = t.length) {m n : Nat} (hmn : m < n) :
    Nat.ofDigitChars 10 s m < Nat.ofDigitChars 10 t n := by
  calc Nat.ofDigitChars 10 s m < (m + 1) * Nat.pow 10 s.length := (ofDigitChars_bounds hs m).2
    _ ≤ n * Nat.pow 10 t.length := h ▸ Nat.mul_le_mul_right _ hmn
    _ ≤ Nat.ofDigitChars 10 t n := (ofDigitChars_bounds ht n).1

/-- Digits of the same number are ordered as their values are. -/
theorem precedes_iff_ofDigitChars_lt {s t : List Char} (hs : ∀ c ∈ s, isAsciiDigit c = true)
    (ht : ∀ c ∈ t, isAsciiDigit c = true) (h : s.length = t.length) (n : Nat) :
    Precedes s t ↔ Nat.ofDigitChars 10 s n < Nat.ofDigitChars 10 t n := by
  induction s generalizing t n with
  | nil =>
    obtain rfl := List.length_eq_zero_iff.mp h.symm
    exact iff_of_false (fun h => nomatch h) (Nat.lt_irrefl _)
  | cons c s ih =>
    cases t with
    | nil => cases h
    | cons d t =>
      have hlength : s.length = t.length := Nat.succ.inj h
      have hs' : ∀ e ∈ s, isAsciiDigit e = true := fun e he => hs e (List.mem_cons_of_mem c he)
      have ht' : ∀ e ∈ t, isAsciiDigit e = true := fun e he => ht e (List.mem_cons_of_mem d he)
      obtain ⟨hc, -⟩ := toNat_of_isAsciiDigit (hs c List.mem_cons_self)
      obtain ⟨hd, -⟩ := toNat_of_isAsciiDigit (ht d List.mem_cons_self)
      have hzero : '0'.toNat = 48 := rfl
      have hless : c < d ↔ c.toNat < d.toNat := Iff.rfl
      rw [precedes_cons_iff, Nat.ofDigitChars_cons, Nat.ofDigitChars_cons, hzero, hless]
      rcases Nat.lt_trichotomy c.toNat d.toNat with hlt | heq | hgt
      · exact iff_of_true (Or.inl hlt) (ofDigitChars_lt_of_lt hs' ht' hlength (by omega))
      · obtain rfl := Char.toNat_inj.mp heq
        rw [← ih hs' ht' hlength]
        simp
      · refine iff_of_false ?_ (Nat.not_lt_of_ge (Nat.le_of_lt
          (ofDigitChars_lt_of_lt ht' hs' hlength.symm (by omega))))
        rintro (hlt | ⟨rfl, -⟩)
        · exact Nat.lt_asymm hlt hgt
        · exact Nat.lt_irrefl _ hgt

end Text

namespace Date

open Calendar Text

/-! ## Numbers with leading zeros -/

theorem length_padded {w n : Nat} (hw : 0 < w) (hn : n < Nat.pow 10 w) :
    (padded w n).length = w := by
  have hle := length_padded_le hw hn
  rw [padded, List.length_append, List.length_replicate] at hle ⊢
  omega

theorem padded_inj {w m n : Nat} : padded w m = padded w n ↔ m = n := by
  refine ⟨fun h => ?_, fun h => h ▸ rfl⟩
  rw [← digitsValue_padded w m, h, digitsValue_padded]

theorem precedes_padded_iff {w m n : Nat} (hw : 0 < w) (hm : m < Nat.pow 10 w)
    (hn : n < Nat.pow 10 w) : Precedes (padded w m) (padded w n) ↔ m < n := by
  have hvalue : ∀ k, Nat.ofDigitChars 10 (padded w k) 0 = k := digitsValue_padded w
  rw [precedes_iff_ofDigitChars_lt (fun c hc => isAsciiDigit_of_mem_padded hc)
    (fun c hc => isAsciiDigit_of_mem_padded hc)
    ((length_padded hw hm).trans (length_padded hw hn).symm) 0, hvalue, hvalue]

/-! ## The order of the calendar -/

/-- The first of two dates by year, then month, then day has the smaller number. -/
theorem number_lt_of_parts {d e : Date} (h : d.year < e.year ∨ d.year = e.year ∧
    (d.month < e.month ∨ d.month = e.month ∧ d.day < e.day)) : d.number < e.number := by
  obtain ⟨_, _, hmonth, _, hday, hlast⟩ := d.valid
  obtain ⟨_, _, _, _, hday', _⟩ := e.valid
  rcases h with hyear | ⟨hyear, hmonths | ⟨hmonths, hdays⟩⟩
  · exact Int.lt_of_lt_of_le d.number_bounds.2
      (Int.le_trans (daysBeforeYear_mono hyear) e.number_bounds.1)
  · have hbefore := daysBeforeMonth_lt d.year hmonth hmonths
    simp only [number, ← hyear]
    omega
  · simp only [number, ← hyear, ← hmonths]
    omega

/-- Dates are numbered in the order of their years, months and days. -/
theorem number_lt_iff {d e : Date} : d.number < e.number ↔ d.year < e.year ∨ d.year = e.year ∧
    (d.month < e.month ∨ d.month = e.month ∧ d.day < e.day) := by
  refine ⟨fun h => ?_, number_lt_of_parts⟩
  by_contra hnot
  have hback : (e.year < d.year ∨ e.year = d.year ∧
      (e.month < d.month ∨ e.month = d.month ∧ e.day < d.day)) ∨
        d.year = e.year ∧ d.month = e.month ∧ d.day = e.day := by
    omega
  rcases hback with hback | ⟨hyear, hmonth, hday⟩
  · have := number_lt_of_parts hback
    omega
  · simp only [number, hyear, hmonth, hday, Int.lt_irrefl] at h

/-! ## Dates as texts -/

/-- A date whose year is written without a sign. -/
def HasPlainYear (d : Date) : Prop := 0 ≤ d.year ∧ d.year ≤ 9999

instance (d : Date) : Decidable d.HasPlainYear :=
  inferInstanceAs (Decidable (0 ≤ d.year ∧ d.year ≤ 9999))

theorem chars_eq {d : Date} (h : d.HasPlainYear) :
    d.chars = padded 4 d.year.toNat ++ '-' :: (padded 2 d.month ++ '-' :: padded 2 d.day) := by
  have hyear : yearText d.year = padded 4 d.year.toNat := if_pos h
  rw [chars, hyear, List.append_assoc]
  rfl

theorem month_lt (d : Date) : d.month < Nat.pow 10 2 := by
  obtain ⟨_, _, _, hmonth, _⟩ := d.valid
  exact Nat.lt_of_le_of_lt hmonth (by decide)

theorem day_lt (d : Date) : d.day < Nat.pow 10 2 := by
  obtain ⟨_, _, _, _, _, hday⟩ := d.valid
  have hlength : daysInMonth d.year d.month ≤ 31 := by
    unfold daysInMonth
    split
    · split <;> decide
    all_goals decide
  exact Nat.lt_of_le_of_lt (Nat.le_trans hday hlength) (by decide)

/-- The texts of dates are ordered as the dates are. -/
theorem precedes_chars_iff {d e : Date} (hd : d.HasPlainYear) (he : e.HasPlainYear) :
    Precedes d.chars e.chars ↔ d.number < e.number := by
  have hyears : d.year.toNat < Nat.pow 10 4 ∧ e.year.toNat < Nat.pow 10 4 := by
    have hpower : Nat.pow 10 4 = 10000 := rfl
    obtain ⟨_, hhigh⟩ := hd
    obtain ⟨_, hhigh'⟩ := he
    omega
  have hlength : (padded 4 d.year.toNat).length = (padded 4 e.year.toNat).length := by
    rw [length_padded (by decide) hyears.1, length_padded (by decide) hyears.2]
  have hlength' : (padded 2 d.month).length = (padded 2 e.month).length := by
    rw [length_padded (by decide) d.month_lt, length_padded (by decide) e.month_lt]
  have hyear : d.year.toNat < e.year.toNat ↔ d.year < e.year := by
    have := hd.1
    omega
  have hyear' : d.year.toNat = e.year.toNat ↔ d.year = e.year := by
    have := hd.1
    have := he.1
    omega
  rw [chars_eq hd, chars_eq he, precedes_append_iff hlength, precedes_cons_iff,
    precedes_append_iff hlength', precedes_cons_iff, number_lt_iff,
    precedes_padded_iff (by decide) hyears.1 hyears.2,
    precedes_padded_iff (by decide) d.month_lt e.month_lt,
    precedes_padded_iff (by decide) d.day_lt e.day_lt, padded_inj, padded_inj, hyear, hyear']
  simp only [Char.lt_irrefl, true_and, false_or]

end Date

end QueryDesk
