import QueryDesk.Calendar.DateText

/-!
# Dates read back

The text of a date is read as that date, over the whole calendar.  A number with leading zeros ends
where its digits do, so it is read whatever follows it (`number?_padded`); a year is told apart by
its sign, without which at most four digits are read and only four are written (`year?_yearText`).
-/

namespace QueryDesk.Date

open Text (isAsciiDigit stripStart digitsValue isBlank)
open Decimal (digitsOf)

/-! ## Numbers with leading zeros -/

theorem isAsciiDigit_of_mem_padded {w n : Nat} {c : Char} (hc : c ∈ padded w n) :
    isAsciiDigit c = true := by
  rcases List.mem_append.mp hc with hzero | hdigit
  · rw [(List.mem_replicate.mp hzero).2]
    rfl
  · have h : c.isDigit = true := Nat.isDigit_of_mem_toDigits (by decide) (by decide) hdigit
    simpa [Char.isDigit, isAsciiDigit, Char.le_def] using h

theorem padded_ne_nil (w n : Nat) : padded w n ≠ [] := by
  simp [padded, digitsOf]

theorem digitsValue_padded (w n : Nat) : digitsValue (padded w n) = n := by
  show Nat.ofDigitChars 10 (padded w n) 0 = n
  rw [padded, Nat.ofDigitChars_append, Nat.ofDigitChars_replicate_zero, Nat.mul_zero]
  exact Nat.ofDigitChars_ten_toDigits

theorem length_padded_le {w n : Nat} (hw : 0 < w) (hn : n < Nat.pow 10 w) :
    (padded w n).length ≤ w := by
  have hdigits : (digitsOf n).length ≤ w := (Nat.length_toDigits_le_iff (by decide) hw).mpr hn
  rw [padded, List.length_append, List.length_replicate]
  omega

/-- A number with leading zeros is read up to the next character that is no digit. -/
theorem number?_padded {width : Option Nat} {w n : Nat} {rest : List Char}
    (hwidth : ∀ k ∈ width, (padded w n).length ≤ k) (hn : n ≤ maxNumber)
    (hrest : ∀ c ∈ rest.head?, isAsciiDigit c = false) :
    number? width (padded w n ++ rest) = some (n, rest) := by
  have hrun : (padded w n ++ rest).takeWhile isAsciiDigit = padded w n := by
    rw [List.takeWhile_append_of_pos fun c hc => isAsciiDigit_of_mem_padded hc]
    cases rest with
    | nil => simp
    | cons c rest => simp [hrest c rfl]
  have hread : ¬((padded w n).isEmpty || decide (n > maxNumber)) = true := by
    simpa [padded_ne_nil] using hn
  cases width with
  | none =>
    simp only [number?, hrun, digitsValue_padded, List.drop_left]
    rw [if_neg hread]
  | some k =>
    have hall : (padded w n).take k = padded w n := List.take_of_length_le (hwidth k rfl)
    simp only [number?, hrun, hall, digitsValue_padded, List.drop_left]
    rw [if_neg hread]

theorem exists_cons_padded (w n : Nat) : ∃ c rest, padded w n = c :: rest ∧
    isAsciiDigit c = true := by
  obtain ⟨c, rest, h⟩ := List.exists_cons_of_ne_nil (padded_ne_nil w n)
  exact ⟨c, rest, h, isAsciiDigit_of_mem_padded (h ▸ List.mem_cons_self)⟩

theorem isBlank_of_isAsciiDigit {c : Char} (h : isAsciiDigit c = true) : isBlank c = false := by
  simp only [isAsciiDigit, Bool.and_eq_true, decide_eq_true_eq, Char.le_def] at h
  have hlow : 48 ≤ c.toNat := h.1
  have hhigh : c.toNat ≤ 57 := h.2
  simp only [isBlank, Bool.or_eq_false_iff, Bool.and_eq_false_iff, decide_eq_false_iff_not,
    beq_eq_false_iff_ne]
  omega

/-- No blank stands before a number. -/
theorem stripStart_padded (w n : Nat) (rest : List Char) :
    stripStart (padded w n ++ rest) = padded w n ++ rest := by
  obtain ⟨c, more, h, hc⟩ := exists_cons_padded w n
  rw [h, List.cons_append, Text.stripStart_of_head (isBlank_of_isAsciiDigit hc)]

/-! ## The parts of a date -/

/-- A year without a sign ends after four digits. -/
theorem year?_padded {n : Nat} (hn : n ≤ 9999) {rest : List Char}
    (hrest : ∀ c ∈ rest.head?, isAsciiDigit c = false) :
    year? (padded 4 n ++ rest) = some ((n : Int), rest) := by
  have hread : number? (some 4) (padded 4 n ++ rest) = some (n, rest) := by
    have hfits : n ≤ maxNumber := Nat.le_trans hn (by decide)
    refine number?_padded (fun k hk => ?_) hfits hrest
    obtain rfl := Option.some.inj hk
    exact length_padded_le (by decide) (Nat.lt_succ_of_le hn)
  obtain ⟨c, more, hcons, hc⟩ := exists_cons_padded 4 n
  unfold year?
  rw [hcons, List.cons_append] at hread
  rw [stripStart_padded, hcons, List.cons_append]
  split
  · next h =>
    obtain rfl := (List.cons.inj h).1
    cases hc
  · next h =>
    obtain rfl := (List.cons.inj h).1
    cases hc
  · rw [hread, Option.map_some]

theorem year?_yearText {year : Int} (hlow : Calendar.firstYear ≤ year)
    (hhigh : year ≤ Calendar.lastYear) {rest : List Char}
    (hrest : ∀ c ∈ rest.head?, isAsciiDigit c = false) :
    year? (yearText year ++ rest) = some (year, rest) := by
  have hfits : year.natAbs ≤ maxNumber := by
    have hmax : maxNumber = 9223372036854775807 := by decide
    simp only [Calendar.firstYear, Calendar.lastYear] at hlow hhigh
    omega
  have hsigned : number? none (padded 4 year.natAbs ++ rest) = some (year.natAbs, rest) :=
    number?_padded (fun _ h => nomatch h) hfits hrest
  unfold yearText
  by_cases hplain : 0 ≤ year ∧ year ≤ 9999
  · have hyear : (year.toNat : Int) = year := Int.toNat_of_nonneg hplain.1
    rw [if_pos hplain, year?_padded (by omega) hrest, hyear]
  · by_cases hsign : 0 ≤ year
    · have hyear : (year.natAbs : Int) = year := Int.natAbs_of_nonneg hsign
      rw [if_neg hplain, if_pos hsign, List.cons_append, year?, Text.stripStart_of_head rfl]
      simp only [hsigned, Option.map_some, hyear]
    · have hyear : -(year.natAbs : Int) = year := by omega
      rw [if_neg hplain, if_neg hsign, List.cons_append, year?, Text.stripStart_of_head rfl]
      simp only [hsigned, Option.map_some, hyear]

theorem hyphen?_cons (rest : List Char) : hyphen? ('-' :: rest) = some rest := rfl

/-- A month or a day between the parts of a date. -/
theorem number?_two {n : Nat} (hn : n < 100) {rest : List Char}
    (hrest : ∀ c ∈ rest.head?, isAsciiDigit c = false) :
    number? (some 2) (stripStart (padded 2 n ++ rest)) = some (n, rest) := by
  have hfits : n ≤ maxNumber := by
    have hmax : maxNumber = 9223372036854775807 := by decide
    omega
  rw [stripStart_padded]
  refine number?_padded (fun k hk => ?_) hfits hrest
  obtain rfl := Option.some.inj hk
  exact length_padded_le (by decide) hn

theorem of?_self (d : Date) : of? d.year d.month d.day = some d := dif_pos d.valid

theorem ofText?_text (d : Date) : ofText? d.text = some d := by
  obtain ⟨hlow, hhigh, -, hmonth, -, hday⟩ := d.valid
  have hlength : Calendar.daysInMonth d.year d.month ≤ 31 := by
    unfold Calendar.daysInMonth
    split
    · split <;> decide
    all_goals decide
  have hyphen : ∀ (s : List Char), ∀ c ∈ ('-' :: s).head?, isAsciiDigit c = false := by
    rintro s c ⟨⟩
    rfl
  have hyear : year? d.chars =
      some (d.year, '-' :: (padded 2 d.month ++ '-' :: padded 2 d.day)) := by
    rw [chars, List.append_assoc, List.cons_append]
    exact year?_yearText hlow hhigh (hyphen _)
  have hmonthRead : number? (some 2) (stripStart (padded 2 d.month ++ '-' :: padded 2 d.day)) =
      some (d.month, '-' :: padded 2 d.day) := number?_two (by omega) (hyphen _)
  have hdayRead : number? (some 2) (stripStart (padded 2 d.day)) = some (d.day, []) := by
    have hnone : ∀ c ∈ ([] : List Char).head?, isAsciiDigit c = false := nofun
    have h := number?_two (n := d.day) (by omega) hnone
    rwa [List.append_nil] at h
  have hend : (stripStart []).isEmpty = true := rfl
  simp only [ofText?, text, String.toList_ofList, ofChars?, hyear, hyphen?_cons, hmonthRead,
    hdayRead, hend, Option.bind_eq_bind, Option.bind_some, if_true]
  exact of?_self d

end QueryDesk.Date
