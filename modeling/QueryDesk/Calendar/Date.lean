/-!
# Calendar dates

Days of the proleptic Gregorian calendar between the years -262143 and 262142, and their
arithmetic by day numbers.  A date carries the proof that it exists, so moving beyond either end
of the calendar is visible in the types: it yields no date.
-/

namespace QueryDesk

namespace Calendar

/-- Whether the year has a twenty-ninth of February. -/
def isLeap (year : Int) : Bool :=
  year % 4 == 0 && (year % 100 != 0 || year % 400 == 0)

def daysInMonth (year : Int) (month : Nat) : Nat :=
  match month with
  | 2 => if isLeap year then 29 else 28
  | 4 | 6 | 9 | 11 => 30
  | _ => 31

def firstYear : Int := -262143

def lastYear : Int := 262142

def Exists (year : Int) (month day : Nat) : Prop :=
  firstYear ≤ year ∧ year ≤ lastYear ∧ 1 ≤ month ∧ month ≤ 12 ∧
    1 ≤ day ∧ day ≤ daysInMonth year month

instance (year : Int) (month day : Nat) : Decidable (Exists year month day) := by
  unfold Exists; infer_instance

/-- The days of all years before a year, counted from the first day of the year 1. -/
def daysBeforeYear (year : Int) : Int :=
  let y := year - 1
  365 * y + y / 4 - y / 100 + y / 400

/-- The days of a year before one of its months. -/
def daysBeforeMonth (year : Int) : Nat → Nat
  | 0 => 0
  | 1 => 0
  | month + 2 => daysBeforeMonth year (month + 1) + daysInMonth year (month + 1)

end Calendar

open Calendar

/-- A day of the calendar. -/
structure Date where
  year : Int
  month : Nat
  day : Nat
  valid : Exists year month day
deriving DecidableEq

namespace Date

/-- The day with these numbers, if the calendar has it. -/
def of? (year : Int) (month day : Nat) : Option Date :=
  if h : Exists year month day then some ⟨year, month, day, h⟩ else none

/-- The number of the day, the first of January of the year 1 being 0. -/
def number (d : Date) : Int :=
  daysBeforeYear d.year + daysBeforeMonth d.year d.month + (d.day - 1 : Int)

/-- The year that a day number falls into. -/
def yearOf (n : Int) : Int :=
  let guess := n * 400 / 146097 + 1
  if n < daysBeforeYear guess then guess - 1
  else if daysBeforeYear (guess + 1) ≤ n then guess + 1
  else guess

/-- The month and day of the `n`-th day counted from the start of `month`, among `months` more
months. -/
def monthDay (year : Int) (month n : Nat) : Nat → Nat × Nat
  | 0 => (month, n + 1)
  | months + 1 =>
    if n < daysInMonth year month then (month, n + 1)
    else monthDay year (month + 1) (n - daysInMonth year month) months

/-- The day with a number, if the calendar has it. -/
def ofNumber? (n : Int) : Option Date :=
  let year := yearOf n
  let (month, day) := monthDay year 1 (n - daysBeforeYear year).toNat 11
  of? year month day

/-- The day `n` days earlier, if the calendar has it. -/
@[irreducible]
def minusDays? (d : Date) (n : Nat) : Option Date :=
  ofNumber? (d.number - n)

theorem firstOfMonth_valid (d : Date) : Exists d.year d.month 1 := by
  obtain ⟨a, b, c, e, f, g⟩ := d.valid
  exact ⟨a, b, c, e, Nat.le_refl 1, Nat.le_trans f g⟩

/-- The first day of the date's month. -/
def firstOfMonth (d : Date) : Date :=
  ⟨d.year, d.month, 1, d.firstOfMonth_valid⟩

theorem firstOfYear_valid (d : Date) : Exists d.year 1 1 := by
  obtain ⟨a, b, _⟩ := d.valid
  exact ⟨a, b, by decide, by decide, by decide, by simp [daysInMonth]⟩

/-- The first day of the date's year. -/
def firstOfYear (d : Date) : Date :=
  ⟨d.year, 1, 1, d.firstOfYear_valid⟩

def first : Date := ⟨firstYear, 1, 1, by decide⟩

end Date

end QueryDesk
