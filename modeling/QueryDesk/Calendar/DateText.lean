import QueryDesk.Calendar.Date
import QueryDesk.Text.Blank
import QueryDesk.Decimal.Layout
import QueryDesk.Text.Search

/-!
# Dates as text

Dates are written as year, month and day with four, two and two digits; a year outside 0 to 9999
carries its sign.  Reading is lenient: fewer digits will do, and blanks may stand before each
number and before each hyphen.
-/

namespace QueryDesk.Date

open QueryDesk.Text (isAsciiDigit stripStart digitsValue)
open QueryDesk.Decimal (digitsOf)

/-- A number with leading zeros up to a width. -/
def padded (width n : Nat) : List Char :=
  List.replicate (width - (digitsOf n).length) '0' ++ digitsOf n

/-- A year with at least four digits, signed when it is outside 0 to 9999. -/
def yearText (year : Int) : List Char :=
  if 0 ≤ year ∧ year ≤ 9999 then padded 4 year.toNat
  else (if 0 ≤ year then '+' else '-') :: padded 4 year.natAbs

def chars (d : Date) : List Char :=
  yearText d.year ++ '-' :: padded 2 d.month ++ '-' :: padded 2 d.day

/-- The text of a date as a string. -/
def text (d : Date) : String :=
  String.ofList d.chars

def maxNumber : Nat := Decimal.words 63 - 1

/-- A run of at least one digit, and at most `width` of them, at the head of a text. -/
def number? (width : Option Nat) (s : List Char) : Option (Nat × List Char) :=
  let run := s.takeWhile isAsciiDigit
  let ds := match width with
    | some w => run.take w
    | none => run
  if ds.isEmpty || digitsValue ds > maxNumber then none
  else some (digitsValue ds, s.drop ds.length)

/-- A year: four digits at most, any number of them after a sign. -/
def year? (s : List Char) : Option (Int × List Char) :=
  match stripStart s with
  | '-' :: rest => (number? none rest).map fun (n, rest) => (-(n : Int), rest)
  | '+' :: rest => (number? none rest).map fun (n, rest) => (n, rest)
  | s => (number? (some 4) s).map fun (n, rest) => (n, rest)

def hyphen? (s : List Char) : Option (List Char) :=
  match stripStart s with
  | '-' :: rest => some rest
  | _ => none

/-- Reads a date that fills the text up to trailing blanks. -/
def ofChars? (s : List Char) : Option Date := do
  let (year, s) ← year? s
  let s ← hyphen? s
  let (month, s) ← number? (some 2) (stripStart s)
  let s ← hyphen? s
  let (day, s) ← number? (some 2) (stripStart s)
  if (stripStart s).isEmpty then of? year month day else none

def ofText? (s : String) : Option Date :=
  ofChars? s.toList

end QueryDesk.Date
