import QueryDesk.Calendar.Date
import QueryDesk.Json.Basic
import QueryDesk.Toml.Text

/-!
# TOML scalars

Numbers, truth values and points in time.  Numbers may have single underscores between digits;
integers fit 64 bits and floats that overflow are refused.  A point in time is kept as text in
one canonical form.
-/

namespace QueryDesk.Toml

open Text (isAsciiDigit digitsValue fields)

/-- Whether a character may be part of a number, a word or a point in time. -/
def isScalarChar (c : Char) : Bool :=
  isAsciiDigit c || ('a' ≤ c && c ≤ 'z') || ('A' ≤ c && c ≤ 'Z') ||
    c == '_' || c == '+' || c == '-' || c == '.' || c == ':'

/-- Digits with single underscores between them, the underscores taken out. -/
def digits? (isDigit : Char → Bool) (s : List Char) : Option (List Char) :=
  let groups := fields '_' s
  if groups.all fun g => !g.isEmpty && g.all isDigit then some groups.flatten else none

/-- Decimal digits without a needless zero in front. -/
def decimal? (s : List Char) : Option (List Char) :=
  match digits? isAsciiDigit s with
  | some ('0' :: _ :: _) => none
  | r => r

/-- An integer in the range of 64 bits. -/
def bounded? (n : Int) : Option Json :=
  if Decimal.isSigned 64 n then some (.int n) else none

/-- The value of digits in a base. -/
def valueIn (base : Nat) (ds : List Char) : Nat :=
  ds.foldl (fun n d => base * n + (hexDigit? d).getD 0) 0

/-- An integer with the mark of another base in front. -/
def basedInteger? : List Char → Option Json
  | '0' :: 'x' :: ds => (digits? (fun c => (hexDigit? c).isSome) ds).bind (bounded? <| valueIn 16 ·)
  | '0' :: 'o' :: ds => (digits? (fun c => '0' ≤ c && c ≤ '7') ds).bind (bounded? <| valueIn 8 ·)
  | '0' :: 'b' :: ds => (digits? (fun c => c == '0' || c == '1') ds).bind (bounded? <| valueIn 2 ·)
  | _ => none

def decimalInteger? (s : List Char) : Option Json :=
  let (negative, rest) := Decimal.sign s
  (decimal? rest).bind fun ds =>
    bounded? (if negative then -(digitsValue ds : Int) else digitsValue ds)

/-- The parts of a text before and after the first of some characters. -/
def cut (isMark : Char → Bool) (s : List Char) : List Char × Option (List Char) :=
  match s.dropWhile fun c => !isMark c with
  | [] => (s, none)
  | _ :: rest => (s.takeWhile fun c => !isMark c, some rest)

def exponent? : Option (List Char) → Option (List Char)
  | none => some []
  | some s =>
    let (negative, rest) := Decimal.sign s
    (digits? isAsciiDigit rest).map fun ds => ['e', if negative then '-' else '+'] ++ ds

def fraction? : Option (List Char) → Option (List Char)
  | none => some []
  | some s => (digits? isAsciiDigit s).map ('.' :: ·)

def magnitude? (s : List Char) : Option Float :=
  if s = ['i', 'n', 'f'] then some (1.0 / 0.0)
  else if s = ['n', 'a', 'n'] then some (0.0 / 0.0)
  else
    let (mantissa, exponent) := cut (fun c => c == 'e' || c == 'E') s
    let (whole, fraction) := cut (· == '.') mantissa
    if exponent.isNone && fraction.isNone then none
    else do
      let text := (← decimal? whole) ++ (← fraction? fraction) ++ (← exponent? exponent)
      let x ← Decimal.unsigned? text
      if x.isInf then none else some x

def float? (s : List Char) : Option Json :=
  let (negative, rest) := Decimal.sign s
  (magnitude? rest).map fun x => .float (if negative then -x else x)

/-- The number that exactly as many digits make. -/
def counted? (count : Nat) (s : List Char) : Option Nat :=
  if s.length = count ∧ s.all isAsciiDigit then some (digitsValue s) else none

/-- A calendar date in its canonical form. -/
def date? (s : List Char) : Option (List Char) :=
  match fields '-' s with
  | [y, m, d] => do
    let _ ← Date.of? (← counted? 4 y) (← counted? 2 m) (← counted? 2 d)
    return s
  | _ => none

/-- Digits after the seconds, cut to nine places and without trailing zeros. -/
def secondFraction? : Option (List Char) → Option (List Char)
  | none => some []
  | some ds =>
    if ds.isEmpty || !ds.all isAsciiDigit then none
    else
      let kept := Text.dropTrailing '0' (ds.take 9)
      some (if kept.isEmpty then [] else '.' :: kept)

/-- A time of day in its canonical form. -/
def time? (s : List Char) : Option (List Char) :=
  let (clock, fraction) := cut (· == '.') s
  match fields ':' clock with
  | [h, m, sec] => do
    let hour ← counted? 2 h
    let minute ← counted? 2 m
    let second ← counted? 2 sec
    let places ← secondFraction? fraction
    if hour < 24 ∧ minute < 60 ∧ second ≤ 60 then some (clock ++ places) else none
  | _ => none

/-- An offset from universal time, `hh:mm`. -/
def offset? (s : List Char) : Option (List Char) :=
  match fields ':' s with
  | [h, m] => do
    if (← counted? 2 h) < 24 ∧ (← counted? 2 m) < 60 then some s else none
  | _ => none

/-- A time of day with an offset, if there is one. -/
def timeWithOffset? (s : List Char) : Option (List Char) :=
  match s.getLast? with
  | some 'Z' => (time? s.dropLast).map (· ++ ['Z'])
  | some 'z' => (time? s.dropLast).map (· ++ ['Z'])
  | _ =>
    let (clock, rest) := cut (fun c => c == '+' || c == '-') s
    match rest with
    | none => time? clock
    | some off => do
      let mark := if s.contains '+' then '+' else '-'
      return (← time? clock) ++ mark :: (← offset? off)

/-- A point in time: a date, a time of day, or both with or without an offset. -/
def moment? (s : List Char) : Option (List Char) :=
  if s.length ≤ 10 then (date? s).orElse fun _ => time? s
  else match s[10]? with
    | some mark =>
      if mark = 'T' ∨ mark = 't' ∨ mark = ' ' then do
        return (← date? (s.take 10)) ++ 'T' :: (← timeWithOffset? (s.drop 11))
      else time? s
    | none => none

/-- The value of a scalar that is no string. -/
def scalar? (s : List Char) : Option Json :=
  if s = ['t', 'r', 'u', 'e'] then some (.bool true)
  else if s = ['f', 'a', 'l', 's', 'e'] then some (.bool false)
  else (decimalInteger? s).orElse fun _ => (basedInteger? s).orElse fun _ =>
    (float? s).orElse fun _ => (moment? s).map fun m => .str (String.ofList m)

/-- Whether a blank may go on a point in time: after a date and before two digits. -/
def joinsTime (word rest : List Char) : Bool :=
  (date? word).isSome &&
    match rest with
    | ' ' :: a :: b :: _ => isAsciiDigit a && isAsciiDigit b
    | _ => false

/-- The text of a scalar that is no string, and the rest. -/
def scalarText (s : List Char) : List Char × List Char :=
  let word := s.takeWhile isScalarChar
  let rest := s.dropWhile isScalarChar
  if joinsTime word rest then
    let after := rest.drop 1
    (word ++ ' ' :: after.takeWhile isScalarChar, after.dropWhile isScalarChar)
  else (word, rest)

end QueryDesk.Toml
