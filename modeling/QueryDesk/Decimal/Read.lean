import QueryDesk.Text.Search

/-!
# Reading decimals

Two ways to turn digits into a binary value.  `nearest` is correctly rounded.  `scaledBySteps`
works in double arithmetic on a significand that fits a 64-bit word, as data interchange does:
one multiplication or division by a power of ten where that is in range.
-/

namespace QueryDesk.Decimal

open QueryDesk.Text (isAsciiDigit digitsValue)

/-- `digits * 10 ^ exponent`, correctly rounded; an exponent beyond every finite value's range
is cut down first. -/
def nearest (digits : Nat) (exponent : Int) : Float :=
  if digits = 0 then 0.0
  else
    let e : Int := min exponent 400
    let size : Int := (Nat.toDigits 10 digits).length
    if e + size < -400 then 0.0
    else if 0 ≤ e then Float.ofScientific digits false e.toNat
    else Float.ofScientific digits true (-e).toNat

/-- The double nearest to a power of ten. -/
def powerOfTen (n : Nat) : Float :=
  Float.ofScientific 1 false n

/-- A significand scaled by a power of ten in double arithmetic, in steps of `10 ^ 308` while
the exponent is out of the range of one division; none when the value is out of range. -/
def scaledBySteps (x : Float) (exponent : Int) : Nat → Option Float
  | 0 => some x
  | fuel + 1 =>
    if exponent.natAbs ≤ 308 then
      if 0 ≤ exponent then
        let y := x * powerOfTen exponent.toNat
        if y.isInf then none else some y
      else some (x / powerOfTen exponent.natAbs)
    else if x == 0.0 then some x
    else if 0 ≤ exponent then none
    else scaledBySteps (x / powerOfTen 308) (exponent + 308) fuel

/-- A significand scaled by a power of ten in double arithmetic. -/
def scaled? (significand : Nat) (exponent : Int) : Option Float :=
  scaledBySteps (Float.ofNat significand) exponent 8

/-- The parts of a decimal text `digits[.digits][e[sign]digits]`. -/
structure Parts where
  whole : List Char
  fraction : Option (List Char)
  exponent : Option (Bool × List Char)
deriving Repr, DecidableEq

/-- The value of an exponent part; an exponent of more than nine significant digits is taken as
`999999999`. -/
def exponentValue : Option (Bool × List Char) → Int
  | none => 0
  | some (negative, ds) =>
    let n := digitsValue ds
    let n := min n 999999999
    if negative then -(n : Int) else n

def sign (s : List Char) : Bool × List Char :=
  match s with
  | '+' :: rest => (false, rest)
  | '-' :: rest => (true, rest)
  | _ => (false, s)

/-- The exponent that starts a text, and the rest of the text. -/
def exponentPart? (s : List Char) : Option (Option (Bool × List Char) × List Char) :=
  match s with
  | c :: rest =>
    if c = 'e' ∨ c = 'E' then
      let (negative, ds) := sign rest
      if (ds.takeWhile isAsciiDigit).isEmpty then none
      else some (some (negative, ds.takeWhile isAsciiDigit), ds.dropWhile isAsciiDigit)
    else some (none, s)
  | [] => some (none, [])

/-- Reads an unsigned decimal that fills the whole text; digits may be missing on one side of
the point. -/
def unsigned? (s : List Char) : Option Float :=
  let whole := s.takeWhile isAsciiDigit
  let (fraction, rest) := match s.dropWhile isAsciiDigit with
    | '.' :: rest => (rest.takeWhile isAsciiDigit, rest.dropWhile isAsciiDigit)
    | rest => ([], rest)
  if whole.isEmpty && fraction.isEmpty then none
  else match exponentPart? rest with
    | some (e, []) =>
      some (nearest (digitsValue (whole ++ fraction)) (exponentValue e - fraction.length))
    | _ => none

/-- The words that stand for infinity and not-a-number, in any ASCII case. -/
def special? (s : List Char) : Option Float :=
  let w := String.ofList (s.map QueryDesk.Text.asciiLower)
  if w == "inf" || w == "infinity" then some (1.0 / 0.0)
  else if w == "nan" then some (0.0 / 0.0)
  else none

/-- Reads a signed decimal, `inf`, `infinity` or `nan` that fills the whole text. -/
def float? (s : List Char) : Option Float :=
  let (negative, rest) := sign s
  ((unsigned? rest).orElse fun _ => special? rest).map fun x => if negative then -x else x

/-- Reads a signed integer that fills the whole text. -/
def int? (s : List Char) : Option Int :=
  let (negative, rest) := sign s
  (QueryDesk.Text.natural? rest).map fun n => if negative then -(n : Int) else n

end QueryDesk.Decimal
