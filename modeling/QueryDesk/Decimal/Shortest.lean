import QueryDesk.Decimal.Width

/-!
# Shortest decimals

The decimal with the fewest digits that reads back to a given binary floating-point value, and
of those the one nearest to it.  A value is decoded to `m * 2 ^ q`; the reals that round to it
form an interval, closed exactly when `m` is even.  For one digit, two digits, and so on the two
neighbours of the value on the decimal grid are tested against that interval.
-/

namespace QueryDesk.Decimal

/-- A positive value `m * 2 ^ q`; `narrowBelow` says that the gap to the value below is half the
gap to the value above. -/
structure Binary where
  m : Nat
  q : Int
  narrowBelow : Bool
deriving Repr, DecidableEq

/-- A decimal `digits * 10 ^ exponent`. -/
structure Scaled where
  digits : Nat
  exponent : Int
deriving Repr, DecidableEq

/-- Decodes the magnitude bits of a format with `fractionBits` fraction bits whose least
exponent is `minExponent`. -/
def Binary.ofBits (fractionBits : Nat) (minExponent : Int) (bits : Nat) : Binary :=
  let fraction := bits % words fractionBits
  let biased := bits / words fractionBits
  if biased = 0 then ⟨fraction, minExponent, false⟩
  else ⟨words fractionBits + fraction, minExponent + (biased - 1 : Nat),
    fraction = 0 && 1 < biased⟩

/-- `n * 2 ^ a * 10 ^ b` compared across a fraction: the numerator's share of the two powers. -/
def scaleUp (n : Nat) (two ten : Int) : Nat :=
  n * Nat.pow 2 two.toNat * Nat.pow 10 ten.toNat

/-- Whether `x * 2 ^ p` is below `d * 10 ^ k` (`orEqual`: or equal to it). -/
def binaryBelow (orEqual : Bool) (x : Nat) (p : Int) (d : Nat) (k : Int) : Bool :=
  let left := scaleUp x p (-k)
  let right := scaleUp d (-p) k
  if orEqual then left ≤ right else left < right

/-- Whether `d * 10 ^ k` is below `x * 2 ^ p` (`orEqual`: or equal to it). -/
def decimalBelow (orEqual : Bool) (d : Nat) (k : Int) (x : Nat) (p : Int) : Bool :=
  let left := scaleUp d (-p) k
  let right := scaleUp x p (-k)
  if orEqual then left ≤ right else left < right

/-- Whether the decimal lies among the reals that round to the value. -/
def Binary.holds (b : Binary) (d : Scaled) : Bool :=
  let closed := b.m % 2 == 0
  let low := if b.narrowBelow then 4 * b.m - 1 else 4 * b.m - 2
  binaryBelow closed low (b.q - 2) d.digits d.exponent &&
    decimalBelow closed d.digits d.exponent (4 * b.m + 2) (b.q - 2)

/-- The floor of the value in units of `10 ^ k`. -/
def Binary.floorAt (b : Binary) (k : Int) : Nat :=
  scaleUp b.m b.q (-k) / scaleUp 1 (-b.q) k

/-- Whether the value is at most `(d + 1/2) * 10 ^ k`, ties to the even `d`. -/
def Binary.nearerBelow (b : Binary) (d : Nat) (k : Int) : Bool :=
  let twice := 2 * scaleUp b.m b.q (-k)
  let middle := (2 * d + 1) * scaleUp 1 (-b.q) k
  twice < middle || (twice == middle && d % 2 == 0)

/-- The neighbour of the value on the grid `10 ^ k` that reads back, the nearer if both do. -/
def Binary.onGrid? (b : Binary) (k : Int) : Option Scaled :=
  let d := b.floorAt k
  let below : Scaled := ⟨d, k⟩
  let above : Scaled := ⟨d + 1, k⟩
  match b.holds below && d != 0, b.holds above with
  | true, true => some (if b.nearerBelow d k then below else above)
  | true, false => some below
  | false, true => some above
  | false, false => none

/-- The number of decimal digits of a positive number. -/
def digitCount (n : Nat) : Nat :=
  (Nat.toDigits 10 n).length

/-- The least `k` with the value below `10 ^ k`, searched from `guess` upwards. -/
def Binary.scaleFrom (b : Binary) (guess : Int) : Nat → Int
  | 0 => guess
  | steps + 1 =>
    if binaryBelow false b.m b.q 1 guess then guess else b.scaleFrom (guess + 1) steps

/-- The least `k` with the value below `10 ^ k`. -/
def Binary.scale (b : Binary) : Int :=
  let log2 : Int := (Nat.log2 b.m : Nat) + b.q
  b.scaleFrom (log2 * 30103 / 100000 - 1) 5

/-- The first grid with `n`, `n + 1`, … digits on which the value has a neighbour that reads
back. -/
def Binary.search (b : Binary) (scale : Int) (n : Nat) : Nat → Option Scaled
  | 0 => none
  | more + 1 =>
    match b.onGrid? (scale - n) with
    | some d => some d
    | none => b.search scale (n + 1) more

/-- Trailing zeros of the digits moved to the exponent. -/
def Scaled.normalized (d : Scaled) : Nat → Scaled
  | 0 => d
  | fuel + 1 =>
    if d.digits ≠ 0 ∧ d.digits % 10 = 0 then
      Scaled.normalized ⟨d.digits / 10, d.exponent + 1⟩ fuel
    else d

/-- The exact decimal value of `m * 2 ^ q`. -/
def Binary.exact (b : Binary) : Scaled :=
  if 0 ≤ b.q then ⟨b.m * Nat.pow 2 b.q.toNat, 0⟩ else ⟨b.m * Nat.pow 5 (-b.q).toNat, b.q⟩

/-- The shortest decimal that reads back to the value, nearest of those. -/
def Binary.shortest (b : Binary) : Scaled :=
  if b.m = 0 then ⟨0, 0⟩
  else
    let d := (b.search b.scale 1 17).getD b.exact
    d.normalized (digitCount d.digits)

/-- The magnitude of a 64-bit floating-point value as a shortest decimal. -/
def ofFloat (x : Float) : Scaled :=
  (Binary.ofBits 52 (-1074) (x.toBits.toNat % words 63)).shortest

/-- The magnitude of a 32-bit floating-point value as a shortest decimal. -/
def ofFloat32 (x : Float32) : Scaled :=
  (Binary.ofBits 23 (-149) (x.toBits.toNat % words 31)).shortest

/-- Whether the sign bit of a 64-bit value is set. -/
def isNegative (x : Float) : Bool :=
  words 63 ≤ x.toBits.toNat

/-- Whether the sign bit of a 32-bit value is set. -/
def isNegative32 (x : Float32) : Bool :=
  words 31 ≤ x.toBits.toNat

end QueryDesk.Decimal
