import QueryDesk.Decimal.Layout

/-!
# Decimals with a fixed number of places

A binary value rounded to a number of decimal places by exact arithmetic, a half going to the
even neighbour.
-/

namespace QueryDesk.Decimal

/-- The quotient of two naturals rounded to the nearest, a half to the even neighbour. -/
def roundDiv (num den : Nat) : Nat :=
  let quotient := num / den
  let rest := num % den
  if 2 * rest < den ∨ (2 * rest = den ∧ quotient % 2 = 0) then quotient else quotient + 1

/-- The magnitude of a finite double in units of `10 ^ -places`, rounded. -/
def roundedAt (places : Nat) (x : Float) : Nat :=
  let b := Binary.ofBits 52 (-1074) (x.toBits.toNat % words 63)
  roundDiv (scaleUp b.m b.q places) (scaleUp 1 (-b.q) 0)

/-- A finite double with two decimal places. -/
def twoPlaces (x : Float) : List Char :=
  let n := roundedAt 2 x
  (if isNegative x then ['-'] else []) ++ digitsOf (n / 100) ++
    ['.', Nat.digitChar (n % 100 / 10), Nat.digitChar (n % 10)]

end QueryDesk.Decimal
