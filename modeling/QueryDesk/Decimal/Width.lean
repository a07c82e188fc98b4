/-!
# Widths

Which numbers fit a word of some number of bits.
-/

namespace QueryDesk.Decimal

/-- The number of words of a width. -/
def words (bits : Nat) : Nat := Nat.pow 2 bits

/-- Whether a number fits an unsigned word. -/
def isUnsigned (bits : Nat) (n : Int) : Bool :=
  0 ≤ n && n < words bits

/-- Whether a number fits a signed word. -/
def isSigned (bits : Nat) (n : Int) : Bool :=
  -(words (bits - 1)) ≤ n && n < words (bits - 1)

end QueryDesk.Decimal
