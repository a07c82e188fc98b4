import QueryDesk.Decimal.Shortest

/-!
# Decimal layouts

The texts of decimals.  `positional` never uses an exponent; `scientific` puts one digit before
the point.  A `Layout` records the choices one format makes between them.
-/

namespace QueryDesk.Decimal

def digitsOf (n : Nat) : List Char :=
  Nat.toDigits 10 n

/-- How a format writes a decimal. -/
structure Layout where
  /-- The least and the greatest exponent of the leading digit that is written positionally;
  none means that every decimal is. -/
  positionalFrom : Option (Int × Int)
  /-- Whether an integral value is given a zero fraction. -/
  zeroFraction : Bool
deriving Repr, DecidableEq

/-- A decimal written without an exponent. -/
def positional (zeroFraction : Bool) (d : Scaled) : List Char :=
  let ds := digitsOf d.digits
  if 0 ≤ d.exponent then
    ds ++ List.replicate (if d.digits = 0 then 0 else d.exponent.toNat) '0' ++
      (if zeroFraction then ['.', '0'] else [])
  else
    let places := (-d.exponent).toNat
    if places < ds.length then
      ds.take (ds.length - places) ++ '.' :: ds.drop (ds.length - places)
    else '0' :: '.' :: (List.replicate (places - ds.length) '0' ++ ds)

/-- A decimal written with one digit before the point and a signed exponent. -/
def scientific (d : Scaled) (lead : Int) : List Char :=
  let mark := if 0 ≤ lead then ['e', '+'] else ['e', '-']
  match digitsOf d.digits with
  | [] => []
  | [c] => c :: mark ++ digitsOf lead.natAbs
  | c :: more => c :: '.' :: more ++ mark ++ digitsOf lead.natAbs

/-- The exponent of the leading digit. -/
def Scaled.lead (d : Scaled) : Int :=
  (digitsOf d.digits).length - 1 + d.exponent

def Layout.magnitude (layout : Layout) (d : Scaled) : List Char :=
  match layout.positionalFrom with
  | none => positional layout.zeroFraction d
  | some (least, greatest) =>
    if d.digits = 0 ∨ (least ≤ d.lead ∧ d.lead ≤ greatest) then
      positional layout.zeroFraction d
    else scientific d d.lead

/-- A finite 64-bit value in a layout; the sign of zero is kept. -/
def Layout.float (layout : Layout) (x : Float) : List Char :=
  (if isNegative x then ['-'] else []) ++ layout.magnitude (ofFloat x)

/-- A finite 32-bit value in a layout; the sign of zero is kept. -/
def Layout.float32 (layout : Layout) (x : Float32) : List Char :=
  (if isNegative32 x then ['-'] else []) ++ layout.magnitude (ofFloat32 x)

/-- The plain layout: never an exponent, and no fraction for an integral value. -/
def plain : Layout := ⟨none, false⟩

/-- A double in the plain layout; `NaN`, `inf` and `-inf` when it is not finite. -/
def plainText (x : Float) : List Char :=
  if x.isNaN then ['N', 'a', 'N']
  else if x.isFinite then plain.float x
  else if isNegative x then ['-', 'i', 'n', 'f'] else ['i', 'n', 'f']

def intText (n : Int) : List Char :=
  match n with
  | .ofNat k => digitsOf k
  | .negSucc k => '-' :: digitsOf (k + 1)

end QueryDesk.Decimal
