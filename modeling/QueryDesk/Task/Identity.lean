import QueryDesk.Decimal.Layout

/-!
# Identities

Names drawn at random: sixteen bytes in five groups of hexadecimal digits, two of which tell the
version and the variant of the name.
-/

namespace QueryDesk.Identity

def byteText (b : UInt8) : List Char :=
  [Nat.digitChar (b.toNat / 16), Nat.digitChar (b.toNat % 16)]

/-- The bytes of a random name with its version, 4, and its variant in their places. -/
def marked (bytes : List UInt8) : List UInt8 :=
  let bytes := bytes.set 6 (bytes.getD 6 0 &&& 0x0f ||| 0x40)
  bytes.set 8 (bytes.getD 8 0 &&& 0x3f ||| 0x80)

/-- The name made of sixteen random bytes. -/
def ofBytes (bytes : List UInt8) : String :=
  let digits := (marked bytes).flatMap byteText
  let group (start length : Nat) : List Char := (digits.drop start).take length
  String.ofList (['-'].intercalate
    [group 0 8, group 8 4, group 12 4, group 16 4, group 20 12])

end QueryDesk.Identity
