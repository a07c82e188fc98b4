import QueryDesk.Decimal.Width

/-!
# Searching in texts

Occurrence of one text inside another, the text around a first occurrence, and the lines and
fields of a text.  Everything is stated on lists of characters; the string forms wrap them.
-/

namespace QueryDesk.Text

/-- Whether `needle` occurs somewhere in the text. -/
def occurs (needle : List Char) : List Char → Bool
  | [] => needle.isEmpty
  | c :: rest => needle.isPrefixOf (c :: rest) || occurs needle rest

/-- Whether the string `needle` occurs in the string `s`. -/
def contains (s needle : String) : Bool :=
  occurs needle.toList s.toList

/-- The texts before and after the first occurrence of `needle`. -/
def splitAtFirst (needle : List Char) : List Char → Option (List Char × List Char)
  | [] => if needle.isEmpty then some ([], []) else none
  | c :: rest =>
    if needle.isPrefixOf (c :: rest) then some ([], (c :: rest).drop needle.length)
    else (splitAtFirst needle rest).map fun (before, after) => (c :: before, after)

/-- The fields of a text cut at every `sep`; there is always at least one. -/
def fields (sep : Char) : List Char → List (List Char)
  | [] => [[]]
  | c :: rest =>
    if c = sep then [] :: fields sep rest
    else match fields sep rest with
      | [] => [[c]]
      | f :: more => (c :: f) :: more

/-- A line without the carriage return that may end it. -/
def dropCarriageReturn (line : List Char) : List Char :=
  if line.getLast? = some '\r' then line.dropLast else line

/-- The lines of a text: ended by a newline, an optional carriage return before it dropped; a
last line without a newline keeps its carriage return, and an empty last line is no line. -/
def lines (s : List Char) : List (List Char) :=
  let parts := fields '\n' s
  let last := parts.getLast?.getD []
  parts.dropLast.map dropCarriageReturn ++ (if last.isEmpty then [] else [last])

/-- The text without the run of one character that ends it. -/
def dropTrailing (c : Char) (s : List Char) : List Char :=
  (s.reverse.dropWhile (· == c)).reverse

/-- What follows the last occurrence of a character, or the whole text. -/
def afterLast (sep : Char) (s : List Char) : List Char :=
  (s.reverse.takeWhile (· != sep)).reverse

/-- The letters `A` to `Z` in lower case, all else unchanged. -/
def asciiLower (c : Char) : Char :=
  if 'A' ≤ c ∧ c ≤ 'Z' then Char.ofNat (c.toNat + 32) else c

/-- Equality of texts up to the case of the letters `A` to `Z`. -/
def sameIgnoringAsciiCase (a b : String) : Bool :=
  a.toList.map asciiLower == b.toList.map asciiLower

/-- Whether the character is one of `0` to `9`. -/
def isAsciiDigit (c : Char) : Bool :=
  '0' ≤ c && c ≤ '9'

/-- The value of a run of digits `0` to `9`. -/
def digitsValue (ds : List Char) : Nat :=
  ds.foldl (fun n d => 10 * n + (d.toNat - 48)) 0

/-- The value of a non-empty text of digits `0` to `9`. -/
def natural? (s : List Char) : Option Nat :=
  if !s.isEmpty && s.all isAsciiDigit then some (digitsValue s) else none

/-- An unsigned number below `2 ^ 64`, with an optional plus sign. -/
def word? (s : List Char) : Option Nat :=
  let digits := match s with
    | '+' :: rest => rest
    | _ => s
  (natural? digits).filter (· < Decimal.words 64)

/-- The text starting at the first digit, as the longest run of digits. -/
def firstDigits (s : List Char) : List Char :=
  (s.dropWhile fun c => !isAsciiDigit c).takeWhile isAsciiDigit

/-! ## Fields -/

theorem fields_ne_nil (sep : Char) (s : List Char) : fields sep s ≠ [] := by
  cases s with
  | nil => simp [fields]
  | cons c rest =>
    unfold fields
    split
    · simp
    · split <;> simp

end QueryDesk.Text
