/-!
# Blanks

The white space of Unicode, and texts stripped of it at either end.  A stripped text is a
contiguous part of the text it came from, and a text without blanks at its ends is left alone.
-/

namespace QueryDesk.Text

/-- White space of any script. -/
def isBlank (c : Char) : Bool :=
  let n := c.toNat
  (9 ≤ n && n ≤ 13) || n == 32 || n == 0x85 || n == 0xA0 || n == 0x1680 ||
    (0x2000 ≤ n && n ≤ 0x200A) || n == 0x2028 || n == 0x2029 || n == 0x202F ||
    n == 0x205F || n == 0x3000

def stripStart (s : List Char) : List Char :=
  s.dropWhile isBlank

def stripEnd (s : List Char) : List Char :=
  (s.reverse.dropWhile isBlank).reverse

def strip (s : List Char) : List Char :=
  stripEnd (stripStart s)

def trimmed (s : String) : String :=
  String.ofList (strip s.toList)

/-- Whether the string holds nothing but blanks. -/
def isBlankText (s : String) : Bool :=
  s.toList.all isBlank

/-! ## Stripping -/

theorem toList_trimmed (s : String) : (trimmed s).toList = strip s.toList := by
  simp [trimmed]

theorem stripStart_of_head {c : Char} {s : List Char} (h : isBlank c = false) :
    stripStart (c :: s) = c :: s := by
  simp [stripStart, h]

theorem stripEnd_of_last {c : Char} {s : List Char} (h : isBlank c = false) :
    stripEnd (s ++ [c]) = s ++ [c] := by
  simp [stripEnd, h]

end QueryDesk.Text
