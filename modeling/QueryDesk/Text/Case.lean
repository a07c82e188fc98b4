import QueryDesk.Text.CaseData

/-!
# Lower and upper case

Case forms of whole texts.  Upper case works character by character, so it distributes over
concatenation; lower case does too except for the capital sigma, whose form depends on whether
it ends a word.
-/

namespace QueryDesk.Text

/-- The code point moved by the first shift that applies to it. -/
def shifted? (table : List CaseShift) (n : Nat) : Option Nat :=
  (table.find? (·.applies n)).map fun r => ((n : Int) + r.shift).toNat

/-- The lower form of a character on its own. -/
def lowerChar (c : Char) : List Char :=
  if c.toNat < 0x80 then
    if 0x41 ≤ c.toNat ∧ c.toNat ≤ 0x5A then [Char.ofNat (c.toNat + 32)] else [c]
  else if c = 'İ' then ['i', '\u0307']
  else match shifted? lowerShifts c.toNat with
    | some n => [Char.ofNat n]
    | none => [c]

def upperChar (c : Char) : List Char :=
  if c.toNat < 0x80 then
    if 0x61 ≤ c.toNat ∧ c.toNat ≤ 0x7A then [Char.ofNat (c.toNat - 32)] else [c]
  else match upperExpansions.find? (·.1 == c.toNat) with
    | some (_, ns) => ns.map Char.ofNat
    | none => match shifted? upperShifts c.toNat with
      | some n => [Char.ofNat n]
      | none => [c]

/-- Whether the character is a letter with case. -/
def isCased (c : Char) : Bool :=
  casedRanges.any (·.holds c.toNat)

/-- Whether the character is passed over between cased letters. -/
def isCaseIgnorable (c : Char) : Bool :=
  caseIgnorableRanges.any (·.holds c.toNat)

/-- Whether the first character that is not passed over is a cased letter. -/
def startsCased (s : List Char) : Bool :=
  match s.dropWhile isCaseIgnorable with
  | [] => false
  | c :: _ => isCased c

/-- The form of a capital sigma between the reversed text before it and the text after it. -/
def lowerSigma (before after : List Char) : Char :=
  if startsCased before && !startsCased after then 'ς' else 'σ'

/-- Lower case of a text, given the reversed text before it. -/
def lowerFrom (before : List Char) : List Char → List Char
  | [] => []
  | c :: rest =>
    (if c = 'Σ' then [lowerSigma before rest] else lowerChar c) ++ lowerFrom (c :: before) rest

def lower (s : String) : String :=
  String.ofList (lowerFrom [] s.toList)

def upperChars (s : List Char) : List Char :=
  s.flatMap upperChar

def upper (s : String) : String :=
  String.ofList (upperChars s.toList)

/-! ## Upper case distributes -/

theorem upperChars_append (s t : List Char) :
    upperChars (s ++ t) = upperChars s ++ upperChars t := by
  simp [upperChars]

theorem toList_upper (s : String) : (upper s).toList = upperChars s.toList := by
  simp [upper]

end QueryDesk.Text
