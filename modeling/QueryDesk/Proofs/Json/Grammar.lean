import QueryDesk.Json.Parser

/-!
# The texts of JSON

The grammar of RFC 8259 as a relation between texts and what they stand for, made without the
reader in mind.  Every text of the grammar is in the relation.  One that holds a number out of the
range of doubles, or a surrogate that is not part of a pair, stands for nothing (`none`).
-/

namespace QueryDesk.Json

open QueryDesk.Text (isAsciiDigit)

/-- White space between tokens. -/
def Spaces (s : List Char) : Prop := ∀ c ∈ s, isSpace c = true

/-! ## Strings -/

/-- Whether a text starts with the escape of a surrogate that closes a pair. -/
def ClosesPair (raw : List Char) : Prop :=
  ∃ a b c d rest n, raw = '\\' :: 'u' :: a :: b :: c :: d :: rest ∧
    hex4? a b c d = some n ∧ isLowSurrogate n = true

/-- The text between the quotes of a string, and the characters it stands for. -/
inductive StringText : List Char → Option (List Char) → Prop
  | nil : StringText [] (some [])
  | char {c : Char} {raw : List Char} {s : Option (List Char)} (hquote : c ≠ '"')
      (hbackslash : c ≠ '\\') (hcontrol : 0x20 ≤ c.toNat) (h : StringText raw s) :
      StringText (c :: raw) (s.map (c :: ·))
  | letter {c x : Char} {raw : List Char} {s : Option (List Char)}
      (hletter : escapeLetter? c = some x) (h : StringText raw s) :
      StringText ('\\' :: c :: raw) (s.map (x :: ·))
  | unit {a b c d : Char} {n : Nat} {raw : List Char} {s : Option (List Char)}
      (hunit : hex4? a b c d = some n) (hhigh : isHighSurrogate n = false)
      (hlow : isLowSurrogate n = false) (h : StringText raw s) :
      StringText ('\\' :: 'u' :: a :: b :: c :: d :: raw) (s.map (Char.ofNat n :: ·))
  | pair {a b c d e f g i : Char} {high low : Nat} {raw : List Char} {s : Option (List Char)}
      (hunit : hex4? a b c d = some high) (hhigh : isHighSurrogate high = true)
      (hunit' : hex4? e f g i = some low) (hlow : isLowSurrogate low = true)
      (h : StringText raw s) :
      StringText ('\\' :: 'u' :: a :: b :: c :: d :: '\\' :: 'u' :: e :: f :: g :: i :: raw)
        (s.map (Char.ofNat (0x10000 + (high - 0xD800) * 0x400 + (low - 0xDC00)) :: ·))
  | lone {a b c d : Char} {n : Nat} {raw : List Char} {s : Option (List Char)}
      (hunit : hex4? a b c d = some n)
      (hlone : isLowSurrogate n = true ∨ isHighSurrogate n = true ∧ ¬ClosesPair raw)
      (h : StringText raw s) :
      StringText ('\\' :: 'u' :: a :: b :: c :: d :: raw) none

/-! ## Numbers -/

/-- At least one digit. -/
def Digits (ds : List Char) : Prop := ds ≠ [] ∧ ∀ d ∈ ds, isAsciiDigit d = true

/-- The digits of an integer, without leading zeros. -/
def WholeText (ds : List Char) : Prop := Digits ds ∧ (ds.head? = some '0' → ds.length = 1)

/-- A fraction, which may be missing, and its digits. -/
inductive FractionText : List Char → Option (List Char) → Prop
  | none : FractionText [] none
  | some {ds : List Char} (h : Digits ds) : FractionText ('.' :: ds) (some ds)

/-- A sign, and whether it is a minus. -/
inductive SignText : List Char → Bool → Prop
  | none : SignText [] false
  | plus : SignText ['+'] false
  | minus : SignText ['-'] true

/-- An exponent, which may be missing, with its sign and digits. -/
inductive ExponentText : List Char → Option (Bool × List Char) → Prop
  | none : ExponentText [] none
  | some {e : Char} {sign ds : List Char} {negative : Bool} (he : e = 'e' ∨ e = 'E')
      (hsign : SignText sign negative) (h : Digits ds) :
      ExponentText (e :: (sign ++ ds)) (some (negative, ds))

/-- A number and its value. -/
inductive NumberText : List Char → Option Json → Prop
  | mk (negative : Bool) {ds f x : List Char} {fraction : Option (List Char)}
      {exponent : Option (Bool × List Char)} (hwhole : WholeText ds)
      (hfraction : FractionText f fraction) (hexponent : ExponentText x exponent) :
      NumberText ((if negative then ['-'] else []) ++ ds ++ f ++ x)
        (numberValue? negative ds fraction exponent)

/-! ## Values -/

/-- A part of a JSON text with what it stands for. -/
inductive Part where
  | value (v : Option Json)
  /-- A whole object, with its members as they are written. -/
  | object (ms : Option (List (String × Json)))
  /-- The items between the brackets of an array. -/
  | items (vs : Option (List Json))
  /-- The members between the braces of an object. -/
  | members (ms : Option (List (String × Json)))

/-- A member with its key and value, if both stand for something. -/
def member (key : Option (List Char)) (value : Option Json) : Option (String × Json) :=
  key.bind fun key => value.map fun value => (String.ofList key, value)

/-- The texts of a part in which arrays and objects nest up to a depth. -/
inductive Spells : Nat → Part → List Char → Prop
  | nullWord {depth : Nat} : Spells depth (.value (some .null)) ['n', 'u', 'l', 'l']
  | trueWord {depth : Nat} : Spells depth (.value (some (.bool true))) ['t', 'r', 'u', 'e']
  | falseWord {depth : Nat} : Spells depth (.value (some (.bool false))) ['f', 'a', 'l', 's', 'e']
  | number {depth : Nat} {t : List Char} {v : Option Json} (h : NumberText t v) :
      Spells depth (.value v) t
  | string {depth : Nat} {raw : List Char} {s : Option (List Char)} (h : StringText raw s) :
      Spells depth (.value (s.map fun s => .str (String.ofList s))) ('"' :: raw ++ ['"'])
  | emptyArray {depth : Nat} {a : List Char} (ha : Spaces a) :
      Spells (depth + 1) (.value (some (.arr []))) ('[' :: a ++ [']'])
  | array {depth : Nat} {t : List Char} {vs : Option (List Json)}
      (h : Spells depth (.items vs) t) :
      Spells (depth + 1) (.value (vs.map .arr)) ('[' :: t ++ [']'])
  | emptyObject {depth : Nat} {a : List Char} (ha : Spaces a) :
      Spells (depth + 1) (.object (some [])) ('{' :: a ++ ['}'])
  | members {depth : Nat} {t : List Char} {ms : Option (List (String × Json))}
      (h : Spells depth (.members ms) t) :
      Spells (depth + 1) (.object ms) ('{' :: t ++ ['}'])
  | object {depth : Nat} {t : List Char} {ms : Option (List (String × Json))}
      (h : Spells depth (.object ms) t) :
      Spells depth (.value (ms.map fun ms => .obj (Members.ofList ms))) t
  | lastItem {depth : Nat} {a t b : List Char} {v : Option Json} (ha : Spaces a)
      (h : Spells depth (.value v) t) (hb : Spaces b) :
      Spells depth (.items (v.map fun v => [v])) (a ++ t ++ b)
  | item {depth : Nat} {a t b ts : List Char} {v : Option Json} {vs : Option (List Json)}
      (ha : Spaces a) (h : Spells depth (.value v) t) (hb : Spaces b)
      (hs : Spells depth (.items vs) ts) :
      Spells depth (.items (v.bind fun v => vs.map (v :: ·))) (a ++ t ++ b ++ ',' :: ts)
  | lastMember {depth : Nat} {a raw b c t d : List Char} {key : Option (List Char)}
      {v : Option Json} (ha : Spaces a) (hkey : StringText raw key) (hb : Spaces b)
      (hc : Spaces c) (h : Spells depth (.value v) t) (hd : Spaces d) :
      Spells depth (.members ((member key v).map fun m => [m]))
        (a ++ '"' :: raw ++ '"' :: b ++ ':' :: c ++ t ++ d)
  | member {depth : Nat} {a raw b c t d ts : List Char} {key : Option (List Char)}
      {v : Option Json} {ms : Option (List (String × Json))} (ha : Spaces a)
      (hkey : StringText raw key) (hb : Spaces b) (hc : Spaces c)
      (h : Spells depth (.value v) t) (hd : Spaces d) (hs : Spells depth (.members ms) ts) :
      Spells depth (.members ((member key v).bind fun m => ms.map (m :: ·)))
        (a ++ '"' :: raw ++ '"' :: b ++ ':' :: c ++ t ++ d ++ ',' :: ts)

/-! ## Simple texts -/

/-- Characters that need no escape stand for themselves. -/
theorem stringText_plain {s : List Char}
    (h : ∀ c ∈ s, c ≠ '"' ∧ c ≠ '\\' ∧ 0x20 ≤ c.toNat) : StringText s (some s) := by
  induction s with
  | nil => exact .nil
  | cons c s ih =>
    obtain ⟨hquote, hbackslash, hcontrol⟩ := h c List.mem_cons_self
    exact .char hquote hbackslash hcontrol (ih fun c hc => h c (List.mem_cons_of_mem _ hc))

/-- An object of one member without white space. -/
theorem spells_single {depth : Nat} {raw t : List Char} {key : Option (List Char)}
    {v : Option Json} (hkey : StringText raw key) (h : Spells depth (.value v) t) :
    Spells (depth + 1) (.object ((member key v).map fun m => [m]))
      ('{' :: ('"' :: raw ++ '"' :: ':' :: t) ++ ['}']) := by
  have hnone : Spaces [] := fun _ h => absurd h List.not_mem_nil
  have hmember := Spells.lastMember hnone hkey hnone hnone h hnone
  simp only [List.append_nil, List.nil_append, List.append_assoc, List.cons_append] at hmember
  exact .members hmember

end QueryDesk.Json
