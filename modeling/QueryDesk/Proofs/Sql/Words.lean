import QueryDesk.Sql.Predicate

/-!
# Words and plain text

Identifiers and the texts of booleans and numbers are made of letters, digits, underscores and
points, with a hyphen at most in front (`IsUnsigned`, `IsWord`).  The rest of what a statement is
made of, literals, parentheses and the star aside, is plain text (`IsPlain`): identifiers, digits,
blanks, commas, points and comparison signs.  Neither kind of text holds a quote, a parenthesis or a
semicolon, which is what the later modules need to know about it.
-/

namespace QueryDesk.Sql

/-- Whether the character may stand in an identifier or in a number without a sign. -/
def isUnsignedChar (c : Char) : Bool := continuesIdentifier c || c == '.'

/-- Whether the character may stand in an identifier or in a number. -/
def isWordChar (c : Char) : Bool := isUnsignedChar c || c == '-'

/-- A text of at least one character that may stand in a number without a sign. -/
def IsUnsigned (s : List Char) : Prop := s ≠ [] ∧ ∀ c ∈ s, isUnsignedChar c = true

/-- Such a text, with or without a hyphen in front. -/
def IsWord (s : List Char) : Prop := ∃ u, IsUnsigned u ∧ (s = u ∨ s = '-' :: u)

theorem isUnsignedChar_of_continues {c : Char} (h : continuesIdentifier c = true) :
    isUnsignedChar c = true := by
  simp [isUnsignedChar, h]

theorem IsUnsigned.isWord {s : List Char} (h : IsUnsigned s) : IsWord s := ⟨s, h, Or.inl rfl⟩

namespace IsWord

variable {s : List Char}

theorem ne_nil (h : IsWord s) : s ≠ [] := by
  obtain ⟨u, hu, rfl | rfl⟩ := h
  · exact hu.1
  · exact List.cons_ne_nil _ _

theorem isWordChar_of_mem (h : IsWord s) {c : Char} (hc : c ∈ s) : isWordChar c = true := by
  obtain ⟨u, hu, rfl | rfl⟩ := h
  · simp [isWordChar, hu.2 c hc]
  · rcases List.mem_cons.mp hc with rfl | hc
    · rfl
    · simp [isWordChar, hu.2 c hc]

/-- A character that no word has. -/
theorem not_mem (h : IsWord s) {c : Char} (hc : isWordChar c = false) : c ∉ s := by
  intro hmem
  rw [h.isWordChar_of_mem hmem] at hc
  exact Bool.noConfusion hc

end IsWord

/-! ## Identifiers -/

/-- An identifier starts with a letter or an underscore. -/
theorem Identifier.exists_cons (i : Identifier) :
    ∃ c rest, i.name.toList = c :: rest ∧ startsIdentifier c = true ∧
      ∀ d ∈ rest, continuesIdentifier d = true := by
  have hplain : isIdentifierChars i.name.toList = true := i.plain
  cases hname : i.name.toList with
  | nil => simp [hname, isIdentifierChars] at hplain
  | cons c rest =>
    simp only [hname, isIdentifierChars, Bool.and_eq_true, List.all_eq_true] at hplain
    exact ⟨c, rest, rfl, hplain⟩

theorem continues_of_starts {c : Char} (h : startsIdentifier c = true) :
    continuesIdentifier c = true := by
  simp [continuesIdentifier, h]

theorem Identifier.isUnsigned (i : Identifier) : IsUnsigned i.name.toList := by
  obtain ⟨c, rest, hname, hc, hrest⟩ := i.exists_cons
  rw [hname]
  refine ⟨List.cons_ne_nil _ _, fun d hd => isUnsignedChar_of_continues ?_⟩
  rcases List.mem_cons.mp hd with rfl | hd
  · exact continues_of_starts hc
  · exact hrest d hd

/-! ## Numbers -/

theorem continues_of_isDigit {c : Char} (h : c.isDigit = true) : continuesIdentifier c = true := by
  simp only [Char.isDigit, Bool.and_eq_true, decide_eq_true_eq] at h
  simp only [continuesIdentifier, Bool.or_eq_true, Bool.and_eq_true, decide_eq_true_eq]
  exact Or.inr h

theorem digitsOf_isUnsigned (n : Nat) : IsUnsigned (Decimal.digitsOf n) :=
  ⟨Nat.toDigits_ne_nil, fun _ hc =>
    isUnsignedChar_of_continues (continues_of_isDigit
      (Nat.isDigit_of_mem_toDigits (by decide) (by decide) hc))⟩

theorem intText_isWord (n : Int) : IsWord (Decimal.intText n) := by
  cases n with
  | ofNat k => exact (digitsOf_isUnsigned k).isWord
  | negSucc k => exact ⟨_, digitsOf_isUnsigned (k + 1), Or.inr rfl⟩

/-- A number without an exponent: digits, zeros and at most a point. -/
theorem positional_isUnsigned (zeroFraction : Bool) (d : Decimal.Scaled) :
    IsUnsigned (Decimal.positional zeroFraction d) := by
  obtain ⟨hne, hdigits⟩ := digitsOf_isUnsigned d.digits
  unfold Decimal.positional
  constructor
  · simp only
    split
    · simp [hne]
    · split <;> simp
  · intro c hc
    simp only at hc
    split at hc
    · simp only [List.mem_append, List.mem_replicate] at hc
      rcases hc with (hc | ⟨-, rfl⟩) | hc
      · exact hdigits c hc
      · rfl
      · split at hc
        · rcases List.mem_cons.mp hc with rfl | hc
          · rfl
          · rw [List.mem_singleton.mp hc]; rfl
        · simp at hc
    · split at hc
      · simp only [List.mem_append, List.mem_cons] at hc
        rcases hc with hc | rfl | hc
        · exact hdigits c (List.mem_of_mem_take hc)
        · rfl
        · exact hdigits c (List.mem_of_mem_drop hc)
      · simp only [List.mem_append, List.mem_cons, List.mem_replicate] at hc
        rcases hc with rfl | rfl | ⟨-, rfl⟩ | hc
        · rfl
        · rfl
        · rfl
        · exact hdigits c hc

theorem plainFloat_isWord (x : Float) : IsWord (Decimal.plain.float x) := by
  have h := positional_isUnsigned false (Decimal.ofFloat x)
  show IsWord ((if Decimal.isNegative x then ['-'] else []) ++
    Decimal.positional false (Decimal.ofFloat x))
  split
  · exact ⟨_, h, Or.inr rfl⟩
  · exact h.isWord

/-- A literal that is not quoted is a word. -/
theorem literalText_isWord {l : Literal} (h : ∀ s, l ≠ .text s) :
    IsWord (literalText l).toList := by
  cases l with
  | bool b => cases b <;> exact IsUnsigned.isWord ⟨by decide, List.all_eq_true.mp (by decide)⟩
  | int n => simpa [literalText] using intText_isWord n.toInt
  | float x => simpa [literalText] using plainFloat_isWord x
  | text s => exact absurd rfl (h s)

/-! ## Plain text -/

/-- Whether the character may stand between the literals and the parentheses of a statement. -/
def isPlainChar (c : Char) : Bool :=
  continuesIdentifier c || [' ', ',', '.', '<', '=', '>'].contains c

def IsPlain (s : String) : Prop := ∀ c ∈ s.toList, isPlainChar c = true

instance (s : String) : Decidable (IsPlain s) :=
  decidable_of_iff (s.toList.all isPlainChar = true) List.all_eq_true

namespace IsPlain

theorem append {s t : String} (hs : IsPlain s) (ht : IsPlain t) : IsPlain (s ++ t) := by
  intro c hc
  rw [String.toList_append, List.mem_append] at hc
  exact hc.elim (hs c) (ht c)

theorem intercalate {sep : String} (hsep : IsPlain sep) :
    ∀ {xs : List String}, (∀ x ∈ xs, IsPlain x) → IsPlain (sep.intercalate xs)
  | [], _ => by simp [IsPlain]
  | [x], h => by simpa using h x (by simp)
  | x :: y :: xs, h => by
    rw [String.intercalate_cons_cons]
    exact ((h x List.mem_cons_self).append hsep).append
      (intercalate hsep fun z hz => h z (List.mem_cons_of_mem _ hz))

/-- A character that no plain text has. -/
theorem not_mem {s : String} (h : IsPlain s) {c : Char} (hc : isPlainChar c = false) :
    c ∉ s.toList := by
  intro hmem
  rw [h c hmem] at hc
  exact Bool.noConfusion hc

theorem noQuote {s : String} (h : IsPlain s) : '\'' ∉ s.toList := h.not_mem rfl

end IsPlain

theorem Identifier.isPlain (i : Identifier) : IsPlain i.name := by
  obtain ⟨c, rest, hname, hc, hrest⟩ := i.exists_cons
  intro d hd
  rw [hname] at hd
  rcases List.mem_cons.mp hd with rfl | hd
  · simp [isPlainChar, continues_of_starts hc]
  · simp [isPlainChar, hrest d hd]

theorem digitsOf_isPlain (n : Nat) : IsPlain (String.ofList (Decimal.digitsOf n)) := by
  intro c hc
  rw [String.toList_ofList] at hc
  have hdigit := Nat.isDigit_of_mem_toDigits (by decide) (by decide) hc
  simp [isPlainChar, continues_of_isDigit hdigit]

theorem operator_isPlain (o : Operator) : IsPlain o.sql := by
  cases o <;> decide

theorem join_isPlain (j : Join) : IsPlain j.name := by
  cases j <;> decide

end QueryDesk.Sql
