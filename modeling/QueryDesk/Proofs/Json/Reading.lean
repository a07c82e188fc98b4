import Mathlib.Data.List.DropRight
import Mathlib.Data.List.TakeWhile
import QueryDesk.Proofs.Json.Grammar

/-!
# Every JSON text is read

The reader takes each text of the grammar apart, whatever follows, and its parts are decoded to what
the text stands for; a text that stands for nothing is refused (`parse_eq`).  The induction is on
the text; the fuel that is left is at least twice its length.
-/

namespace QueryDesk.Json

open QueryDesk.Text (isAsciiDigit)

/-! ## White space -/

theorem isSpace_iff {c : Char} :
    isSpace c = true ↔ c = ' ' ∨ c = '\n' ∨ c = '\t' ∨ c = '\r' := by
  simp [isSpace, or_assoc]

theorem skipSpace_append {a : List Char} (ha : Spaces a) (s : List Char) :
    skipSpace (a ++ s) = skipSpace s :=
  List.dropWhile_append_of_pos ha

theorem skipSpace_cons {c : Char} (hc : isSpace c = false) (s : List Char) :
    skipSpace (c :: s) = c :: s :=
  List.dropWhile_cons_of_neg (by simp [hc])

theorem skipSpace_token {a : List Char} (ha : Spaces a) {c : Char} (hc : isSpace c = false)
    (s : List Char) : skipSpace (a ++ c :: s) = c :: s := by
  rw [skipSpace_append ha, skipSpace_cons hc]

theorem skipSpace_skipSpace (s : List Char) : skipSpace (skipSpace s) = skipSpace s :=
  List.dropWhile_idempotent isSpace s

/-! ## Strings -/

/-- A character that stands for itself in a string. -/
structure Literally (c : Char) : Prop where
  quote : c ≠ '"'
  backslash : c ≠ '\\'
  control : ¬c.toNat < 0x20

theorem literally_of_hexDigit {c : Char} {n : Nat} (h : hexDigit? c = some n) : Literally c := by
  have hbetween : ∀ low high : Char, low ≤ c → c ≤ high → 0x30 ≤ low.toNat →
      (high.toNat < 0x5C ∨ 0x5C < low.toNat) → Literally c := by
    intro low high hlow hhigh h30 h5C
    have hlow : low.toNat ≤ c.toNat := hlow
    have hhigh : c.toNat ≤ high.toNat := hhigh
    refine ⟨?_, ?_, by omega⟩
    · rintro rfl
      have : '"'.toNat = 0x22 := rfl
      omega
    · rintro rfl
      have : '\\'.toNat = 0x5C := rfl
      omega
  unfold hexDigit? at h
  split at h
  · next hc => exact hbetween '0' '9' hc.1 hc.2 (by decide) (by decide)
  split at h
  · next hc => exact hbetween 'a' 'f' hc.1 hc.2 (by decide) (by decide)
  split at h
  · next hc => exact hbetween 'A' 'F' hc.1 hc.2 (by decide) (by decide)
  · cases h

/-- The digits of an escape stand for themselves. -/
theorem literally_of_hex4 {a b c d : Char} {n : Nat} (h : hex4? a b c d = some n) :
    Literally a ∧ Literally b ∧ Literally c ∧ Literally d := by
  unfold hex4? at h
  obtain ⟨_, ha, h⟩ := Option.bind_eq_some_iff.mp h
  obtain ⟨_, hb, h⟩ := Option.bind_eq_some_iff.mp h
  obtain ⟨_, hc, h⟩ := Option.bind_eq_some_iff.mp h
  obtain ⟨_, hd, _⟩ := Option.bind_eq_some_iff.mp h
  exact ⟨literally_of_hexDigit ha, literally_of_hexDigit hb, literally_of_hexDigit hc,
    literally_of_hexDigit hd⟩

theorem not_control_of_letter {c x : Char} (h : escapeLetter? c = some x) : ¬c.toNat < 0x20 := by
  unfold escapeLetter? at h
  split at h
  all_goals first | decide | cases h

theorem scan_literally {c : Char} (h : Literally c) (rest : List Char) :
    scan (c :: rest) = (scan rest).map fun (raw, after) => (c :: raw, after) := by
  rw [scan, if_neg h.control]
  · exact h.quote
  · intro x rest' hc
    exact absurd hc h.backslash

theorem scan_escape {c : Char} (h : ¬c.toNat < 0x20) (rest : List Char) :
    scan ('\\' :: c :: rest) = (scan rest).map fun (raw, after) => ('\\' :: c :: raw, after) := by
  rw [scan, if_neg h]

/-- An escape of four digits is passed over. -/
theorem scan_unit {a b c d : Char} {n : Nat} (h : hex4? a b c d = some n) (rest : List Char) :
    scan ('\\' :: 'u' :: a :: b :: c :: d :: rest) =
      (scan rest).map fun (raw, after) => ('\\' :: 'u' :: a :: b :: c :: d :: raw, after) := by
  obtain ⟨ha, hb, hc, hd⟩ := literally_of_hex4 h
  rw [scan_escape (by decide), scan_literally ha, scan_literally hb, scan_literally hc,
    scan_literally hd]
  simp only [Option.map_map, Function.comp_def]

/-- A string ends at the first quote after its text. -/
theorem scan_stringText {raw : List Char} {s : Option (List Char)} (h : StringText raw s)
    (rest : List Char) : scan (raw ++ '"' :: rest) = some (raw, rest) := by
  induction h with
  | nil => rfl
  | char hquote hbackslash hcontrol _ ih =>
    rw [List.cons_append, scan_literally ⟨hquote, hbackslash, Nat.not_lt.mpr hcontrol⟩, ih]
    rfl
  | letter hletter _ ih =>
    rw [List.cons_append, List.cons_append, scan_escape (not_control_of_letter hletter), ih]
    rfl
  | unit hunit _ _ _ ih =>
    simp only [List.cons_append]
    rw [scan_unit hunit, ih]
    rfl
  | pair hunit _ hunit' _ _ ih =>
    simp only [List.cons_append]
    rw [scan_unit hunit, scan_unit hunit', ih]
    rfl
  | lone hunit _ _ ih =>
    simp only [List.cons_append]
    rw [scan_unit hunit, ih]
    rfl

theorem not_high_of_low {n : Nat} (h : isLowSurrogate n = true) : isHighSurrogate n = false := by
  simp only [isLowSurrogate, Bool.and_eq_true, decide_eq_true_eq] at h
  simp only [isHighSurrogate, Bool.and_eq_false_iff, decide_eq_false_iff_not]
  omega

/-- A surrogate without the one that would make a pair is refused. -/
theorem unescape_lone {a b c d : Char} {n : Nat} {raw : List Char}
    (hunit : hex4? a b c d = some n)
    (hlone : isLowSurrogate n = true ∨ isHighSurrogate n = true ∧ ¬ClosesPair raw) :
    unescape ('\\' :: 'u' :: a :: b :: c :: d :: raw) = none := by
  rcases hlone with hlow | ⟨hhigh, hpair⟩
  · simp [unescape, hunit, not_high_of_low hlow, hlow]
  · unfold unescape
    simp only [hunit, hhigh, if_true]
    split
    · split
      · split
        · next hunit' hlow => exact absurd ⟨_, _, _, _, _, _, rfl, hunit', hlow⟩ hpair
        · rfl
      · rfl
    · rfl

/-- The text of a string is decoded to the characters it stands for. -/
theorem unescape_stringText {raw : List Char} {s : Option (List Char)} (h : StringText raw s) :
    unescape raw = s := by
  induction h with
  | nil => rfl
  | char _ hbackslash _ _ ih => simp [unescape, hbackslash, ih]
  | @letter c x raw s hletter _ ih =>
    have hu : c ≠ 'u' := by
      rintro rfl
      cases hletter
    simp [unescape, hu, hletter, ih]
  | unit hunit hhigh hlow _ ih => simp [unescape, hunit, hhigh, hlow, ih]
  | pair hunit hhigh hunit' hlow _ ih => simp [unescape, hunit, hhigh, hunit', hlow, ih]
  | lone hunit hlone _ _ => exact unescape_lone hunit hlone

theorem text?_stringText {raw : List Char} {s : Option (List Char)} (h : StringText raw s) :
    text? raw = s.map String.ofList := by
  rw [text?, unescape_stringText h]

/-- The text of a string keeps to the grammar, though it may stand for nothing. -/
theorem hasKnownEscapes_stringText {raw : List Char} {s : Option (List Char)}
    (h : StringText raw s) : hasKnownEscapes raw = true := by
  induction h with
  | nil => rfl
  | char _ hbackslash _ _ ih => simp [hasKnownEscapes, hbackslash, ih]
  | @letter c x raw s hletter _ ih =>
    have hu : c ≠ 'u' := by
      rintro rfl
      cases hletter
    simp [hasKnownEscapes, hu, hletter, ih]
  | unit hunit _ _ _ ih => simp [hasKnownEscapes, hunit, ih]
  | pair hunit _ hunit' _ _ ih => simp [hasKnownEscapes, hunit, hunit', ih]
  | lone hunit _ _ ih => simp [hasKnownEscapes, hunit, ih]

theorem stringBody?_stringText {raw : List Char} {s : Option (List Char)} (h : StringText raw s)
    (rest : List Char) : stringBody? (raw ++ '"' :: rest) = some (raw, rest) := by
  rw [stringBody?, scan_stringText h]
  simp [hasKnownEscapes_stringText h]

/-! ## Numbers -/

/-- A text that does not start with a character of some kind. -/
def NotAtHead (p : Char → Bool) (s : List Char) : Prop := ∀ c ∈ s.head?, p c = false

/-- Digits are taken up to the next character that is none. -/
theorem takeWhile_digits {ds rest : List Char} (hds : ∀ d ∈ ds, isAsciiDigit d = true)
    (hrest : NotAtHead isAsciiDigit rest) : (ds ++ rest).takeWhile isAsciiDigit = ds := by
  rw [List.takeWhile_append_of_pos hds]
  cases rest with
  | nil => simp
  | cons c rest => simp [hrest c rfl]

theorem dropWhile_digits {ds rest : List Char} (hds : ∀ d ∈ ds, isAsciiDigit d = true)
    (hrest : NotAtHead isAsciiDigit rest) : (ds ++ rest).dropWhile isAsciiDigit = rest := by
  rw [List.dropWhile_append_of_pos hds]
  cases rest with
  | nil => simp
  | cons c rest => simp [hrest c rfl]

/-- Whether a number may go on with the character. -/
def continuesNumber (c : Char) : Bool := isAsciiDigit c || c == '.' || c == 'e' || c == 'E'

theorem exponentPart?_exponentText {x : List Char} {exponent : Option (Bool × List Char)}
    (h : ExponentText x exponent) {rest : List Char} (hrest : NotAtHead continuesNumber rest) :
    Decimal.exponentPart? (x ++ rest) = some (exponent, rest) := by
  have hdigit : NotAtHead isAsciiDigit rest := fun c hc => by
    have := hrest c hc
    simp only [continuesNumber, Bool.or_eq_false_iff] at this
    exact this.1.1.1
  cases h with
  | none =>
    cases rest with
    | nil => rfl
    | cons c rest =>
      have := hrest c rfl
      simp only [continuesNumber, Bool.or_eq_false_iff, beq_eq_false_iff_ne] at this
      simp [Decimal.exponentPart?, this]
  | @some e sign ds negative he hsign hds =>
    have hsigned : Decimal.sign (sign ++ ds ++ rest) = (negative, ds ++ rest) := by
      cases hsign with
      | plus => rfl
      | minus => rfl
      | none =>
        obtain ⟨d, ds, rfl⟩ := List.exists_cons_of_ne_nil hds.1
        have hd := hds.2 d List.mem_cons_self
        unfold Decimal.sign
        split
        · next heq => cases heq; cases hd
        · next heq => cases heq; cases hd
        · rfl
    rw [List.cons_append]
    unfold Decimal.exponentPart?
    simp only [he, if_true, hsigned, takeWhile_digits hds.2 hdigit, dropWhile_digits hds.2 hdigit,
      List.isEmpty_iff, hds.1, if_false]

/-- A number is read to its end if what follows does not go on with it. -/
theorem exists_numeral {t : List Char} {v : Option Json} (h : NumberText t v) :
    ∃ n : Numeral, n.value? = v ∧ ∀ rest, NotAtHead continuesNumber rest →
      numeral? (t ++ rest) = some (n, rest) := by
  obtain @⟨negative, ds, f, x, fraction, exponent, ⟨hds, hzero⟩, hfraction, hexponent⟩ := h
  refine ⟨⟨negative, ds, fraction, exponent⟩, rfl, fun rest hrest => ?_⟩
  have hleading : (ds.isEmpty || (ds.head? == some '0' && ds.length != 1)) = false := by
    simpa [hds.1] using hzero
  have hafter : NotAtHead (fun c => isAsciiDigit c || c == '.') rest := fun c hc => by
    have := hrest c hc
    simp only [continuesNumber, Bool.or_eq_false_iff] at this
    simp only [this, Bool.or_self]
  have hx : NotAtHead (fun c => isAsciiDigit c || c == '.') (x ++ rest) := by
    cases hexponent with
    | none => exact hafter
    | some he => rintro c ⟨⟩; rcases he with rfl | rfl <;> rfl
  have hfx : NotAtHead isAsciiDigit (f ++ (x ++ rest)) := by
    cases hfraction with
    | none => exact fun c hc => (Bool.or_eq_false_iff.mp (hx c hc)).1
    | some => rintro c ⟨⟩; rfl
  simp only [List.append_assoc]
  unfold numeral?
  split
  next negative' s heq =>
  obtain ⟨rfl, rfl⟩ : negative' = negative ∧ s = ds ++ (f ++ (x ++ rest)) := by
    cases negative with
    | true => cases heq; exact ⟨rfl, rfl⟩
    | false =>
      obtain ⟨d, ds, rfl⟩ := List.exists_cons_of_ne_nil hds.1
      have hd : d ≠ '-' := by
        rintro rfl
        exact absurd (hds.2 '-' List.mem_cons_self) (by decide)
      split at heq
      · next hcons => exact absurd (List.cons.inj hcons).1 hd
      · cases heq; exact ⟨rfl, rfl⟩
  have hread : Decimal.exponentPart? (x ++ rest) = some (exponent, rest) :=
    exponentPart?_exponentText hexponent hrest
  rw [takeWhile_digits hds.2 hfx, dropWhile_digits hds.2 hfx]
  dsimp only
  rw [hleading, if_neg Bool.false_ne_true]
  split
  · next more hpoint =>
    cases hfraction with
    | none =>
      have := hx '.' (by rw [← List.nil_append (x ++ rest), hpoint]; rfl)
      exact absurd this (by decide)
    | @some places hplaces =>
      obtain rfl : places ++ (x ++ rest) = more := (List.cons.inj hpoint).2
      have hdigit : NotAtHead isAsciiDigit (x ++ rest) := fun c hc =>
        (Bool.or_eq_false_iff.mp (hx c hc)).1
      have hsome : (some places == some []) = false := by simpa using hplaces.1
      dsimp only
      rw [takeWhile_digits hplaces.2 hdigit, dropWhile_digits hplaces.2 hdigit, hsome, hread]
      rfl
  · next hpoint =>
    cases hfraction with
    | none =>
      dsimp only [List.nil_append]
      rw [hread]
      rfl
    | some => exact absurd rfl (hpoint _)

/-! ## Values -/

/-- What may follow a value: white space, a comma, a closing bracket, or nothing. -/
def Follows (s : List Char) : Prop :=
  ∀ c ∈ s.head?, isSpace c = true ∨ c = ',' ∨ c = ']' ∨ c = '}'

theorem Follows.notAtHead {s : List Char} (h : Follows s) : NotAtHead continuesNumber s := by
  intro c hc
  rcases h c hc with h | rfl | rfl | rfl
  · rcases isSpace_iff.mp h with rfl | rfl | rfl | rfl <;> rfl
  all_goals rfl

/-- White space and a character that may follow a value may follow one. -/
theorem follows_append {b s : List Char} (hb : Spaces b) (hs : Follows s) : Follows (b ++ s) := by
  cases b with
  | nil => exact hs
  | cons c b => rintro c ⟨⟩; exact Or.inl (hb c List.mem_cons_self)

theorem follows_token {b : List Char} (hb : Spaces b) {c : Char}
    (hc : c = ',' ∨ c = ']' ∨ c = '}') (s : List Char) : Follows (b ++ c :: s) :=
  follows_append hb fun _ h => Option.some.inj h ▸ Or.inr hc

section Steps

variable {fuel : Nat} {s t u rest : List Char} {r : Raw}

theorem raw?_skipSpace : raw? fuel (skipSpace s) = raw? fuel s := by
  cases fuel with
  | zero => rfl
  | succ fuel => simp only [raw?, skipSpace_skipSpace]

theorem raw?_append {a : List Char} (ha : Spaces a) : raw? fuel (a ++ s) = raw? fuel s := by
  rw [← raw?_skipSpace, skipSpace_append ha, raw?_skipSpace]

theorem rawItems?_skipSpace : rawItems? fuel (skipSpace s) = rawItems? fuel s := by
  cases fuel with
  | zero => rfl
  | succ fuel => simp only [rawItems?, raw?_skipSpace]

theorem rawMembers?_skipSpace : rawMembers? fuel (skipSpace s) = rawMembers? fuel s := by
  cases fuel with
  | zero => rfl
  | succ fuel => simp only [rawMembers?, skipSpace_skipSpace]

theorem rawMembers?_append {a : List Char} (ha : Spaces a) :
    rawMembers? fuel (a ++ s) = rawMembers? fuel s := by
  rw [← rawMembers?_skipSpace, skipSpace_append ha, rawMembers?_skipSpace]

theorem raw?_scalar {c : Char} (hspace : isSpace c = false) (hbracket : c ≠ '[')
    (hbrace : c ≠ '{') : raw? (fuel + 1) (c :: s) = scalar? (c :: s) := by
  unfold raw?
  rw [skipSpace_cons hspace]
  split
  · next h => exact absurd (List.cons.inj h).1 hbracket
  · next h => exact absurd (List.cons.inj h).1 hbrace
  · rfl

theorem raw?_emptyArray (h : skipSpace t = ']' :: rest) :
    raw? (fuel + 1) ('[' :: t) = some (.array [], rest) := by
  have hopen : skipSpace ('[' :: t) = '[' :: t := rfl
  unfold raw?
  simp only [hopen, h]

theorem raw?_array {c : Char} (h : skipSpace t = c :: s) (hc : c ≠ ']') :
    raw? (fuel + 1) ('[' :: t) =
      (rawItems? fuel t).map fun (items, rest) => (.array items, rest) := by
  have hopen : skipSpace ('[' :: t) = '[' :: t := rfl
  rw [← rawItems?_skipSpace]
  unfold raw?
  simp only [hopen, h]
  split
  · next hcons => exact absurd (List.cons.inj hcons).1 hc
  · rfl

theorem raw?_emptyObject (h : skipSpace t = '}' :: rest) :
    raw? (fuel + 1) ('{' :: t) = some (.object [], rest) := by
  have hopen : skipSpace ('{' :: t) = '{' :: t := rfl
  unfold raw?
  simp only [hopen, h]

theorem raw?_object (h : skipSpace t = '"' :: s) :
    raw? (fuel + 1) ('{' :: t) =
      (rawMembers? fuel t).map fun (ms, rest) => (.object ms, rest) := by
  have hopen : skipSpace ('{' :: t) = '{' :: t := rfl
  rw [← rawMembers?_skipSpace]
  unfold raw?
  simp only [hopen, h]
  rfl

/-- The last item ends the array. -/
theorem rawItems?_last (h : raw? fuel s = some (r, t)) (ht : skipSpace t = ']' :: rest) :
    rawItems? (fuel + 1) s = some ([r], rest) := by
  rw [rawItems?, h]
  simp only [ht]

/-- After an item and a comma the other items are read. -/
theorem rawItems?_cons {rs : List Raw} (h : raw? fuel s = some (r, t))
    (ht : skipSpace t = ',' :: u) (hu : rawItems? fuel u = some (rs, rest)) :
    rawItems? (fuel + 1) s = some (r :: rs, rest) := by
  rw [rawItems?, h]
  simp only [ht, hu, Option.map_some]

section Member

variable {raw b : List Char} {key : Option (List Char)}

/-- The last member ends the object. -/
theorem rawMembers?_last (hkey : StringText raw key) (hb : Spaces b)
    (h : raw? fuel s = some (r, t)) (ht : skipSpace t = '}' :: rest) :
    rawMembers? (fuel + 1) ('"' :: (raw ++ '"' :: (b ++ ':' :: s))) =
      some ([(raw, r)], rest) := by
  have hopen : skipSpace ('"' :: (raw ++ '"' :: (b ++ ':' :: s))) =
    '"' :: (raw ++ '"' :: (b ++ ':' :: s)) := rfl
  have hcolon : skipSpace (b ++ ':' :: s) = ':' :: s := skipSpace_token hb rfl s
  unfold rawMembers?
  simp only [hopen, stringBody?_stringText hkey, hcolon, h, ht]

/-- After a member and a comma the other members are read. -/
theorem rawMembers?_cons {ms : List (List Char × Raw)} (hkey : StringText raw key)
    (hb : Spaces b) (h : raw? fuel s = some (r, t)) (ht : skipSpace t = ',' :: u)
    (hu : rawMembers? fuel u = some (ms, rest)) :
    rawMembers? (fuel + 1) ('"' :: (raw ++ '"' :: (b ++ ':' :: s))) =
      some ((raw, r) :: ms, rest) := by
  have hopen : skipSpace ('"' :: (raw ++ '"' :: (b ++ ':' :: s))) =
    '"' :: (raw ++ '"' :: (b ++ ':' :: s)) := rfl
  have hcolon : skipSpace (b ++ ':' :: s) = ':' :: s := skipSpace_token hb rfl s
  unfold rawMembers?
  simp only [hopen, stringBody?_stringText hkey, hcolon, h, ht, hu, Option.map_some]

end Member

end Steps

/-! ## What the parts stand for -/

section Decoding

variable {depth : Nat} {r : Raw} {v : Option Json}

theorem values?_cons {rs : List Raw} {vs : Option (List Json)} (h : r.value? depth = v)
    (hs : values? depth rs = vs) :
    values? depth (r :: rs) = v.bind fun v => vs.map (v :: ·) := by
  rw [values?, h, hs]
  cases v <;> cases vs <;> rfl

theorem memberValues?_cons {raw : List Char} {key : Option (List Char)}
    {rs : List (List Char × Raw)} {ms : Option (List (String × Json))} (hkey : StringText raw key)
    (h : r.value? depth = v) (hs : memberValues? depth rs = ms) :
    memberValues? depth ((raw, r) :: rs) = (member key v).bind fun m => ms.map (m :: ·) := by
  rw [memberValues?, text?_stringText hkey, h, hs]
  cases key <;> cases v <;> cases ms <;> rfl

end Decoding

/-! ## Texts -/

/-- How a text starts: a value with a character that is no closing bracket, the items of an array,
after white space, with such a character, the members of an object with a quote. -/
def Part.Starts (t : List Char) : Part → Prop
  | .value _ | .object _ => ∃ c s, t = c :: s ∧ isSpace c = false ∧ c ≠ ']'
  | .items _ => ∀ rest, ∃ c s, skipSpace (t ++ rest) = c :: s ∧ c ≠ ']'
  | .members _ => ∀ rest, ∃ s, skipSpace (t ++ rest) = '"' :: s

theorem NumberText.starts {t : List Char} {v : Option Json} (h : NumberText t v) :
    ∃ c s, t = c :: s ∧ (c = '-' ∨ isAsciiDigit c = true) := by
  obtain @⟨negative, ds, f, x, _, _, ⟨hds, _⟩, _, _⟩ := h
  obtain ⟨d, ds, rfl⟩ := List.exists_cons_of_ne_nil hds.1
  cases negative with
  | true => exact ⟨'-', _, rfl, Or.inl rfl⟩
  | false => exact ⟨d, _, rfl, Or.inr (hds.2 d List.mem_cons_self)⟩

theorem starts_of_digit {c : Char} (h : c = '-' ∨ isAsciiDigit c = true) :
    isSpace c = false ∧ c ≠ ']' ∧ c ≠ '[' ∧ c ≠ '{' ∧ c ≠ '"' ∧ c ≠ 'n' ∧ c ≠ 't' ∧ c ≠ 'f' := by
  have hne : ∀ x : Char, x ≠ '-' → isAsciiDigit x = false → c ≠ x := by
    rintro x hminus hdigit rfl
    exact h.elim hminus fun h => Bool.noConfusion (h.symm.trans hdigit)
  refine ⟨Bool.eq_false_iff.mpr fun hspace => ?_, ?_, ?_, ?_, ?_, ?_, ?_, ?_⟩
  · rcases isSpace_iff.mp hspace with hc | hc | hc | hc <;> exact hne _ (by decide) rfl hc
  all_goals exact hne _ (by decide) rfl

theorem Spells.starts {depth : Nat} {p : Part} {t : List Char} (h : Spells depth p t) :
    p.Starts t := by
  induction h with
  | nullWord | trueWord | falseWord => exact ⟨_, _, rfl, rfl, by decide⟩
  | number h =>
    obtain ⟨c, s, rfl, hc⟩ := h.starts
    exact ⟨c, s, rfl, (starts_of_digit hc).1, (starts_of_digit hc).2.1⟩
  | string | emptyArray | array | emptyObject | members => exact ⟨_, _, rfl, rfl, by decide⟩
  | object _ ih => exact ih
  | lastItem ha _ _ ih =>
    intro rest
    obtain ⟨c, s, rfl, hspace, hc⟩ := ih
    simp only [List.append_assoc]
    rw [skipSpace_append ha]
    exact ⟨c, _, skipSpace_cons hspace _, hc⟩
  | item ha _ _ _ ih =>
    intro rest
    obtain ⟨c, s, rfl, hspace, hc⟩ := ih
    simp only [List.append_assoc]
    rw [skipSpace_append ha]
    exact ⟨c, _, skipSpace_cons hspace _, hc⟩
  | lastMember ha | member ha =>
    intro rest
    simp only [List.append_assoc, List.cons_append]
    rw [skipSpace_append ha]
    exact ⟨_, skipSpace_cons rfl _⟩

/-- A value is taken apart, whatever may follow one, to parts that stand for what it does. -/
def ReadsAs (depth : Nat) (t : List Char) (v : Option Json) : Prop :=
  ∃ r : Raw, r.value? depth = v ∧ ∀ fuel rest, 2 * t.length ≤ fuel → Follows rest →
    raw? fuel (t ++ rest) = some (r, rest)

/-- What the reader makes of a text with enough fuel; the parts between brackets are read up to the
closing bracket. -/
def Part.Reads (depth : Nat) (t : List Char) : Part → Prop
  | .value v => ReadsAs depth t v
  | .object ms => ReadsAs depth t (ms.map fun ms => .obj (Members.ofList ms))
  | .items vs => ∃ rs, values? depth rs = vs ∧ ∀ fuel rest, 2 * t.length < fuel →
      rawItems? fuel (t ++ ']' :: rest) = some (rs, rest)
  | .members ms => ∃ rs, memberValues? depth rs = ms ∧ ∀ fuel rest, 2 * t.length < fuel →
      rawMembers? fuel (t ++ '}' :: rest) = some (rs, rest)

theorem exists_fuel {fuel : Nat} {c : Char} {t : List Char} (h : 2 * (c :: t).length ≤ fuel) :
    ∃ n, fuel = n + 1 :=
  Nat.exists_eq_succ_of_ne_zero (by rw [List.length_cons] at h; omega)

/-- A word, a number or a string is read whatever its depth. -/
theorem reads_scalar {depth : Nat} {c : Char} {s : List Char} {r : Raw} {v : Option Json}
    (hspace : isSpace c = false) (hbracket : c ≠ '[') (hbrace : c ≠ '{')
    (hr : r.value? depth = v)
    (h : ∀ rest, Follows rest → scalar? (c :: s ++ rest) = some (r, rest)) :
    ReadsAs depth (c :: s) v := by
  refine ⟨r, hr, fun fuel rest hfuel hrest => ?_⟩
  obtain ⟨fuel, rfl⟩ := exists_fuel hfuel
  rw [List.cons_append, raw?_scalar hspace hbracket hbrace]
  exact h rest hrest

theorem reads_number {depth : Nat} {t : List Char} {v : Option Json} (h : NumberText t v) :
    ReadsAs depth t v := by
  obtain ⟨n, hn, hnumeral⟩ := exists_numeral h
  obtain ⟨c, s, rfl, hc⟩ := h.starts
  obtain ⟨hspace, -, hbracket, hbrace, hquote, hnull, htrue, hfalse⟩ := starts_of_digit hc
  refine reads_scalar (r := .number n) hspace hbracket hbrace hn fun rest hrest => ?_
  unfold scalar?
  split
  · next heq => exact absurd (List.cons.inj heq).1 hquote
  · next heq => exact absurd (List.cons.inj heq).1 hnull
  · next heq => exact absurd (List.cons.inj heq).1 htrue
  · next heq => exact absurd (List.cons.inj heq).1 hfalse
  · rw [hnumeral rest hrest.notAtHead]
    rfl

theorem enclosed_append (c d : Char) (t rest : List Char) :
    c :: t ++ [d] ++ rest = c :: (t ++ d :: rest) := by
  simp

/-- Every text is read for what it stands for. -/
theorem Spells.reads {depth : Nat} {p : Part} {t : List Char} (h : Spells depth p t) :
    p.Reads depth t := by
  -- each bracket and each comma pays for the two calls between it and the next value
  induction h with
  | nullWord | trueWord | falseWord =>
    exact reads_scalar rfl (by decide) (by decide) rfl fun _ _ => rfl
  | number h => exact reads_number h
  | @string depth raw s h =>
    refine reads_scalar (r := .string raw) rfl (by decide) (by decide) ?_ fun rest _ => ?_
    · rw [Raw.value?, text?_stringText h, Option.map_map]
      rfl
    · show scalar? ('"' :: (raw ++ ['"'] ++ rest)) = _
      rw [List.append_assoc]
      simp only [scalar?, List.cons_append, List.nil_append, stringBody?_stringText h,
        Option.map_some]
  | @emptyArray depth a ha =>
    refine ⟨.array [], rfl, fun fuel rest hfuel _ => ?_⟩
    obtain ⟨fuel, rfl⟩ := exists_fuel hfuel
    rw [enclosed_append, raw?_emptyArray (skipSpace_token ha rfl rest)]
  | @array depth t vs h ih =>
    obtain ⟨rs, hrs, hread⟩ := ih
    refine ⟨.array rs, by rw [Raw.value?, hrs], fun fuel rest hfuel _ => ?_⟩
    obtain ⟨fuel, rfl⟩ := exists_fuel hfuel
    obtain ⟨c, s, hskip, hc⟩ := h.starts (']' :: rest)
    have hlength : 2 * t.length < fuel := by simp at hfuel; omega
    rw [enclosed_append, raw?_array hskip hc, hread fuel rest hlength]
    rfl
  | @emptyObject depth a ha =>
    refine ⟨.object [], rfl, fun fuel rest hfuel _ => ?_⟩
    obtain ⟨fuel, rfl⟩ := exists_fuel hfuel
    rw [enclosed_append, raw?_emptyObject (skipSpace_token ha rfl rest)]
  | @members depth t ms h ih =>
    obtain ⟨rs, hrs, hread⟩ := ih
    refine ⟨.object rs, by rw [Raw.value?, hrs], fun fuel rest hfuel _ => ?_⟩
    obtain ⟨fuel, rfl⟩ := exists_fuel hfuel
    obtain ⟨s, hskip⟩ := h.starts ('}' :: rest)
    have hlength : 2 * t.length < fuel := by simp at hfuel; omega
    rw [enclosed_append, raw?_object hskip, hread fuel rest hlength]
    rfl
  | object _ ih => exact ih
  | @lastItem depth a t b v ha h hb ih =>
    obtain ⟨r, hr, hread⟩ := ih
    refine ⟨[r], ?_, fun fuel rest hfuel => ?_⟩
    · have hnil : values? depth [] = some [] := rfl
      rw [values?_cons hr hnil]
      cases v <;> rfl
    obtain ⟨fuel, rfl⟩ := Nat.exists_eq_succ_of_ne_zero (Nat.ne_zero_of_lt hfuel)
    have hlength : 2 * t.length ≤ fuel := by simp at hfuel; omega
    have hvalue := hread fuel (b ++ ']' :: rest) hlength (follows_token hb (by simp) rest)
    simp only [List.append_assoc]
    exact rawItems?_last ((raw?_append ha).trans hvalue) (skipSpace_token hb rfl rest)
  | @item depth a t b ts v vs ha h hb hs ih ihs =>
    obtain ⟨r, hr, hread⟩ := ih
    obtain ⟨rs, hrs, hreads⟩ := ihs
    refine ⟨r :: rs, values?_cons hr hrs, fun fuel rest hfuel => ?_⟩
    obtain ⟨fuel, rfl⟩ := Nat.exists_eq_succ_of_ne_zero (Nat.ne_zero_of_lt hfuel)
    have hlength : 2 * t.length ≤ fuel := by simp at hfuel; omega
    have hlengths : 2 * ts.length < fuel := by simp at hfuel; omega
    have hvalue := hread fuel (b ++ ',' :: (ts ++ ']' :: rest)) hlength
      (follows_token hb (by simp) _)
    simp only [List.append_assoc, List.cons_append]
    exact rawItems?_cons ((raw?_append ha).trans hvalue) (skipSpace_token hb rfl _)
      (hreads fuel rest hlengths)
  | @lastMember depth a raw b c t d key v ha hkey hb hc h hd ih =>
    obtain ⟨r, hr, hread⟩ := ih
    refine ⟨[(raw, r)], ?_, fun fuel rest hfuel => ?_⟩
    · have hnil : memberValues? depth [] = some [] := rfl
      rw [memberValues?_cons hkey hr hnil]
      cases Json.member key v <;> rfl
    obtain ⟨fuel, rfl⟩ := Nat.exists_eq_succ_of_ne_zero (Nat.ne_zero_of_lt hfuel)
    have hlength : 2 * t.length ≤ fuel := by simp at hfuel; omega
    have hvalue := hread fuel (d ++ '}' :: rest) hlength (follows_token hd (by simp) rest)
    simp only [List.append_assoc, List.cons_append]
    rw [rawMembers?_append ha]
    exact rawMembers?_last hkey hb ((raw?_append hc).trans hvalue) (skipSpace_token hd rfl rest)
  | @member depth a raw b c t d ts key v ms ha hkey hb hc h hd hs ih ihs =>
    obtain ⟨r, hr, hread⟩ := ih
    obtain ⟨rs, hrs, hreads⟩ := ihs
    refine ⟨(raw, r) :: rs, memberValues?_cons hkey hr hrs, fun fuel rest hfuel => ?_⟩
    obtain ⟨fuel, rfl⟩ := Nat.exists_eq_succ_of_ne_zero (Nat.ne_zero_of_lt hfuel)
    have hlength : 2 * t.length ≤ fuel := by simp at hfuel; omega
    have hlengths : 2 * ts.length < fuel := by simp at hfuel; omega
    have hvalue := hread fuel (d ++ ',' :: (ts ++ '}' :: rest)) hlength
      (follows_token hd (by simp) _)
    simp only [List.append_assoc, List.cons_append]
    rw [rawMembers?_append ha]
    exact rawMembers?_cons hkey hb ((raw?_append hc).trans hvalue) (skipSpace_token hd rfl _)
      (hreads fuel rest hlengths)

/-- A text that holds one value is read for what it stands for, and refused if that is nothing. -/
theorem parse_eq {t : List Char} {v : Option Json} (h : Spells maxDepth (.value v) t) :
    parse (String.ofList t) = v := by
  obtain ⟨r, hr, hread⟩ := h.reads
  have hwhole := hread (2 * t.length + 2) [] (Nat.le_add_right _ _) (by simp [Follows])
  rw [List.append_nil] at hwhole
  unfold parse unread? unreadChars?
  rw [String.toList_ofList, hwhole]
  exact hr

end QueryDesk.Json
