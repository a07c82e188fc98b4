import QueryDesk.Proofs.Json.Reading
import QueryDesk.Proofs.Text.Search
import QueryDesk.Understanding.Reply

/-!
# Objects in replies

The scanner for a balanced object keeps its own notion of strings and escapes.  It agrees with the
grammar of JSON: it passes over every value and stops at the brace that ends an object
(`balanced?_object`).  So a reply that is one object is taken as it is, unless a fence in one of its
strings opens a block with an object of its own (`reply_read`).
-/

namespace QueryDesk.Reply

open Json

/-! ## The scanner -/

theorem closing?_escape (depth : Nat) (inString : Bool) (c : Char) (rest : List Char) :
    closing? depth inString false ('\\' :: c :: rest) =
      (closing? depth inString false rest).map (['\\', c] ++ ·) := by
  simp [closing?, Function.comp_def]

theorem closing?_quote (depth : Nat) (inString : Bool) (rest : List Char) :
    closing? depth inString false ('"' :: rest) =
      (closing? depth (!inString) false rest).map ('"' :: ·) := by
  simp [closing?]

/-- Between quotes only a quote and a backslash matter. -/
theorem closing?_inString {c : Char} (hquote : c ≠ '"') (hbackslash : c ≠ '\\') (depth : Nat)
    (rest : List Char) : closing? depth true false (c :: rest) =
      (closing? depth true false rest).map (c :: ·) := by
  simp [closing?, hquote, hbackslash]

/-- A character that the scanner passes over outside strings. -/
def Plain (c : Char) : Prop := c ≠ '\\' ∧ c ≠ '"' ∧ c ≠ '{' ∧ c ≠ '}'

instance (c : Char) : Decidable (Plain c) := inferInstanceAs (Decidable (_ ∧ _))

/-- A text that the scanner passes over inside an object. -/
def Skips (t : List Char) : Prop := ∀ depth rest,
  closing? (depth + 1) false false (t ++ rest) =
    (closing? (depth + 1) false false rest).map (t ++ ·)

theorem Skips.nil : Skips [] := by
  intro depth rest
  simp

theorem Skips.append {s t : List Char} (hs : Skips s) (ht : Skips t) : Skips (s ++ t) := by
  intro depth rest
  rw [List.append_assoc, hs, ht, Option.map_map]
  simp [Function.comp_def]

theorem Skips.cons {c : Char} {t : List Char} (hc : Plain c) (ht : Skips t) : Skips (c :: t) := by
  intro depth rest
  obtain ⟨hbackslash, hquote, hopen, hclose⟩ := hc
  simp [closing?, hbackslash, hquote, hopen, hclose, ht depth rest, Function.comp_def]

theorem skips_plain {t : List Char} (h : ∀ c ∈ t, Plain c) : Skips t := by
  induction t with
  | nil => exact Skips.nil
  | cons c t ih =>
    exact (ih fun c hc => h c (List.mem_cons_of_mem _ hc)).cons (h c List.mem_cons_self)

theorem Skips.singleton {c : Char} (hc : Plain c) : Skips [c] := Skips.nil.cons hc

/-- A text between two quotes: a backslash hides the character behind it. -/
inductive Quotable : List Char → Prop
  | nil : Quotable []
  | char {c : Char} {raw : List Char} (hquote : c ≠ '"') (hbackslash : c ≠ '\\')
      (h : Quotable raw) : Quotable (c :: raw)
  | escape {c : Char} {raw : List Char} (h : Quotable raw) : Quotable ('\\' :: c :: raw)

theorem closing?_quotable {raw : List Char} (h : Quotable raw) (depth : Nat)
    (rest : List Char) : closing? depth true false (raw ++ '"' :: rest) =
      (closing? depth false false rest).map (raw ++ '"' :: ·) := by
  induction h with
  | nil => simp [closing?_quote]
  | char hquote hbackslash _ ih =>
    simp [closing?_inString hquote hbackslash, ih, Function.comp_def]
  | escape _ ih => simp [closing?_escape, ih, Function.comp_def]

theorem Quotable.skips {raw : List Char} (h : Quotable raw) : Skips ('"' :: raw ++ ['"']) := by
  intro depth rest
  rw [enclosed_append, closing?_quote, Bool.not_false, closing?_quotable h]
  simp [Function.comp_def]

/-- The scanner finds the end of a string where the grammar has it. -/
theorem quotable_of_stringText {raw : List Char} {s : Option (List Char)}
    (h : StringText raw s) : Quotable raw := by
  have hunit : ∀ {a b c d : Char} {n : Nat} {raw : List Char}, hex4? a b c d = some n →
      Quotable raw → Quotable ('\\' :: 'u' :: a :: b :: c :: d :: raw) := by
    intro a b c d n raw h hraw
    obtain ⟨ha, hb, hc, hd⟩ := literally_of_hex4 h
    exact .escape (.char ha.quote ha.backslash (.char hb.quote hb.backslash
      (.char hc.quote hc.backslash (.char hd.quote hd.backslash hraw))))
  induction h with
  | nil => exact .nil
  | char hquote hbackslash _ _ ih => exact ih.char hquote hbackslash
  | letter _ _ ih => exact ih.escape
  | unit h _ _ _ ih => exact hunit h ih
  | pair h _ h' _ _ ih => exact hunit h (hunit h' ih)
  | lone h _ _ ih => exact hunit h ih

/-- An object inside another one is passed over. -/
theorem Skips.braces {t : List Char} (h : Skips t) : Skips ('{' :: t ++ ['}']) := by
  intro depth rest
  have hopen : closing? (depth + 1) false false ('{' :: (t ++ '}' :: rest)) =
      (closing? (depth + 2) false false (t ++ '}' :: rest)).map ('{' :: ·) := by
    simp [closing?]
  have hclose : closing? (depth + 2) false false ('}' :: rest) =
      (closing? (depth + 1) false false rest).map ('}' :: ·) := by
    simp [closing?]
  rw [enclosed_append, hopen, h, hclose]
  simp [Function.comp_def]

/-- An object ends where its braces balance. -/
theorem Skips.closes {t : List Char} (h : Skips t) (rest : List Char) :
    closing? 0 false false ('{' :: t ++ ['}'] ++ rest) = some ('{' :: t ++ ['}']) := by
  have hopen : closing? 0 false false ('{' :: (t ++ '}' :: rest)) =
      (closing? 1 false false (t ++ '}' :: rest)).map ('{' :: ·) := by
    simp [closing?]
  have hclose : closing? 1 false false ('}' :: rest) = some ['}'] := by
    simp [closing?]
  rw [enclosed_append, hopen, h, hclose]
  simp

/-- An object behind text without a brace is found. -/
theorem Skips.balanced? {t a : List Char} (h : Skips t) (ha : '{' ∉ a) (rest : List Char) :
    balanced? (a ++ ('{' :: t ++ ['}']) ++ rest) = some ('{' :: t ++ ['}']) := by
  have hdrop : (a ++ ('{' :: t ++ ['}']) ++ rest).dropWhile (· ≠ '{') =
      '{' :: t ++ ['}'] ++ rest := by
    rw [List.append_assoc, List.dropWhile_append_of_pos]
    · rfl
    · intro c hc
      simpa using fun h : c = '{' => ha (h ▸ hc)
  unfold Reply.balanced?
  rw [hdrop, h.closes]

/-! ## Texts of the grammar -/

theorem plain_of_isSpace {c : Char} (h : isSpace c = true) : Plain c := by
  rcases isSpace_iff.mp h with rfl | rfl | rfl | rfl <;> decide

theorem skips_spaces {a : List Char} (ha : Spaces a) : Skips a :=
  skips_plain fun c hc => plain_of_isSpace (ha c hc)

theorem plain_of_digit {c : Char} (h : Text.isAsciiDigit c = true) : Plain c := by
  refine ⟨?_, ?_, ?_, ?_⟩ <;> rintro rfl <;> cases h

theorem skips_digits {ds : List Char} (h : Digits ds) : Skips ds :=
  skips_plain fun c hc => plain_of_digit (h.2 c hc)

theorem skips_number {t : List Char} {v : Option Json} (h : NumberText t v) : Skips t := by
  obtain @⟨negative, ds, f, x, _, _, ⟨hds, _⟩, hfraction, hexponent⟩ := h
  have hsign : Skips (if negative then ['-'] else []) := by
    cases negative with
    | true => exact .singleton (by decide)
    | false => exact .nil
  have hf : Skips f := by
    cases hfraction with
    | none => exact .nil
    | some h => exact (skips_digits h).cons (by decide)
  have hx : Skips x := by
    cases hexponent with
    | none => exact .nil
    | some he hsign h =>
      refine Skips.cons ?_ (Skips.append ?_ (skips_digits h))
      · rcases he with rfl | rfl <;> decide
      · cases hsign with
        | none => exact .nil
        | plus | minus => exact .singleton (by decide)
  exact ((hsign.append (skips_digits hds)).append hf).append hx

theorem skips_member {a raw b c t d : List Char} {key : Option (List Char)} (ha : Spaces a)
    (hkey : StringText raw key) (hb : Spaces b) (hc : Spaces c) (ht : Skips t) (hd : Spaces d) :
    Skips (a ++ '"' :: raw ++ '"' :: b ++ ':' :: c ++ t ++ d) := by
  have hparts : a ++ '"' :: raw ++ '"' :: b ++ ':' :: c ++ t ++ d =
      a ++ ('"' :: raw ++ ['"']) ++ (b ++ ':' :: c) ++ t ++ d := by simp
  rw [hparts]
  exact ((((skips_spaces ha).append (quotable_of_stringText hkey).skips).append
    ((skips_spaces hb).append ((skips_spaces hc).cons (by decide)))).append ht).append
      (skips_spaces hd)

/-- The scanner passes over every text of the grammar. -/
theorem skips_of_spells {depth : Nat} {p : Part} {t : List Char} (h : Spells depth p t) :
    Skips t := by
  induction h with
  | nullWord | trueWord | falseWord => exact skips_plain (by simp [Plain])
  | number h => exact skips_number h
  | string h => exact (quotable_of_stringText h).skips
  | emptyArray ha =>
    exact ((skips_spaces ha).cons (by decide)).append (.singleton (by decide))
  | array _ ih => exact (ih.cons (by decide)).append (.singleton (by decide))
  | emptyObject ha => exact (skips_spaces ha).braces
  | members _ ih => exact ih.braces
  | object _ ih => exact ih
  | lastItem ha _ hb ih => exact ((skips_spaces ha).append ih).append (skips_spaces hb)
  | item ha _ hb _ ih ihs =>
    exact (((skips_spaces ha).append ih).append (skips_spaces hb)).append (ihs.cons (by decide))
  | lastMember ha hkey hb hc _ hd ih => exact skips_member ha hkey hb hc ih hd
  | member ha hkey hb hc _ hd _ ih ihs =>
    exact (skips_member ha hkey hb hc ih hd).append (ihs.cons (by decide))

/-- The scanner takes an object to its end, wherever it stands behind text without a brace. -/
theorem balanced?_object {depth : Nat} {ms : Option (List (String × Json))} {t : List Char}
    (h : Spells depth (.object ms) t) {a : List Char} (ha : '{' ∉ a) (rest : List Char) :
    balanced? (a ++ t ++ rest) = some t := by
  cases h with
  | emptyObject hs => exact (skips_spaces hs).balanced? ha rest
  | members hs => exact (skips_of_spells hs).balanced? ha rest

/-! ## Code blocks -/

theorem isPrefix_closing? {depth : Nat} {inString escaped : Bool} {s t : List Char}
    (h : closing? depth inString escaped s = some t) : t <+: s := by
  induction s generalizing depth inString escaped t with
  | nil => cases h
  | cons c s ih =>
    have hmap : ∀ {d i e}, (closing? d i e s).map (c :: ·) = some t → t <+: c :: s := by
      intro d i e h
      obtain ⟨t', ht', rfl⟩ := Option.map_eq_some_iff.mp h
      exact List.prefix_cons_inj c |>.mpr (ih ht')
    unfold closing? at h
    split at h
    · exact hmap h
    split at h
    · exact hmap h
    split at h
    · exact hmap h
    split at h
    · exact hmap h
    split at h
    · split at h
      · cases h
        exact List.prefix_append [c] s
      · exact hmap h
    · exact hmap h

theorem isInfix_balanced? {s t : List Char} (h : balanced? s = some t) : t <:+: s :=
  (isPrefix_closing? h).isInfix.trans (List.dropWhile_suffix _).isInfix

/-- The first code block lies behind the first fence. -/
theorem isInfix_codeBlock? {s content : List Char} (h : codeBlock? s = some content) :
    ∃ before opened, s = before ++ fence ++ opened ∧ content <:+: opened := by
  have hafter : ∀ {needle t before after}, Text.splitAtFirst needle t = some (before, after) →
      before <:+: t ∧ after <:+: t := by
    intro needle t before after h
    rw [Text.splitAtFirst_eq_some h]
    exact ⟨⟨[], needle ++ after, by simp⟩, ⟨before ++ needle, [], by simp⟩⟩
  unfold codeBlock? at h
  split at h
  · cases h
  next before opened hsplit =>
  refine ⟨before, opened, Text.splitAtFirst_eq_some hsplit, ?_⟩
  cases h
  refine (Text.isInfix_strip _).trans ?_
  split
  · next hclosed =>
    refine (hafter hclosed).1.trans ?_
    split
    · next hline => exact (hafter hline).2
    · exact List.infix_rfl
  · split
    · next hline => exact (hafter hline).2
    · exact List.infix_rfl

/-- A text without a fence has no code block. -/
theorem codeBlock?_eq_none {s : List Char} (h : ¬fence <:+: s) : codeBlock? s = none := by
  unfold codeBlock?
  rw [Text.splitAtFirst_eq_none h]

/-- What a code block holds has fewer backticks than the text. -/
theorem count_lt_of_block {s o : List Char} (h : (codeBlock? s).bind balanced? = some o) :
    o.count '\x60' < s.count '\x60' := by
  obtain ⟨content, hcontent, ho⟩ := Option.bind_eq_some_iff.mp h
  obtain ⟨before, opened, rfl, hopened⟩ := isInfix_codeBlock? hcontent
  have hle : o.count '\x60' ≤ opened.count '\x60' :=
    ((isInfix_balanced? ho).trans hopened).sublist.count_le '\x60'
  have hfence : fence.count '\x60' = 3 := rfl
  rw [List.count_append, List.count_append, hfence]
  omega

/-! ## Analyses -/

/-- The text that a field of an analysis takes from the value under its key. -/
inductive FieldText : Option Json → Option String → Prop
  | missing : FieldText none none
  | null : FieldText (some .null) none
  | blank {s : String} (h : Text.isBlankText s = true) : FieldText (some (.str s)) none
  | text {s : String} (h : Text.isBlankText s = false) :
      FieldText (some (.str s)) (some (Text.trimmed s))
  | emptyArray : FieldText (some (.arr [])) none
  | emptyObject : FieldText (some (.obj [])) none
  | value {v : Json} (hnull : v ≠ .null) (hstr : ∀ s, v ≠ .str s) (harr : v ≠ .arr [])
      (hobj : v ≠ .obj []) : FieldText (some v) (some v.compact)

/-- The value of a key in members as they are written: the last one. -/
def lastUnder (key : String) (ms : List (String × Json)) : Option Json := ms.reverse.lookup key

/-- An analysis that says what the members of an object say. -/
structure Reports (ms : List (String × Json)) (a : Analysis) : Prop where
  dataEntity : FieldText (lastUnder "data_entity" ms) a.dataEntity
  queryType : FieldText (lastUnder "query_type" ms) a.queryType
  conditions : FieldText (lastUnder "conditions" ms) a.conditions
  aggregations : FieldText (lastUnder "aggregations" ms) a.aggregations
  timeRange : FieldText (lastUnder "time_range" ms) a.timeRange
  outputRequirements : FieldText (lastUnder "output_requirements" ms) a.outputRequirements
  description : FieldText (lastUnder "description" ms) a.description
  fallback : a.fallback = false

theorem isEmpty_trimmed (s : String) : (Text.trimmed s).isEmpty = Text.isBlankText s := by
  rw [Bool.eq_iff_iff, String.isEmpty_iff, ← String.toList_eq_nil_iff, Text.toList_trimmed,
    Text.strip_eq_nil_iff]
  exact List.all_eq_true.symm

theorem fieldText_bind (v : Option Json) : FieldText v (v.bind fieldText?) := by
  cases v with
  | none => exact .missing
  | some v =>
    rw [Option.bind_some]
    unfold fieldText?
    split
    · exact .null
    · next s =>
      dsimp only
      rw [isEmpty_trimmed]
      cases hblank : Text.isBlankText s with
      | true => exact .blank hblank
      | false => exact .text hblank
    · exact .emptyArray
    · exact .emptyObject
    · next hnull hstr harr hobj => exact .value hnull hstr harr hobj

/-- An object takes the last of the values that are written under a key. -/
theorem get?_ofList (key : String) (ms : List (String × Json)) :
    Members.get? key (Members.ofList ms) = lastUnder key ms := by
  induction ms using List.reverseRecOn with
  | nil => rfl
  | append_singleton ms m ih =>
    have hput : Members.ofList (ms ++ [m]) = Members.put m.1 m.2 (Members.ofList ms) := by
      simp [Members.ofList]
    obtain ⟨k, v⟩ := m
    rw [hput, Members.get?_put, ih]
    by_cases hkey : k = key
    · subst hkey
      simp [lastUnder]
    · have hne : (key == k) = false := beq_eq_false_iff_ne.mpr (Ne.symm hkey)
      simp [lastUnder, List.lookup_cons, hkey, hne]

theorem reports_analysisOf (ms : List (String × Json)) :
    Reports ms (analysisOf (Members.ofList ms)) := by
  have hfield : ∀ key, FieldText (lastUnder key ms)
      ((Members.get? key (Members.ofList ms)).bind fieldText?) := by
    intro key
    rw [get?_ofList]
    exact fieldText_bind _
  exact ⟨hfield _, hfield _, hfield _, hfield _, hfield _, hfield _, hfield _, rfl⟩

/-! ## Replies -/

theorem isBlank_of_mem {a : List Char} (ha : ∀ c ∈ a, Text.isBlank c = true) {x : Char}
    (hx : Text.isBlank x = false) : x ∉ a := fun h =>
  Bool.noConfusion ((ha x h).symm.trans hx)

variable {ms : Option (List (String × Json))} {t a b : List Char}

theorem isInfix_fence_of_append {s : List Char} (ha : '\x60' ∉ a) (h : fence <:+: a ++ s) :
    fence <:+: s := by
  induction a with
  | nil => exact h
  | cons c a ih =>
    rcases List.infix_cons_iff.mp h with hprefix | hrest
    · obtain ⟨rest, hrest⟩ := hprefix
      exact absurd (List.cons.inj hrest).1 fun hc => ha (hc ▸ List.mem_cons_self)
    · exact ih (fun h => ha (List.mem_cons_of_mem _ h)) hrest

/-- A fence among blanks and a text lies in the text. -/
theorem isInfix_fence (ha : ∀ c ∈ a, Text.isBlank c = true) (hb : ∀ c ∈ b, Text.isBlank c = true)
    (h : fence <:+: a ++ t ++ b) : fence <:+: t := by
  have hreverse : ∀ s : List Char, fence <:+: s.reverse ↔ fence <:+: s := by
    intro s
    rw [← List.reverse_infix, List.reverse_reverse]
    rfl
  have hfirst : fence <:+: t ++ b :=
    isInfix_fence_of_append (isBlank_of_mem ha (by decide)) (by rwa [List.append_assoc] at h)
  rw [← hreverse, List.reverse_append] at hfirst
  refine (hreverse t).mp (isInfix_fence_of_append ?_ hfirst)
  exact fun hmem => isBlank_of_mem hb (by decide) (List.mem_reverse.mp hmem)

/-- The object of a reply that is nothing but an object is that object, unless the first code block
of the reply holds one of its own. -/
theorem object_eq_ok_iff (h : Spells maxDepth (.object ms) t) (ha : ∀ c ∈ a, Text.isBlank c = true)
    (hb : ∀ c ∈ b, Text.isBlank c = true) :
    object (String.ofList (a ++ t ++ b)) = .ok (String.ofList t) ↔
      (codeBlock? (a ++ t ++ b)).bind balanced? = none := by
  have hwhole : balanced? (a ++ t ++ b) = some t :=
    balanced?_object h (isBlank_of_mem ha (by decide)) b
  unfold object objectChars?
  rw [String.toList_ofList, hwhole]
  cases hblock : (codeBlock? (a ++ t ++ b)).bind balanced? with
  | none => simp
  | some o =>
    -- the block lies behind a fence, so what is found in it has fewer backticks than `t`
    have hcount : (a ++ t ++ b).count '\x60' = t.count '\x60' := by
      rw [List.count_append, List.count_append,
        List.count_eq_zero.mpr (isBlank_of_mem ha (by decide)),
        List.count_eq_zero.mpr (isBlank_of_mem hb (by decide))]
      omega
    have hne : String.ofList o ≠ String.ofList t := by
      intro heq
      obtain rfl := String.ofList_injective heq
      exact absurd (count_lt_of_block hblock) (by omega)
    simp [hne]

/-- What is made of an object once it is found. -/
theorem analysis_eq {reply : String} (h : Spells maxDepth (.object ms) t)
    (hobject : object reply = .ok (String.ofList t)) :
    analysis reply = ms.elim (.error (.unparseable "Failed to parse JSON: malformed object"))
      fun ms => .ok (analysisOf (Members.ofList ms)) := by
  have hparse := parse_eq h.object
  unfold analysis
  rw [hobject]
  dsimp only [bind, Except.bind]
  rw [hparse]
  cases ms <;> rfl

/-- A reply that is one object among blanks is read as that object, unless a fence in one of its
strings opens a block that holds an object of its own.  Then the analysis says what the members
say, or there is none if they stand for nothing. -/
theorem reply_read (h : Spells maxDepth (.object ms) t) (ha : ∀ c ∈ a, Text.isBlank c = true)
    (hb : ∀ c ∈ b, Text.isBlank c = true) :
    (object (String.ofList (a ++ t ++ b)) = .ok (String.ofList t) ↔
      (codeBlock? (a ++ t ++ b)).bind balanced? = none) ∧
    (¬fence <:+: t → (codeBlock? (a ++ t ++ b)).bind balanced? = none) ∧
    ((codeBlock? (a ++ t ++ b)).bind balanced? = none →
      match ms with
      | some ms => ∃ x, analysis (String.ofList (a ++ t ++ b)) = .ok x ∧ Reports ms x
      | none => ∃ fault, analysis (String.ofList (a ++ t ++ b)) = .error fault) := by
  refine ⟨object_eq_ok_iff h ha hb, fun hfence => ?_, fun hblock => ?_⟩
  · rw [codeBlock?_eq_none fun hin => hfence (isInfix_fence ha hb hin)]
    rfl
  · rw [analysis_eq h ((object_eq_ok_iff h ha hb).mpr hblock)]
    cases ms with
    | none => exact ⟨_, rfl⟩
    | some ms => exact ⟨_, rfl, reports_analysisOf ms⟩

/-- A brace in a string does not end the object. -/
theorem reply_read_brace : ∃ x,
    analysis (String.ofList (['\n'] ++ ['{', '"', 'a', '"', ':', '"', '}', '"', '}'] ++ ['\n'])) =
      .ok x ∧ Reports [(String.ofList ['a'], .str (String.ofList ['}']))] x := by
  have hkey : StringText ['a'] (some ['a']) := stringText_plain (by simp)
  have hvalue : StringText ['}'] (some ['}']) := stringText_plain (by simp)
  have hline : ∀ c ∈ ['\n'], Text.isBlank c = true := by simp [Text.isBlank]
  have hread := reply_read (spells_single hkey (.string hvalue)) hline hline
  exact hread.2.2 (hread.2.1 (by decide))

/-- An object with a description that shows another one in a fence. -/
def fencedObject : List Char :=
  '{' :: ('"' :: ['d', 'e', 's', 'c', 'r', 'i', 'p', 't', 'i', 'o', 'n'] ++ '"' :: ':' ::
    ('"' :: ['\x60', '\x60', '\x60', '{', '}', '\x60', '\x60', '\x60'] ++ ['"'])) ++ ['}']

/-- An object with a number that is out of the range of doubles. -/
def hugeObject : List Char :=
  '{' :: ('"' :: ['n'] ++ '"' :: ':' ::
    ['1', 'e', '9', '9', '9', '9', '9', '9', '9', '9', '9', '9']) ++ ['}']

/-- An object with a surrogate that has no partner. -/
def loneObject : List Char :=
  '{' :: ('"' :: ['s'] ++ '"' :: ':' :: ('"' :: ['\\', 'u', 'd', '8', '0', '0'] ++ ['"'])) ++ ['}']

/-- Three objects that are not read for what they are: of one with a fence in a string another
object is taken, and a number or a surrogate that stands for nothing leaves no analysis. -/
theorem objects_misread :
    ((∃ ms, Spells maxDepth (.object (some ms)) fencedObject) ∧
      object (String.ofList fencedObject) = .ok (String.ofList ['{', '}']) ∧
      analysis (String.ofList fencedObject) = .ok .empty) ∧
    ((∃ ms, Spells maxDepth (.object ms) hugeObject) ∧
      ∃ fault, analysis (String.ofList hugeObject) = .error fault) ∧
    (∃ ms, Spells maxDepth (.object ms) loneObject) ∧
      ∃ fault, analysis (String.ofList loneObject) = .error fault := by
  have hfenced : Spells maxDepth (.object _) fencedObject :=
    spells_single (stringText_plain (by simp)) (.string (stringText_plain (by simp)))
  have hempty : Spells maxDepth (.object (some [])) ['{', '}'] :=
    .emptyObject (a := []) fun _ h => absurd h List.not_mem_nil
  have hdigits : NumberText ['1', 'e', '9', '9', '9', '9', '9', '9', '9', '9', '9', '9'] none :=
    .mk false (show WholeText ['1'] from ⟨⟨by simp, by simp [Text.isAsciiDigit]⟩, by simp⟩) .none
      (.some (Or.inl rfl) .none ⟨by simp, by simp [Text.isAsciiDigit]⟩)
  have hhuge : Spells maxDepth (.object none) hugeObject :=
    spells_single (stringText_plain (by simp)) (.number hdigits)
  have hsurrogate : StringText ['\\', 'u', 'd', '8', '0', '0'] none :=
    .lone (n := 0xD800) rfl (Or.inr ⟨rfl, fun ⟨_, _, _, _, _, _, h, _⟩ => nomatch h⟩) .nil
  have hlone : Spells maxDepth (.object none) loneObject :=
    spells_single (stringText_plain (by simp)) (.string hsurrogate)
  have hinner : object (String.ofList fencedObject) = .ok (String.ofList ['{', '}']) := by
    unfold object
    rw [String.toList_ofList]
    rfl
  have hnothing : ∀ {t : List Char}, Spells maxDepth (.object none) t →
      (codeBlock? ([] ++ t ++ [])).bind balanced? = none →
        ∃ fault, analysis (String.ofList t) = .error fault := by
    intro t h hblock
    have hnone : ∀ c ∈ ([] : List Char), Text.isBlank c = true := nofun
    have hobject := (object_eq_ok_iff h hnone hnone).mpr hblock
    rw [List.nil_append, List.append_nil] at hobject
    exact ⟨_, analysis_eq h hobject⟩
  exact ⟨⟨⟨_, hfenced⟩, hinner, analysis_eq hempty hinner⟩,
    ⟨⟨_, hhuge⟩, hnothing hhuge (by decide)⟩, ⟨_, hlone⟩, hnothing hlone (by decide)⟩

end QueryDesk.Reply
