import QueryDesk.Proofs.Understanding.Wrapping

/-!
# Nested braces

What the search for an object finds, said without a scanner: the first brace of a text with what
nests in it, up to its partner (`balanced?_eq_some_iff`).  The scanner is shown to accept nothing
else by following it through its states.  So no object is found exactly if the first brace of the
reply, and that of its first code block, has no partner (`object_missed_iff`).
-/

namespace QueryDesk.Reply

open Json

/-! ## Texts with partners -/

/-- A text in which every quote, and every brace that is not quoted, has its partner; a backslash
hides the character behind it, quoted or not. -/
inductive Nested : List Char → Prop
  | nil : Nested []
  | plain {c : Char} {t : List Char} (hc : Plain c) (h : Nested t) : Nested (c :: t)
  | escape {c : Char} {t : List Char} (h : Nested t) : Nested ('\\' :: c :: t)
  | quotes {raw t : List Char} (hraw : Quotable raw) (h : Nested t) :
      Nested ('"' :: raw ++ '"' :: t)
  | braces {s t : List Char} (hs : Nested s) (h : Nested t) : Nested ('{' :: s ++ '}' :: t)

/-- The first brace of the text has a partner, and these are the two with what stands between
them. -/
def FirstBraces (s o : List Char) : Prop :=
  ∃ before inner after, s = before ++ o ++ after ∧ '{' ∉ before ∧ Nested inner ∧
    o = '{' :: inner ++ ['}']

/-! ## Nested texts are scanned -/

theorem skips_of_nested {t : List Char} (h : Nested t) : Skips t := by
  induction h with
  | nil => exact .nil
  | plain hc _ ih => exact ih.cons hc
  | @escape c t _ ih =>
    have hpair : Skips ['\\', c] := fun depth rest => closing?_escape (depth + 1) false c rest
    exact hpair.append ih
  | @quotes raw t hraw _ ih => simpa using hraw.skips.append ih
  | @braces s t _ _ ihs ih => simpa using ihs.braces.append ih

/-! ## Scanned texts are nested -/

/-- Nested texts with the closing braces of a number of open ones, the last brace at the end. -/
inductive Closes : Nat → List Char → Prop
  | done : Closes 0 []
  | brace {depth : Nat} {inner rest : List Char} (h : Nested inner) (hrest : Closes depth rest) :
      Closes (depth + 1) (inner ++ '}' :: rest)

namespace Closes

variable {depth : Nat} {t : List Char}

/-- A nested text may stand in front of the first brace. -/
theorem prepend {s : List Char} (hs : ∀ {inner}, Nested inner → Nested (s ++ inner))
    (h : Closes (depth + 1) t) : Closes (depth + 1) (s ++ t) := by
  cases h with
  | brace hinner hrest =>
    rw [← List.append_assoc]
    exact .brace (hs hinner) hrest

/-- The first of the closing braces may be the partner of one more brace. -/
theorem opening (h : Closes (depth + 2) t) : Closes (depth + 1) ('{' :: t) := by
  cases h with
  | @brace _ inner rest hinner hrest =>
    have hbraces := hrest.prepend (s := '{' :: inner ++ ['}']) fun hnext => by
      simpa using hinner.braces hnext
    simpa using hbraces

end Closes

/-- What is left of a text whose end the scanner sees from one of its states. -/
inductive Ends (depth : Nat) : Bool → Bool → List Char → Prop
  | outside {t : List Char} (h : Closes (depth + 1) t) : Ends depth false false t
  | inside {raw t : List Char} (hraw : Quotable raw) (h : Closes (depth + 1) t) :
      Ends depth true false (raw ++ '"' :: t)
  | hidden {c : Char} {t : List Char} {inString : Bool} (h : Ends depth inString false t) :
      Ends depth inString true (c :: t)

namespace Ends

variable {depth : Nat} {inString : Bool} {t : List Char}

theorem backslash (h : Ends depth inString true t) : Ends depth inString false ('\\' :: t) := by
  cases h with
  | hidden h =>
    cases h with
    | outside h => exact .outside (h.prepend (s := ['\\', _]) .escape)
    | inside hraw h => exact .inside hraw.escape h

theorem quote (h : Ends depth (!inString) false t) : Ends depth inString false ('"' :: t) := by
  cases inString with
  | false =>
    cases h with
    | @inside raw rest hraw h =>
      refine .outside ?_
      have hquotes := h.prepend (s := '"' :: raw ++ ['"']) fun hinner => by
        simpa using Nested.quotes hraw hinner
      simpa using hquotes
  | true =>
    cases h with
    | outside h => exact .inside .nil h

theorem char {c : Char} (hbackslash : c ≠ '\\') (hquote : c ≠ '"')
    (hopen : ¬(c = '{' ∧ ¬inString)) (hclose : ¬(c = '}' ∧ ¬inString))
    (h : Ends depth inString false t) : Ends depth inString false (c :: t) := by
  cases h with
  | outside h =>
    have hplain : Plain c := ⟨hbackslash, hquote, by simpa using hopen, by simpa using hclose⟩
    exact .outside (h.prepend (s := [c]) (.plain hplain))
  | inside hraw h => exact .inside (hraw.char hquote hbackslash) h

end Ends

/-- The scanner ends a text only where its braces and quotes have their partners. -/
theorem ends_of_closing? {depth : Nat} {inString escaped : Bool} {s t : List Char}
    (h : closing? (depth + 1) inString escaped s = some t) : Ends depth inString escaped t := by
  induction s generalizing depth inString escaped t with
  | nil => cases h
  | cons c s ih =>
    -- the cases are those of the scanner, in its order
    unfold closing? at h
    split at h
    · next hescaped =>
      obtain ⟨t, ht, rfl⟩ := Option.map_eq_some_iff.mp h
      rw [hescaped]
      exact .hidden (ih ht)
    next hescaped =>
    rw [Bool.not_eq_true] at hescaped
    subst hescaped
    split at h
    · next hc =>
      obtain ⟨t, ht, rfl⟩ := Option.map_eq_some_iff.mp h
      exact hc ▸ (ih ht).backslash
    next hbackslash =>
    split at h
    · next hc =>
      obtain ⟨t, ht, rfl⟩ := Option.map_eq_some_iff.mp h
      exact hc ▸ (ih ht).quote
    next hquote =>
    split at h
    · next hc =>
      obtain ⟨rfl, hin⟩ := hc
      obtain ⟨t, ht, rfl⟩ := Option.map_eq_some_iff.mp h
      rw [Bool.not_eq_true] at hin
      subst hin
      cases ih ht with
      | outside h => exact .outside h.opening
    next hopen =>
    split at h
    · next hc =>
      obtain ⟨rfl, hin⟩ := hc
      rw [Bool.not_eq_true] at hin
      subst hin
      split at h
      · next hlast =>
        obtain rfl : depth = 0 := by omega
        cases h
        exact .outside (.brace .nil .done)
      · next hmore =>
        obtain ⟨t, ht, rfl⟩ := Option.map_eq_some_iff.mp h
        cases depth with
        | zero => exact absurd rfl hmore
        | succ depth =>
          have hrest : Ends depth false false t := ih ht
          cases hrest with
          | outside h => exact .outside (.brace .nil h)
    next hclose =>
    obtain ⟨t, ht, rfl⟩ := Option.map_eq_some_iff.mp h
    exact (ih ht).char hbackslash hquote hopen hclose

/-- The search for an object finds the first brace with its partner, and nothing else. -/
theorem balanced?_eq_some_iff {s o : List Char} : balanced? s = some o ↔ FirstBraces s o := by
  constructor
  · intro h
    have hsplit := List.takeWhile_append_dropWhile (p := (· ≠ '{')) (l := s)
    have hfront : '{' ∉ s.takeWhile (· ≠ '{') := fun hin => by
      simpa using List.mem_takeWhile_imp hin
    rw [balanced?] at h
    cases hrest : s.dropWhile (· ≠ '{') with
    | nil =>
      rw [hrest] at h
      cases h
    | cons c rest =>
      obtain rfl : c = '{' := by
        have hhead := List.head?_dropWhile_not (· ≠ '{') s
        rw [hrest] at hhead
        simpa using hhead
      rw [hrest] at h hsplit
      have hopen : closing? 0 false false ('{' :: rest) =
          (closing? 1 false false rest).map ('{' :: ·) := by
        simp [closing?]
      rw [hopen] at h
      obtain ⟨t, ht, rfl⟩ := Option.map_eq_some_iff.mp h
      obtain ⟨after, rfl⟩ := isPrefix_closing? ht
      cases ends_of_closing? ht with
      | outside h =>
        cases h with
        | @brace _ inner _ hinner hdone =>
          cases hdone
          exact ⟨_, inner, after, by simpa using hsplit.symm, hfront, hinner, rfl⟩
  · rintro ⟨before, inner, after, rfl, hbefore, hinner, rfl⟩
    exact (skips_of_nested hinner).balanced? hbefore after

/-! ## Replies without an object -/

theorem objectChars?_eq_none_iff {s : List Char} : objectChars? s = none ↔
    ∀ u, u = s ∨ codeBlock? s = some u → ∀ o, ¬FirstBraces u o := by
  simp only [← balanced?_eq_some_iff, ← Option.eq_none_iff_forall_ne_some, objectChars?,
    Option.orElse_eq_orElse, Option.orElse_eq_or, Option.or_eq_none_iff, Option.bind_eq_none_iff]
  constructor
  · rintro ⟨hblock, hwhole⟩ u (rfl | hu)
    · exact hwhole
    · exact hblock u hu
  · intro h
    exact ⟨fun u hu => h u (Or.inr hu), h s (Or.inl rfl)⟩

/-- No object is found in a reply exactly if the first brace of the reply has no partner, and that
of its first code block has none either; there is one fault for that.  So an object is missed only
behind another brace. -/
theorem object_missed_iff (s : List Char) :
    ((∃ fault, object (String.ofList s) = .error fault) ↔
      ∀ u, u = s ∨ codeBlock? s = some u → ∀ o, ¬FirstBraces u o) ∧
    (∀ fault, object (String.ofList s) = .error fault →
      fault = .unparseable ("No JSON object found in response (length: " ++
        toString (String.ofList s).utf8ByteSize ++ ")")) ∧
    ∀ depth ms before t after, Spells depth (.object ms) t → s = before ++ t ++ after →
      '{' ∉ before → ∃ o, object (String.ofList s) = .ok (String.ofList o) := by
  rw [← objectChars?_eq_none_iff, object_ofList]
  cases hfound : objectChars? s with
  | none =>
    refine ⟨by simp, fun fault h => (Except.error.inj h).symm,
      fun depth ms before t after h hs hbefore => ?_⟩
    have hwhole : balanced? s = some t := hs ▸ balanced?_object h hbefore after
    exact absurd (balanced?_eq_some_iff.mp hwhole)
      (objectChars?_eq_none_iff.mp hfound s (Or.inl rfl) t)
  | some o =>
    refine ⟨by simp, fun fault h => ?_, fun _ _ _ _ _ _ _ _ => ⟨o, rfl⟩⟩
    cases h

/-- A brace that is left open behind the object does not hide it. -/
theorem object_missed_iff_front : ∃ o,
    object (String.ofList (['\x60', ' '] ++ braceObject ++ ['{'])) = .ok (String.ofList o) := by
  obtain ⟨ms, hobject⟩ := spells_braceObject
  exact (object_missed_iff _).2.2 _ _ _ _ _ hobject rfl (by decide)

/-- An object behind a brace that is left open is missed. -/
theorem object_missed :
    (∃ ms, Spells maxDepth (.object (some ms)) braceObject) ∧
      ∃ fault, object (String.ofList (['{', ' '] ++ braceObject)) = .error fault := by
  have hnone : objectChars? (['{', ' '] ++ braceObject) = none := rfl
  rw [object_ofList, hnone]
  exact ⟨spells_braceObject, _, rfl⟩

end QueryDesk.Reply
