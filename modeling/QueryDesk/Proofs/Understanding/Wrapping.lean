import QueryDesk.Proofs.Understanding.Extraction

/-!
# Wrapped replies

An object among prose, in a fenced block or in a block that breaks off is taken out of its wrapping
as it is (`wrapped_read`).  Of an object between two fences on one line this holds up to the next
newline: behind it the search goes on in what it takes for the block (`inline_read`).
-/

namespace QueryDesk.Reply

open Json

/-! ## Blanks around an object -/

/-- What closes nothing can be left off. -/
theorem closing?_append_of_none {b : List Char}
    (hb : ∀ depth inString escaped, closing? depth inString escaped b = none) (s : List Char)
    (depth : Nat) (inString escaped : Bool) :
    closing? depth inString escaped (s ++ b) = closing? depth inString escaped s := by
  induction s generalizing depth inString escaped with
  | nil => exact hb depth inString escaped
  | cons c s ih => simp only [List.cons_append, closing?, ih]

theorem closing?_of_not_mem {s : List Char} (h : '}' ∉ s) (depth : Nat)
    (inString escaped : Bool) : closing? depth inString escaped s = none := by
  induction s generalizing depth inString escaped with
  | nil => rfl
  | cons c s ih =>
    rw [List.mem_cons, not_or] at h
    simp [closing?, ih h.2, Ne.symm h.1]

theorem balanced?_append_blank (s : List Char) {b : List Char}
    (hb : ∀ c ∈ b, Text.isBlank c = true) : balanced? (s ++ b) = balanced? s := by
  have hnone : ∀ depth inString escaped, closing? depth inString escaped b = none :=
    closing?_of_not_mem (isBlank_of_mem hb (by decide))
  unfold balanced?
  rw [List.dropWhile_append]
  split
  · next hempty =>
    rw [List.isEmpty_iff] at hempty
    rw [hempty, closing?_of_not_mem fun h => isBlank_of_mem hb (by decide)
      ((List.dropWhile_suffix _).subset h)]
    rfl
  · exact closing?_append_of_none hnone _ _ _ _

theorem dropWhile_stripStart (s : List Char) :
    (Text.stripStart s).dropWhile (· ≠ '{') = s.dropWhile (· ≠ '{') := by
  induction s with
  | nil => rfl
  | cons c s ih =>
    by_cases hc : Text.isBlank c = true
    · have hne : c ≠ '{' := by
        rintro rfl
        exact absurd hc (by decide)
      rw [Text.stripStart, List.dropWhile_cons_of_pos hc,
        List.dropWhile_cons_of_pos (by simpa using hne)]
      exact ih
    · rw [Text.stripStart, List.dropWhile_cons_of_neg hc]

/-- Blanks at the ends of a text do not matter to the search for an object. -/
theorem balanced?_strip (s : List Char) : balanced? (Text.strip s) = balanced? s := by
  obtain ⟨b, hb, hend⟩ := Text.exists_stripEnd_append (Text.stripStart s)
  calc balanced? (Text.strip s)
      = balanced? (Text.stripEnd (Text.stripStart s) ++ b) := (balanced?_append_blank _ hb).symm
    _ = balanced? (Text.stripStart s) := by rw [← hend]
    _ = balanced? s := by rw [balanced?, dropWhile_stripStart, balanced?]

/-! ## Code blocks -/

/-- The text behind the first newline, or all of it. -/
def pastLine (s : List Char) : List Char :=
  (Text.splitAtFirst ['\n'] s).elim s Prod.snd

/-- The text up to the first fence, or all of it. -/
def upToFence (s : List Char) : List Char :=
  (Text.splitAtFirst fence s).elim s Prod.fst

theorem pastLine_append {a : List Char} (ha : '\n' ∉ a) (b : List Char) :
    pastLine (a ++ '\n' :: b) = b := by
  have hcut : ¬['\n'] <:+: a ++ ['\n'].dropLast := fun h =>
    ha (by simpa using h.subset List.mem_cons_self)
  have hsplit := Text.splitAtFirst_append hcut b
  rw [List.append_assoc, List.singleton_append] at hsplit
  rw [pastLine, hsplit]
  rfl

theorem pastLine_append_of_mem {a b : List Char} (ha : '\n' ∉ a) (hb : '\n' ∈ b) :
    pastLine (a ++ b) = pastLine b := by
  obtain ⟨line, rest, rfl, hline⟩ := List.eq_append_cons_of_mem hb
  have hboth : '\n' ∉ a ++ line := fun h => (List.mem_append.mp h).elim ha hline
  rw [← List.append_assoc, pastLine_append hboth, pastLine_append hline]

theorem pastLine_of_not_mem {s : List Char} (h : '\n' ∉ s) : pastLine s = s := by
  rw [pastLine, Text.splitAtFirst_eq_none fun hin => h (hin.subset List.mem_cons_self)]
  rfl

theorem upToFence_append {a : List Char} (ha : ¬fence <:+: a ++ fence.dropLast)
    (b : List Char) : upToFence (a ++ fence ++ b) = a := by
  rw [upToFence, Text.splitAtFirst_append ha]
  rfl

theorem upToFence_eq_self {s : List Char} (h : ¬fence <:+: s) : upToFence s = s := by
  rw [upToFence, Text.splitAtFirst_eq_none h]
  rfl

theorem codeBlock?_eq {s before opened : List Char}
    (h : Text.splitAtFirst fence s = some (before, opened)) :
    codeBlock? s = some (Text.strip (upToFence (pastLine opened))) := by
  unfold codeBlock?
  rw [h]
  simp only [upToFence, pastLine]
  cases Text.splitAtFirst ['\n'] opened with
  | none =>
    rw [Option.elim_none]
    cases Text.splitAtFirst fence opened <;> rfl
  | some parts =>
    rw [Option.elim_some]
    cases Text.splitAtFirst fence parts.2 <;> rfl

/-- A fence is too long for the two backticks that may stand in front of one. -/
theorem not_infix_fence_dropLast : ¬fence <:+: fence.dropLast := fun h =>
  absurd h.length_le (by decide)

theorem not_infix_fence_cut {a : List Char} (ha : '\x60' ∉ a) :
    ¬fence <:+: a ++ fence.dropLast := fun hin =>
  not_infix_fence_dropLast (isInfix_fence_of_append ha hin)

/-- No fence runs over another character. -/
theorem not_infix_fence_append_cons {a b : List Char} {c : Char} (hc : c ≠ '\x60')
    (ha : ¬fence <:+: a) (hb : ¬fence <:+: b) : ¬fence <:+: a ++ c :: b := by
  have hmem : c ∉ fence := fun h => hc (List.eq_of_mem_replicate h)
  intro hin
  rcases Text.infix_of_infix_append_cons hmem hin with hin | hin
  · exact ha hin
  · exact hb hin

/-- The first fence of a text may start earlier than one that was put there, but then there are only
backticks between the two. -/
theorem splitAtFirst_fence {a : List Char} (ha : ¬fence <:+: a) (opened : List Char) :
    ∃ before ticks, (∀ c ∈ ticks, c = '\x60') ∧
      Text.splitAtFirst fence (a ++ fence ++ opened) = some (before, ticks ++ opened) := by
  induction a using List.reverseRecOn generalizing opened with
  | nil => exact ⟨[], [], nofun, rfl⟩
  | append_singleton a c ih =>
    have hfront : ¬fence <:+: a := fun h => ha (h.trans (List.prefix_append a [c]).isInfix)
    -- a backtick in front of the fence is as good as its first one, which is then left behind it
    by_cases hc : c = '\x60'
    · subst hc
      obtain ⟨before, ticks, hticks, hsplit⟩ := ih hfront ('\x60' :: opened)
      refine ⟨before, ticks ++ ['\x60'], fun c hmem => ?_, ?_⟩
      · rcases List.mem_append.mp hmem with hmem | hmem
        · exact hticks c hmem
        · exact List.mem_singleton.mp hmem
      · rw [List.append_assoc ticks, List.singleton_append, ← hsplit]
        simp [fence]
    · refine ⟨a ++ [c], [], nofun, Text.splitAtFirst_append ?_ opened⟩
      rw [List.append_assoc, List.singleton_append]
      exact not_infix_fence_append_cons hc hfront not_infix_fence_dropLast

variable {depth : Nat} {ms : Option (List (String × Json))} {t : List Char}

/-- A block that is opened on a line of its own starts behind that line. -/
theorem codeBlock?_opened {before tag : List Char} (hbefore : ¬fence <:+: before)
    (htag : '\n' ∉ tag) (body : List Char) :
    codeBlock? (before ++ fence ++ tag ++ '\n' :: body) =
      some (Text.strip (upToFence body)) := by
  obtain ⟨front, ticks, hticks, hsplit⟩ := splitAtFirst_fence hbefore (tag ++ '\n' :: body)
  have hline : '\n' ∉ ticks ++ tag := by
    intro h
    rcases List.mem_append.mp h with h | h
    · exact absurd (hticks _ h) (by decide)
    · exact htag h
  rw [← List.append_assoc] at hsplit
  rw [codeBlock?_eq hsplit, ← List.append_assoc, pastLine_append hline]

/-! ## Objects in their wrapping -/

/-- A reply of which a text is taken, as if it were the whole reply. -/
structure Unwraps (s t : List Char) : Prop where
  object : object (String.ofList s) = .ok (String.ofList t)
  analysis : analysis (String.ofList s) = analysis (String.ofList t)

/-- The fault of a reply in which no object is found tells how long the reply is. -/
theorem object_ofList (s : List Char) : object (String.ofList s) =
    (objectChars? s).elim (.error (.unparseable ("No JSON object found in response (length: " ++
      toString (String.ofList s).utf8ByteSize ++ ")"))) fun o => .ok (String.ofList o) := by
  rw [object, String.toList_ofList]
  cases objectChars? s <;> rfl

theorem object_ofList_iff {s : List Char} :
    object (String.ofList s) = .ok (String.ofList t) ↔ objectChars? s = some t := by
  rw [object_ofList]
  cases objectChars? s with
  | none => simp
  | some o => simp [String.ofList_inj]

/-- What is in the first block is taken before anything else. -/
theorem objectChars?_of_block {s block : List Char}
    (hblock : codeBlock? s = some (Text.strip block)) :
    objectChars? s = (balanced? block <|> balanced? s) := by
  rw [objectChars?, hblock, Option.bind_some, balanced?_strip]

/-- An object behind text without a brace is taken if there is no fence. -/
theorem objectChars?_bare (h : Spells depth (.object ms) t) {before after : List Char}
    (hbefore : '{' ∉ before) (hfence : ¬fence <:+: before ++ t ++ after) :
    objectChars? (before ++ t ++ after) = some t := by
  rw [objectChars?, codeBlock?_eq_none hfence, balanced?_object h hbefore]
  rfl

/-- A reply of which an object is taken that holds no fence is read like the object. -/
theorem unwraps_of_objectChars? (h : Spells depth (.object ms) t) (hfence : ¬fence <:+: t)
    {s : List Char} (hs : objectChars? s = some t) : Unwraps s t := by
  have hbare : objectChars? t = some t := by
    have hwhole : objectChars? ([] ++ t ++ []) = some t :=
      objectChars?_bare h nofun (by rwa [List.nil_append, List.append_nil])
    rwa [List.nil_append, List.append_nil] at hwhole
  refine ⟨object_ofList_iff.mpr hs, ?_⟩
  rw [analysis, object_ofList_iff.mpr hs, analysis, object_ofList_iff.mpr hbare]

/-- The body of a block that starts with an object gives the object. -/
theorem unwraps_of_body (h : Spells depth (.object ms) t) (hfence : ¬fence <:+: t)
    {before tag body rest : List Char} (hbefore : ¬fence <:+: before) (htag : '\n' ∉ tag)
    (hbody : upToFence body = t ++ rest) :
    Unwraps (before ++ fence ++ tag ++ '\n' :: body) t := by
  have hobject : balanced? (t ++ rest) = some t := balanced?_object h (a := []) nofun rest
  refine unwraps_of_objectChars? h hfence ?_
  rw [objectChars?_of_block (codeBlock?_opened hbefore htag body), hbody, hobject]
  rfl

/-- An object without a fence is taken out of its wrapping as it is, and read like it: out of prose
that opens no brace before it, out of a fenced block whatever surrounds it, and out of a block that
is not closed. -/
theorem wrapped_read (h : Spells depth (.object ms) t) (hfence : ¬fence <:+: t) :
    (∀ before after, '{' ∉ before → ¬fence <:+: before ++ t ++ after →
      Unwraps (before ++ t ++ after) t) ∧
    (∀ before tag after, ¬fence <:+: before → '\n' ∉ tag →
      Unwraps (before ++ fence ++ tag ++ '\n' :: (t ++ '\n' :: (fence ++ after))) t) ∧
    (∀ before tag after, ¬fence <:+: before → '\n' ∉ tag → ¬fence <:+: after →
      Unwraps (before ++ fence ++ tag ++ '\n' :: (t ++ '\n' :: after)) t) := by
  have hnewline : '\n' ≠ '\x60' := by decide
  refine ⟨fun before after hbefore hnone => ?_, fun before tag after hbefore htag => ?_,
    fun before tag after hbefore htag hafter => ?_⟩
  · exact unwraps_of_objectChars? h hfence (objectChars?_bare h hbefore hnone)
  · have hcut : ¬fence <:+: t ++ ['\n'] ++ fence.dropLast := by
      rw [List.append_assoc, List.singleton_append]
      exact not_infix_fence_append_cons hnewline hfence not_infix_fence_dropLast
    have hbody : upToFence (t ++ '\n' :: (fence ++ after)) = t ++ ['\n'] := by
      rw [← upToFence_append hcut after]
      simp
    exact unwraps_of_body h hfence hbefore htag hbody
  · have hbody : upToFence (t ++ '\n' :: after) = t ++ '\n' :: after :=
      upToFence_eq_self (not_infix_fence_append_cons hnewline hfence hafter)
    exact unwraps_of_body h hfence hbefore htag hbody

/-- `{"a":"}"}` -/
def braceObject : List Char :=
  '{' :: ('"' :: ['a'] ++ '"' :: ':' :: ('"' :: ['}'] ++ ['"'])) ++ ['}']

theorem spells_braceObject : ∃ ms, Spells maxDepth (.object (some ms)) braceObject :=
  ⟨_, spells_single (stringText_plain (by simp)) (.string (stringText_plain (by simp)))⟩

/-- An object is found behind a backtick and an open brace, and in front of other fences. -/
theorem wrapped_read_brace :
    Unwraps (['a', ' '] ++ braceObject ++ [' ', '{']) braceObject ∧
    Unwraps (['{', '\x60'] ++ fence ++ ['\x60', '{', '}'] ++ '\n' ::
      (braceObject ++ '\n' :: (fence ++ (['{', '}'] ++ fence)))) braceObject ∧
    Unwraps (['{', '\x60'] ++ fence ++ ['}'] ++ '\n' :: (braceObject ++ '\n' :: ['{']))
      braceObject := by
  obtain ⟨ms, hobject⟩ := spells_braceObject
  obtain ⟨hprose, hclosed, hopen⟩ := wrapped_read hobject (by decide)
  exact ⟨hprose _ _ (by decide) (by decide), hclosed _ _ _ (by decide) (by decide),
    hopen _ _ _ (by decide) (by decide) (by decide)⟩

/-! ## Fences on one line -/

/-- An object between two fences on one line is what the reply holds if that is the last line.
Otherwise the text behind that line, up to the next fence, is taken for the block, and the whole
reply is searched if there is no object in it. -/
theorem inline_read (h : Spells depth (.object ms) t) {before tag : List Char}
    (hbefore : '\x60' ∉ before) (htag : '\x60' ∉ tag) (hbrace : '{' ∉ tag) (hline : '\n' ∉ tag)
    (ht : '\x60' ∉ t) (hone : '\n' ∉ t) (after : List Char) :
    ('\n' ∉ after → object (String.ofList (before ++ fence ++ (tag ++ t ++ fence ++ after))) =
      .ok (String.ofList t)) ∧
    ('\n' ∈ after → ∀ o,
      object (String.ofList (before ++ fence ++ (tag ++ t ++ fence ++ after))) =
          .ok (String.ofList o) ↔
        (balanced? (upToFence (pastLine after)) <|>
          balanced? (before ++ fence ++ (tag ++ t ++ fence ++ after))) = some o) ∧
    ('{' ∉ before → balanced? (before ++ fence ++ (tag ++ t ++ fence ++ after)) = some t) := by
  have hblock := codeBlock?_eq (Text.splitAtFirst_append (not_infix_fence_cut hbefore)
    (tag ++ t ++ fence ++ after))
  have hshort : '\n' ∉ tag ++ t ++ fence := by
    simp only [List.mem_append, not_or]
    exact ⟨⟨hline, hone⟩, by decide⟩
  refine ⟨fun hafter => ?_, fun hafter o => ?_, fun hopen => ?_⟩
  · have hall : '\n' ∉ tag ++ t ++ fence ++ after := fun hin =>
      (List.mem_append.mp hin).elim hshort hafter
    have hticks : '\x60' ∉ tag ++ t := fun hin => (List.mem_append.mp hin).elim htag ht
    have hobject := balanced?_object h hbrace []
    rw [List.append_nil] at hobject
    rw [object_ofList_iff, objectChars?_of_block hblock, pastLine_of_not_mem hall,
      upToFence_append (not_infix_fence_cut hticks), hobject]
    rfl
  · rw [object_ofList_iff, objectChars?_of_block hblock, pastLine_append_of_mem hshort hafter]
  · have hfront : '{' ∉ before ++ fence ++ tag := by
      simp only [List.mem_append, not_or]
      exact ⟨⟨hopen, by decide⟩, hbrace⟩
    have hobject := balanced?_object h hfront (fence ++ after)
    rwa [show before ++ fence ++ tag ++ t ++ (fence ++ after) =
      before ++ fence ++ (tag ++ t ++ fence ++ after) by simp] at hobject

/-- An object on the last line is found whatever stands before and behind it. -/
theorem inline_read_last : object (String.ofList (['{'] ++ fence ++
      (['j', 's', 'o', 'n'] ++ braceObject ++ fence ++ (['{', '}'] ++ fence)))) =
    .ok (String.ofList braceObject) := by
  obtain ⟨ms, hobject⟩ := spells_braceObject
  exact (inline_read hobject (by decide) (by decide) (by decide) (by decide) (by decide)
    (by decide) _).1 (by decide)

/-- An object between fences on one line gives way to one that follows on the next line. -/
theorem inline_object_passed_over :
    (∃ ms, Spells maxDepth (.object (some ms)) braceObject) ∧
    '\x60' ∉ braceObject ∧ '\n' ∉ braceObject ∧
    object (String.ofList ([] ++ fence ++ ([] ++ braceObject ++ fence ++ ['\n', '{', 'n', '}']))) =
      .ok (String.ofList ['{', 'n', '}']) ∧
    String.ofList ['{', 'n', '}'] ≠ String.ofList braceObject := by
  refine ⟨spells_braceObject, by decide, by decide, ?_, ?_⟩
  · rw [object_ofList_iff]
    rfl
  · exact fun heq => absurd (String.ofList_injective heq) (by decide)

end QueryDesk.Reply
