import QueryDesk.Text.Case
import QueryDesk.Text.Search

/-!
# Lower case and ASCII words

The letters `A` to `Z` have the same lower form by the rules of Unicode as by those of ASCII.  Of
the characters outside ASCII only the Kelvin sign has a lower form inside it, the letter `k`
(`exists_mem_lowerChar`), so a word of ASCII without a `k` is the lower form of exactly the texts
that differ from it in the case of the letters `A` to `Z` (`lower_eq_iff`).
-/

namespace QueryDesk.Text

/-! ## ASCII characters -/

theorem asciiLower_eq (c : Char) :
    asciiLower c = if 0x41 ≤ c.toNat ∧ c.toNat ≤ 0x5A then Char.ofNat (c.toNat + 32) else c := rfl

theorem asciiLower_of_not_ascii {c : Char} (h : 0x80 ≤ c.toNat) : asciiLower c = c := by
  rw [asciiLower_eq, if_neg (by omega)]

theorem lowerChar_of_ascii {c : Char} (h : c.toNat < 0x80) : lowerChar c = [asciiLower c] := by
  rw [lowerChar, if_pos h, asciiLower_eq]
  split <;> rfl

/-! ## Characters outside ASCII -/

/-- The shifts of characters outside ASCII lead to characters outside it, the one of the Kelvin sign
apart. -/
theorem lowerShifts_kept : ∀ r ∈ lowerShifts, r.last < 0x80 ∨
    r.first = 0x212A ∧ r.last = 0x212A ∧ r.shift = -8383 ∨
    0x80 ≤ r.first + r.shift ∧ (r.last + r.shift < 0xD800 ∨
      0xE000 ≤ r.first + r.shift ∧ r.last + r.shift < 0x110000) := by
  decide +kernel

theorem toNat_ofNat {n : Nat} (h : n.isValidChar) : (Char.ofNat n).toNat = n := by
  rw [Char.ofNat, dif_pos h]
  rfl

theorem toNat_shifted {c : Char} (hc : 0x80 ≤ c.toNat) {n : Nat}
    (h : shifted? lowerShifts c.toNat = some n) :
    0x80 ≤ (Char.ofNat n).toNat ∨ c.toNat = 0x212A ∧ n = 'k'.toNat := by
  obtain ⟨r, hfind, rfl⟩ := Option.map_eq_some_iff.mp h
  have happlies := List.find?_some hfind
  simp only [CaseShift.applies, Bool.and_eq_true, decide_eq_true_eq] at happlies
  obtain ⟨⟨hfirst, hlast⟩, -⟩ := happlies
  rcases lowerShifts_kept r (List.mem_of_find?_eq_some hfind) with hascii | hkelvin | ⟨hlow, hvalid⟩
  · omega
  · have hk : 'k'.toNat = 107 := rfl
    exact Or.inr ⟨by omega, by omega⟩
  · have hscalar : (((c.toNat : Int) + r.shift).toNat).isValidChar := by
      rcases hvalid with hvalid | ⟨habove, hvalid⟩
      · exact Or.inl (by omega)
      · exact Or.inr ⟨by omega, by omega⟩
    rw [toNat_ofNat hscalar]
    exact Or.inl (by omega)

/-- The lower form of a character outside ASCII is not all ASCII, but for the letter `k`, which is
that of the Kelvin sign. -/
theorem exists_mem_lowerChar {c : Char} (hc : 0x80 ≤ c.toNat) :
    ∃ d ∈ lowerChar c, 0x80 ≤ d.toNat ∨ d = 'k' := by
  rw [lowerChar, if_neg (by omega)]
  split
  · -- the dotted capital I: its lower form is an `i`, but with a combining dot after it
    exact ⟨'\u0307', by decide, Or.inl (by decide)⟩
  · split
    · next n hn =>
      refine ⟨Char.ofNat n, List.mem_singleton_self _, (toNat_shifted hc hn).imp_right ?_⟩
      rintro ⟨-, rfl⟩
      exact Char.ofNat_toNat 'k'
    · exact ⟨c, List.mem_singleton_self c, Or.inl hc⟩

/-! ## Words -/

/-- A text of ASCII characters only. -/
def IsAscii (s : List Char) : Prop := ∀ c ∈ s, c.toNat < 0x80

instance (s : List Char) : Decidable (IsAscii s) :=
  List.decidableBAll (fun c : Char => c.toNat < 0x80) s

theorem lowerFrom_of_isAscii {s : List Char} (h : IsAscii s) (before : List Char) :
    lowerFrom before s = s.map asciiLower := by
  induction s generalizing before with
  | nil => rfl
  | cons c s ih =>
    have hc : c.toNat < 0x80 := h c List.mem_cons_self
    have hsigma : c ≠ 'Σ' := by
      rintro rfl
      exact absurd hc (by decide)
    rw [lowerFrom, if_neg hsigma, lowerChar_of_ascii hc, ih (List.forall_mem_cons.mp h).2]
    rfl

/-- A text whose lower form is a word of ASCII without a `k` is one of ASCII itself. -/
theorem isAscii_of_lowerFrom {s before : List Char} (h : IsAscii (lowerFrom before s))
    (hk : 'k' ∉ lowerFrom before s) : IsAscii s := by
  induction s generalizing before with
  | nil => exact fun c hc => absurd hc List.not_mem_nil
  | cons c s ih =>
    rw [lowerFrom] at h hk
    have hrest : IsAscii s := by
      refine ih (fun d hd => h d (List.mem_append_right _ hd)) fun hmem => ?_
      exact hk (List.mem_append_right _ hmem)
    have hc : c.toNat < 0x80 := by
      refine Nat.lt_of_not_le fun hge => ?_
      obtain ⟨d, hd, hout⟩ : ∃ d ∈ (if c = 'Σ' then [lowerSigma before s] else lowerChar c),
          0x80 ≤ d.toNat ∨ d = 'k' := by
        split
        · refine ⟨_, List.mem_singleton_self _, Or.inl ?_⟩
          unfold lowerSigma
          split <;> decide
        · exact exists_mem_lowerChar hge
      rcases hout with hout | rfl
      · exact absurd (h d (List.mem_append_left _ hd)) (by omega)
      · exact hk (List.mem_append_left _ hd)
    exact List.forall_mem_cons.mpr ⟨hc, hrest⟩

theorem isAscii_of_map_asciiLower {s : List Char} (h : IsAscii (s.map asciiLower)) : IsAscii s := by
  intro c hc
  refine Nat.lt_of_not_le fun hge => ?_
  have hlower := h (asciiLower c) (List.mem_map_of_mem hc)
  rw [asciiLower_of_not_ascii hge] at hlower
  omega

theorem toList_lower (s : String) : (lower s).toList = lowerFrom [] s.toList := by
  rw [lower, String.toList_ofList]

/-- A word of ASCII is the lower form of a text that differs from it in ASCII case. -/
theorem lower_of_map_asciiLower {s word : String} (hword : IsAscii word.toList)
    (h : s.toList.map asciiLower = word.toList) : lower s = word := by
  rw [← String.toList_inj, toList_lower, ← h]
  exact lowerFrom_of_isAscii (isAscii_of_map_asciiLower (h ▸ hword)) []

/-- A word of ASCII without a `k` is the lower form of no other text. -/
theorem lower_eq_iff {s word : String} (hword : IsAscii word.toList) (hk : 'k' ∉ word.toList) :
    lower s = word ↔ s.toList.map asciiLower = word.toList := by
  refine ⟨fun h => ?_, lower_of_map_asciiLower hword⟩
  have hlower : lowerFrom [] s.toList = word.toList := by rw [← toList_lower, h]
  have hascii : IsAscii s.toList := isAscii_of_lowerFrom (hlower ▸ hword) (hlower ▸ hk)
  rw [← hlower, lowerFrom_of_isAscii hascii]

end QueryDesk.Text
