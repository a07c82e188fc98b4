import QueryDesk.Json.Decode

/-!
# Records read back

What the decoding rules make of a record as it is written: an object whose members are the fields in
order.  The slots of such an object are found one by one: a written field in its own slot
(`slots?_cons`), a field that was left out in none (`slots?_skip`), and a member that is no field is
passed over (`slots?_pass`).  So a record reads back as soon as each of its fields does, and `simp`
puts a record together from the lemmas of this module.
-/

namespace QueryDesk.Json

variable {α β V : Type}

/-! ## Slots -/

theorem Members.get?_eq_none {key : String} {ms : Members} (h : key ∉ ms.map Prod.fst) :
    Members.get? key ms = none := by
  induction ms with
  | nil => rfl
  | cons m ms ih =>
    obtain ⟨k, v⟩ := m
    rw [List.map_cons, List.mem_cons, not_or] at h
    rw [Members.get?, if_neg (Ne.symm h.1), ih h.2]

@[simp] theorem slots?_nil (ms : Members) : slots? [] (.obj ms) = some [] := rfl

theorem Members.get?_cons_self (key : String) (v : Json) (ms : Members) :
    Members.get? key ((key, v) :: ms) = some v := if_pos rfl

/-- A member that is no field of the record is passed over. -/
theorem slots?_pass {names : List String} {key : String} (hkey : key ∉ names) (v : Json)
    (ms : Members) : slots? names (.obj ((key, v) :: ms)) = slots? names (.obj ms) := by
  simp only [slots?]
  congr 1
  refine List.map_congr_left fun name hname => ?_
  have hne : key ≠ name := fun h => hkey (h.symm ▸ hname)
  rw [Members.get?, if_neg hne]

/-- The field written first is the one looked for first. -/
theorem slots?_cons {name : String} {names : List String} (hname : name ∉ names) (v : Json)
    (ms : Members) : slots? (name :: names) (.obj ((name, v) :: ms)) =
      (slots? names (.obj ms)).map (Slot.present v :: ·) := by
  have hrest : slots? names (.obj ((name, v) :: ms)) = slots? names (.obj ms) :=
    slots?_pass hname v ms
  rw [← hrest]
  simp only [slots?, List.map_cons, Members.get?_cons_self, Option.map_some]

theorem slots?_skip {name : String} {ms : Members} (hname : name ∉ ms.map Prod.fst)
    (names : List String) : slots? (name :: names) (.obj ms) =
      (slots? names (.obj ms)).map (Slot.missing :: ·) := by
  simp only [slots?, List.map_cons, Members.get?_eq_none hname, Option.map_some]

@[simp] theorem slot_zero (s : Slot V) (rest : List (Slot V)) : slot (s :: rest) 0 = s := rfl

@[simp] theorem slot_succ (s : Slot V) (rest : List (Slot V)) (i : Nat) :
    slot (s :: rest) (i + 1) = slot rest i := rfl

namespace Slot

-- the proof is no bare `rfl`, lest the readers of words be unfolded in search of one
@[simp] theorem required_present (decode : V → Option α) (v : V) :
    (present v).required decode = decode v := by
  rw [required]

@[simp] theorem required_missing (decode : V → Option α) :
    missing.required decode = none := rfl

@[simp] theorem withDefault_present (a : α) (decode : V → Option α) (v : V) :
    (present v).withDefault a decode = decode v := rfl

@[simp] theorem withDefault_missing (a : α) (decode : V → Option α) :
    missing.withDefault a decode = some a := rfl

@[simp] theorem optional_missing (decode : Json → Option α) :
    missing.optional decode = some none := rfl

theorem optional_present {decode : Json → Option α} {v : Json} {a : α}
    (hnull : decode .null = none) (ha : decode v = some a) :
    (present v).optional decode = some (some a) := by
  cases v with
  | null => rw [hnull] at ha; cases ha
  | _ => simp only [optional, ha, Option.map_some]

/-- A field that may be absent reads back if its value does and is never null. -/
theorem optional_ofOption {decode : Json → Option α} {encode : α → Json} {o : Option α}
    (hnull : decode .null = none) (h : ∀ a ∈ o, decode (encode a) = some a) :
    (present (ofOption encode o)).optional decode = some o := by
  cases o with
  | none => rfl
  | some a => exact optional_present hnull (h a rfl)

end Slot

/-! ## Values -/

@[simp] theorem asString?_str (s : String) : (str s).asString? = some s := rfl

@[simp] theorem asBool?_bool (b : Bool) : (bool b).asBool? = some b := rfl

@[simp] theorem asArray?_arr (items : List Json) : (arr items).asArray? = some items := rfl

theorem ofFloat_of_finite {x : Float} (hx : x.isFinite = true) : ofFloat x = .float x := if_pos hx

theorem asFloat?_ofFloat {x : Float} (hx : x.isFinite = true) : (ofFloat x).asFloat? = some x := by
  rw [ofFloat_of_finite hx]
  rfl

@[simp] theorem nat?_ofNat (n : Nat) : nat? (ofNat n) = some n := by
  rw [ofNat, nat?, if_pos (Int.natCast_nonneg n), Int.toNat_natCast]

theorem isUnsigned_natCast {bits n : Nat} (hn : n < Decimal.words bits) :
    Decimal.isUnsigned bits n = true := by
  simp only [Decimal.isUnsigned, Bool.and_eq_true, decide_eq_true_eq]
  omega

@[simp] theorem asWord?_ofNat (n : UInt64) : (ofNat n.toNat).asWord? = some n := by
  rw [ofNat, asWord?, if_pos (isUnsigned_natCast n.toNat_lt), Int.toNat_natCast, UInt64.ofNat_toNat]

@[simp] theorem uint32?_ofNat (n : UInt32) : uint32? (ofNat n.toNat) = some n := by
  rw [ofNat, uint32?, if_pos (isUnsigned_natCast n.toNat_lt), Int.toNat_natCast, UInt32.ofNat_toNat]

@[simp] theorem int64?_toInt (n : Int64) : int64? (.int n.toInt) = some n := by
  have hlow := n.le_toInt
  have hhigh := n.toInt_lt
  have hfits : Decimal.isSigned 64 n.toInt = true := by
    have hwords : ((Decimal.words (64 - 1) : Nat) : Int) = 2 ^ 63 := by decide
    simp only [Decimal.isSigned, hwords, Bool.and_eq_true, decide_eq_true_eq]
    exact ⟨hlow, hhigh⟩
  rw [int64?, if_pos hfits, Int64.ofInt_toInt]

/-! ## Lists -/

theorem mapM_map_of_forall {decode : β → Option α} {encode : α → β} {xs : List α}
    (h : ∀ x ∈ xs, decode (encode x) = some x) : (xs.map encode).mapM decode = some xs := by
  induction xs with
  | nil => rfl
  | cons x xs ih =>
    obtain ⟨hx, hxs⟩ := List.forall_mem_cons.mp h
    rw [List.map_cons, List.mapM_cons, hx, ih hxs]
    rfl

theorem list?_arr {decode : Json → Option α} {encode : α → Json} {xs : List α}
    (h : ∀ x ∈ xs, decode (encode x) = some x) : list? decode (.arr (xs.map encode)) = some xs :=
  mapM_map_of_forall h

@[simp] theorem list?_ofStrings (xs : List String) : list? asString? (ofStrings xs) = some xs :=
  list?_arr fun _ _ => rfl

@[simp] theorem list?_objects (rows : List Members) :
    list? asObject? (.arr (rows.map .obj)) = some rows :=
  list?_arr fun _ _ => rfl

end QueryDesk.Json
