import Mathlib.Algebra.GroupWithZero.Nat
import QueryDesk.Text.Search

/-!
# Fields and lines read back

The fields of a text are those that were put together with the separator between them, and its
lines are those that were each ended by a newline, as long as none holds what ends it.
-/

namespace QueryDesk

theorem mem_intercalate {α : Type} {x : α} {sep : List α} {xss : List (List α)}
    (h : x ∈ sep.intercalate xss) : x ∈ sep ∨ ∃ xs ∈ xss, x ∈ xs := by
  induction xss with
  | nil => simp at h
  | cons xs xss ih =>
    cases xss with
    | nil => exact Or.inr ⟨xs, List.mem_cons_self, by simpa using h⟩
    | cons ys xss =>
      rw [List.intercalate_cons_cons, List.mem_append, List.mem_append] at h
      rcases h with (h | h) | h
      · exact Or.inr ⟨xs, List.mem_cons_self, h⟩
      · exact Or.inl h
      · rcases ih h with h | ⟨zs, hzs, h⟩
        · exact Or.inl h
        · exact Or.inr ⟨zs, List.mem_cons_of_mem _ hzs, h⟩

namespace Text

theorem fields_cons_self (sep : Char) (s : List Char) :
    fields sep (sep :: s) = [] :: fields sep s :=
  if_pos rfl

/-- A character that is not the separator joins the first field. -/
theorem exists_fields_cons {sep c : Char} (hc : c ≠ sep) (s : List Char) :
    ∃ f more, fields sep s = f :: more ∧ fields sep (c :: s) = (c :: f) :: more := by
  obtain ⟨f, more, hfields⟩ := List.exists_cons_of_ne_nil (fields_ne_nil sep s)
  refine ⟨f, more, hfields, ?_⟩
  rw [fields, if_neg hc, hfields]

theorem fields_eq_splitOn (sep : Char) (s : List Char) : fields sep s = s.splitOn sep := by
  induction s with
  | nil => rfl
  | cons c rest ih =>
    rw [List.splitOn, List.splitOnP_cons_eq_if_modifyHead, ← List.splitOn, ← ih]
    by_cases hc : c = sep
    · rw [if_pos (beq_iff_eq.mpr hc), hc, fields_cons_self]
    · obtain ⟨f, more, hrest, hcons⟩ := exists_fields_cons hc rest
      rw [if_neg (mt beq_iff_eq.mp hc), hcons, hrest, List.modifyHead_cons]

theorem fields_intercalate {sep : Char} {parts : List (List Char)} (hsome : parts ≠ [])
    (h : ∀ part ∈ parts, sep ∉ part) : fields sep ([sep].intercalate parts) = parts := by
  rw [fields_eq_splitOn, List.splitOn_intercalate sep h hsome]

theorem fields_append (sep : Char) (s t : List Char) :
    fields sep (s ++ sep :: t) = fields sep s ++ fields sep t := by
  induction s with
  | nil => exact fields_cons_self sep t
  | cons c rest ih =>
    rw [List.cons_append]
    by_cases hc : c = sep
    · rw [hc, fields_cons_self, fields_cons_self, ih, List.cons_append]
    · obtain ⟨f, more, hrest, hcons⟩ := exists_fields_cons hc rest
      rw [fields, if_neg hc, ih, hrest, hcons]
      rfl

/-- Texts that are each ended by the separator keep their own fields. -/
theorem fields_flatMap (sep : Char) (ls : List (List Char)) :
    fields sep (ls.flatMap (· ++ [sep])) = ls.flatMap (fields sep) ++ [[]] := by
  induction ls with
  | nil => rfl
  | cons l ls ih =>
    rw [List.flatMap_cons, List.flatMap_cons, List.append_assoc, List.singleton_append,
      fields_append, ih, List.append_assoc]

theorem fields_of_not_mem {sep : Char} {s : List Char} (h : sep ∉ s) : fields sep s = [s] := by
  have hsingle : fields sep ([sep].intercalate [s]) = [s] :=
    fields_intercalate (List.cons_ne_nil s []) (List.forall_mem_singleton.mpr h)
  rwa [List.intercalate_singleton] at hsingle

theorem length_fields (sep : Char) (s : List Char) :
    (fields sep s).length = s.count sep + 1 := by
  induction s with
  | nil => rfl
  | cons c rest ih =>
    by_cases hc : c = sep
    · rw [hc, fields_cons_self, List.length_cons, ih, List.count_cons_self]
    · obtain ⟨f, more, hrest, hcons⟩ := exists_fields_cons hc rest
      rw [hcons, List.count_cons_of_ne hc, ← ih, hrest]
      rfl

/-- The lines of texts that are each ended by a newline are the lines of each. -/
theorem lines_ended (ls : List (List Char)) : lines (ls.flatMap (· ++ ['\n'])) =
    (ls.flatMap (fields '\n')).map dropCarriageReturn := by
  simp only [lines, fields_flatMap, List.dropLast_concat, List.getLast?_concat, Option.getD_some,
    List.isEmpty_nil, if_true, List.append_nil]

/-- A newline inside one of the texts makes one line more. -/
theorem length_lines_ended (ls : List (List Char)) :
    (lines (ls.flatMap (· ++ ['\n']))).length = ls.length + (ls.map (List.count '\n')).sum := by
  rw [lines_ended, List.length_map, List.length_flatMap]
  induction ls with
  | nil => rfl
  | cons l ls ih =>
    rw [List.map_cons, List.sum_cons, ih, length_fields, List.map_cons, List.sum_cons,
      List.length_cons]
    omega

theorem lines_of_not_mem {ls : List (List Char)} (hnewline : ∀ l ∈ ls, '\n' ∉ l)
    (hreturn : ∀ l ∈ ls, l.getLast? ≠ some '\r') : lines (ls.flatMap (· ++ ['\n'])) = ls := by
  have hfields : ls.flatMap (fields '\n') = ls := by
    rw [List.flatMap_def, List.map_congr_left fun l hl => fields_of_not_mem (hnewline l hl),
      ← List.flatMap_def, List.flatMap_singleton']
  have hkept : ∀ l ∈ ls, dropCarriageReturn l = l := by
    intro l hl
    rw [dropCarriageReturn, if_neg (hreturn l hl)]
  rw [lines_ended, hfields]
  exact (List.map_congr_left hkept).trans (List.map_id ls)

theorem lines_flatMap {ls : List (List Char)} (hnewline : ∀ l ∈ ls, '\n' ∉ l)
    (hreturn : ∀ l ∈ ls, '\r' ∉ l) : lines (ls.flatMap (· ++ ['\n'])) = ls :=
  lines_of_not_mem hnewline fun l hl hlast => hreturn l hl (List.mem_of_getLast? hlast)

end Text

end QueryDesk
