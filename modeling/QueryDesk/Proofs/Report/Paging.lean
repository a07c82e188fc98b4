import QueryDesk.Report.Page

/-!
# Pages partition a list

The bounds of a page are computed in words that stop at the largest one.  A list has at most that
many items, so stopping changes no bound (`Pagination.start_of`, `Pagination.stop_of`): a page is
the window of the list at its place (`items_paginate`), however large its number and size are.
There are as many pages as windows that are not empty (`Pagination.lt_totalPages_iff`), and from
that one equivalence follow the partition of the list and the flags of its pages
(`paginate_partitions`).
-/

namespace QueryDesk.Report

variable {α : Type}

/-- The pages from 1 to `total` hold the items of a list, each item once and in order; all of them
are full but the last, which is not empty, and there is nothing beyond. -/
structure Partitions (items : List α) (pageSize total : Nat) (pageOf : Nat → List α) : Prop where
  joined : (List.range' 1 total).flatMap pageOf = items
  full : ∀ k, 1 ≤ k → k < total → (pageOf k).length = pageSize
  last : 0 < total → 1 ≤ (pageOf total).length ∧ (pageOf total).length ≤ pageSize
  beyond : ∀ k, total < k → pageOf k = []

/-! ## Windows -/

/-- The `k`-th run of `size` items, counted from 0. -/
def window (items : List α) (size k : Nat) : List α := (items.drop (k * size)).take size

theorem length_window (items : List α) (size k : Nat) :
    (window items size k).length = min size (items.length - k * size) := by
  simp [window]

theorem window_eq_nil {items : List α} {size k : Nat} (h : items.length ≤ k * size) :
    window items size k = [] := by
  unfold window
  rw [List.drop_eq_nil_of_le h, List.take_nil]

/-- The first windows are the head of the list. -/
theorem flatMap_window (items : List α) (size total : Nat) :
    (List.range' 1 total).flatMap (fun k => window items size (k - 1)) =
      items.take (total * size) := by
  induction total with
  | zero => simp
  | succ total ih =>
    have hlast : 1 + total - 1 = total := by omega
    rw [List.range'_1_concat, List.flatMap_append, ih, List.flatMap_singleton, hlast, window,
      Nat.succ_mul, List.take_add]

/-! ## Bounds -/

theorem mul_eq_pred_mul_add {k : Nat} (hk : 1 ≤ k) (size : Nat) :
    k * size = (k - 1) * size + size := by
  rw [← Nat.succ_mul, Nat.succ_eq_add_one, Nat.sub_add_cancel hk]

namespace Pagination

variable {page pageSize n : Nat}

theorem start_of (h : n ≤ maxWord) :
    (of page pageSize n).start = min ((max page 1 - 1) * max pageSize 1) n := by
  show min (min ((max page 1 - 1) * max pageSize 1) maxWord) n = _
  omega

theorem stop_of (h : n ≤ maxWord) :
    (of page pageSize n).stop = min (max page 1 * max pageSize 1) n := by
  have hpage := mul_eq_pred_mul_add (Nat.le_max_right page 1) (max pageSize 1)
  show min (min ((of page pageSize n).start + max pageSize 1) maxWord) n = _
  -- the sum is cut at the largest word only where it has passed the length already
  rw [start_of h, hpage]
  omega

theorem start_le_stop (h : n ≤ maxWord) :
    (of page pageSize n).start ≤ (of page pageSize n).stop := by
  have hmul : (max page 1 - 1) * max pageSize 1 ≤ max page 1 * max pageSize 1 :=
    Nat.mul_le_mul_right _ (Nat.sub_le _ _)
  rw [start_of h, stop_of h]
  omega

theorem stop_le : (of page pageSize n).stop ≤ n := Nat.min_le_right _ _

/-- There is a page after the first `k` exactly if they leave some item. -/
theorem lt_totalPages_iff (k : Nat) :
    k < (of page pageSize n).totalPages ↔ k * max pageSize 1 < n := by
  have hsize : 0 < max pageSize 1 := by omega
  show k < (n + max pageSize 1 - 1) / max pageSize 1 ↔ _
  rw [Nat.lt_iff_add_one_le, Nat.le_div_iff_mul_le hsize, Nat.succ_mul]
  omega

/-- A page number that is not beyond the last page is a word. -/
theorem totalPages_le : (of page pageSize n).totalPages ≤ n := by
  refine Nat.le_of_not_lt fun hlt => ?_
  have hn : n * max pageSize 1 < n := (lt_totalPages_iff n).mp hlt
  have hle : n * 1 ≤ n * max pageSize 1 := Nat.mul_le_mul_left n (by omega)
  omega

theorem hasNext_iff (h : n ≤ maxWord) :
    (of page pageSize n).hasNext = true ↔ max page 1 < (of page pageSize n).totalPages := by
  rw [lt_totalPages_iff]
  show decide (min (max page 1 * max pageSize 1) maxWord < n) = true ↔ _
  rw [decide_eq_true_iff]
  omega

theorem hasPrev_iff : (of page pageSize n).hasPrev = true ↔ 1 < page := by
  show decide (1 < max page 1) = true ↔ _
  rw [decide_eq_true_iff]
  omega

end Pagination

/-! ## Pages -/

section Pages

variable {items : List α} (hlength : items.length ≤ maxWord)

include hlength

/-- A page is the window at its place. -/
theorem items_paginate (page pageSize : Nat) :
    (paginate items page pageSize).1 = window items (max pageSize 1) (max page 1 - 1) := by
  have hpage := mul_eq_pred_mul_add (Nat.le_max_right page 1) (max pageSize 1)
  show (items.drop (Pagination.of page pageSize items.length).start).take _ = _
  rw [Pagination.start_of hlength, Pagination.stop_of hlength, hpage]
  by_cases hstart : items.length ≤ (max page 1 - 1) * max pageSize 1
  · rw [window_eq_nil hstart, Nat.min_eq_right hstart, List.drop_length, List.take_nil]
  · have hbefore : (max page 1 - 1) * max pageSize 1 ≤ items.length := by omega
    rw [Nat.min_eq_left hbefore, window, List.take_eq_take_iff, List.length_drop]
    omega

theorem items_paginate_ne_nil_iff (page pageSize : Nat) :
    (paginate items page pageSize).1 ≠ [] ↔
      max page 1 ≤ (paginate items page pageSize).2.totalPages := by
  have hlt : max page 1 - 1 < (Pagination.of page pageSize items.length).totalPages ↔ _ :=
    Pagination.lt_totalPages_iff (max page 1 - 1)
  have hpage : max page 1 - 1 < (Pagination.of page pageSize items.length).totalPages ↔
      max page 1 ≤ (Pagination.of page pageSize items.length).totalPages := by omega
  rw [items_paginate hlength, ← List.length_pos_iff, length_window]
  show _ ↔ max page 1 ≤ (Pagination.of page pageSize items.length).totalPages
  rw [← hpage, hlt]
  omega

theorem partitions_paginate (page pageSize : Nat) :
    Partitions items (max pageSize 1) (Pagination.of page pageSize items.length).totalPages
      fun k => (paginate items k pageSize).1 := by
  have hlt : ∀ k, k < (Pagination.of page pageSize items.length).totalPages ↔
      k * max pageSize 1 < items.length := fun k => Pagination.lt_totalPages_iff k
  generalize (Pagination.of page pageSize items.length).totalPages = total at hlt ⊢
  have hwindow : ∀ k, 1 ≤ k → (paginate items k pageSize).1 =
      window items (max pageSize 1) (k - 1) := by
    intro k hk
    rw [items_paginate hlength, Nat.max_eq_left hk]
  refine ⟨?joined, ?full, ?last, ?beyond⟩
  case joined =>
    -- one window more than there are pages would be empty
    have hall : items.length ≤ total * max pageSize 1 :=
      Nat.le_of_not_lt fun h => Nat.lt_irrefl _ ((hlt total).mpr h)
    have hpages : (List.range' 1 total).map (fun k => (paginate items k pageSize).1) =
        (List.range' 1 total).map fun k => window items (max pageSize 1) (k - 1) :=
      List.map_congr_left fun k hk => hwindow k (List.mem_range'_1.mp hk).1
    rw [List.flatMap_def, hpages, ← List.flatMap_def, flatMap_window, List.take_of_length_le hall]
  case full =>
    intro k hk hktotal
    have hafter : k * max pageSize 1 < items.length := (hlt k).mp hktotal
    have hpage := mul_eq_pred_mul_add hk (max pageSize 1)
    rw [hwindow k hk, length_window]
    omega
  case last =>
    intro htotal
    have hsome : (total - 1) * max pageSize 1 < items.length := (hlt (total - 1)).mp (by omega)
    rw [hwindow total htotal, length_window]
    omega
  case beyond =>
    intro k hk
    rw [hwindow k (by omega)]
    apply window_eq_nil
    refine Nat.le_of_not_lt fun h => ?_
    have hkTotal : k - 1 < total := (hlt (k - 1)).mpr h
    omega

end Pages

/-- Pages partition a list.  For any page number and size, a zero standing for a one, the page is a
slice within the list; the pages from the first to the last of those announced partition the list;
a next page is announced exactly if some later word is the number of a page with items, and a page
before exactly if the number is above one. -/
theorem paginate_partitions {items : List α} (hlength : items.length ≤ maxWord)
    (page pageSize : Nat) :
    ∃ slice p, paginate items page pageSize = (slice, p) ∧
      p.page = max page 1 ∧ p.pageSize = max pageSize 1 ∧
      (p.start ≤ p.stop ∧ p.stop ≤ items.length ∧ slice = (items.take p.stop).drop p.start) ∧
      p.totalPages ≤ maxWord ∧
      Partitions items p.pageSize p.totalPages (fun k => (paginate items k pageSize).1) ∧
      (p.hasNext = true ↔
        ∃ k, p.page < k ∧ k ≤ maxWord ∧ (paginate items k pageSize).1 ≠ []) ∧
      (p.hasPrev = true ↔ 1 < page) := by
  have htotal : (Pagination.of page pageSize items.length).totalPages ≤ items.length :=
    Pagination.totalPages_le
  refine ⟨_, Pagination.of page pageSize items.length, rfl, rfl, rfl, ⟨?_, ?_, ?_⟩,
    Nat.le_trans htotal hlength, partitions_paginate hlength page pageSize, ?_,
    Pagination.hasPrev_iff⟩
  · exact Pagination.start_le_stop hlength
  · exact Pagination.stop_le
  · exact List.drop_take.symm
  · rw [Pagination.hasNext_iff hlength]
    constructor
    · intro hnext
      refine ⟨max page 1 + 1, Nat.lt_succ_self _, by omega, ?_⟩
      rw [items_paginate_ne_nil_iff hlength]
      show _ ≤ (Pagination.of page pageSize items.length).totalPages
      omega
    · rintro ⟨k, hk, -, hne⟩
      have hle : max k 1 ≤ (Pagination.of page pageSize items.length).totalPages :=
        (items_paginate_ne_nil_iff hlength k pageSize).mp hne
      have hpage : max page 1 < k := hk
      omega

/-- The page with the largest number and size of three letters. -/
theorem paginate_partitions_letters : ['a', 'b', 'c'].length ≤ maxWord ∧
    ∃ slice p, paginate ['a', 'b', 'c'] maxWord maxWord = (slice, p) ∧
      Partitions ['a', 'b', 'c'] p.pageSize p.totalPages
        (fun k => (paginate ['a', 'b', 'c'] k maxWord).1) ∧
      (p.hasNext = true ↔
        ∃ k, p.page < k ∧ k ≤ maxWord ∧ (paginate ['a', 'b', 'c'] k maxWord).1 ≠ []) := by
  have hlength : ['a', 'b', 'c'].length ≤ maxWord := by decide
  obtain ⟨slice, p, hp, -, -, -, -, hpartitions, hnext, -⟩ :=
    paginate_partitions hlength maxWord maxWord
  exact ⟨hlength, slice, p, hp, hpartitions, hnext⟩

end QueryDesk.Report
