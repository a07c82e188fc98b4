import QueryDesk.Engine.Hive.Output
import QueryDesk.Proofs.Engine.Pages
import QueryDesk.Proofs.Text.Lines

/-!
# Hive output read back

A finished job leaves its rows as text: the names of the columns on the first line, then a line a
row, with tabs between the cells.  Reading the text gives the names back and the rows in order, each
cell as the value that its text stands for (`resultOf_written`).

Blank lines are passed over, and that is seen in the result: a row of blank cells is written as a
blank line, for a tab is a blank too, and so it is lost (`rows_lost`).
-/

namespace QueryDesk.Hive

open Text (fields fields_intercalate lines lines_flatMap isBlank)

/-! ## Tables as text -/

/-- Cells on a line, with tabs between them. -/
def tabbed (cells : List (List Char)) : List Char := ['\t'].intercalate cells

/-- A table as a job leaves it: a line of names, then a line for every row. -/
def written (names : List (List Char)) (rows : List (List (List Char))) : List Char :=
  (names :: rows).flatMap fun cells => tabbed cells ++ ['\n']

/-- A text that can stand between tabs on a line. -/
def IsCell (text : List Char) : Prop := '\t' ∉ text ∧ '\n' ∉ text ∧ '\r' ∉ text

instance : DecidablePred IsCell := fun _ => inferInstanceAs (Decidable (_ ∧ _ ∧ _))

/-- The names of the columns and the rows of a table that can be written. -/
structure Table (names : List (List Char)) (rows : List (List (List Char))) : Prop where
  some_name : names ≠ []
  names_cells : ∀ name ∈ names, IsCell name
  names_shown : ∀ name ∈ names, name.all isBlank = false
  /-- Without their tables and outer blanks the names are still distinct. -/
  distinct : (names.map columnName).Nodup
  rows_cells : ∀ row ∈ rows, ∀ cell ∈ row, IsCell cell
  full : ∀ row ∈ rows, row.length = names.length

/-- Whether a row has nothing but blanks in its cells. -/
def isBlankRow (row : List (List Char)) : Bool := row.all fun cell => cell.all isBlank

/-- What the text of a cell stands for: null, a signed 64-bit integer, a finite double, or the text
itself. -/
inductive Denotes : List Char → Json → Prop
  | null : Denotes ['N', 'U', 'L', 'L'] .null
  | int {text : List Char} {n : Int} (hread : Decimal.int? text = some n)
    (hfits : Decimal.isSigned 64 n = true) : Denotes text (.int n)
  | float {text : List Char} {x : Float}
    (hint : ∀ n, Decimal.int? text = some n → Decimal.isSigned 64 n = false)
    (hread : Decimal.float? text = some x) (hfinite : x.isFinite = true) : Denotes text (.float x)
  | text {text : List Char} (hnull : text ≠ ['N', 'U', 'L', 'L'])
    (hint : ∀ n, Decimal.int? text = some n → Decimal.isSigned 64 n = false)
    (hfloat : ∀ x, Decimal.float? text = some x → x.isFinite = false) :
    Denotes text (.str (String.ofList text))

/-- The row holds, under each column in order, what the text of its cell stands for. -/
def Holds (names cells : List (List Char)) (row : Row) : Prop :=
  Json.Members.keys row = names.map columnName ∧ List.Forall₂ Denotes cells (row.map Prod.snd)

/-! ## Reading -/

theorem denotes_cellValue (text : List Char) : Denotes text (cellValue text) := by
  unfold cellValue
  split
  · next hnull =>
    rw [hnull]
    exact .null
  · next hnull =>
    split
    · next n hint =>
      obtain ⟨hread, hfits⟩ := Option.filter_eq_some_iff.mp hint
      exact .int hread hfits
    · next hint =>
      have hwide : ∀ n, Decimal.int? text = some n → Decimal.isSigned 64 n = false :=
        fun n hread => Bool.eq_false_iff.mpr (Option.filter_eq_none_iff.mp hint n hread)
      split
      · next x hfloat =>
        obtain ⟨hread, hfinite⟩ := Option.filter_eq_some_iff.mp hfloat
        exact .float hwide hread hfinite
      · next hfloat =>
        exact .text hnull hwide fun x hread =>
          Bool.eq_false_iff.mpr (Option.filter_eq_none_iff.mp hfloat x hread)

theorem fields_tabbed {cells : List (List Char)} (hsome : cells ≠ [])
    (h : ∀ cell ∈ cells, IsCell cell) : fields '\t' (tabbed cells) = cells :=
  fields_intercalate hsome fun cell hcell => (h cell hcell).1

theorem not_mem_tabbed {c : Char} (hc : c ≠ '\t') {cells : List (List Char)}
    (h : ∀ cell ∈ cells, c ∉ cell) : c ∉ tabbed cells := by
  intro hin
  rcases mem_intercalate hin with htab | ⟨cell, hcell, hin⟩
  · exact hc (List.mem_singleton.mp htab)
  · exact h cell hcell hin

/-- A tab is blank, so a line is blank if its cells are. -/
theorem all_isBlank_tabbed (cells : List (List Char)) :
    (tabbed cells).all isBlank = isBlankRow cells := by
  induction cells with
  | nil => rfl
  | cons cell rest ih =>
    cases rest with
    | nil => simp [tabbed, isBlankRow]
    | cons next rest =>
      have htab : ['\t'].all isBlank = true := rfl
      rw [tabbed, List.intercalate_cons_cons, List.all_append, List.all_append, htab, Bool.and_true,
        ← tabbed, ih]
      rfl

section

variable {names : List (List Char)} {rows : List (List (List Char))}

namespace Table

theorem isCell (h : Table names rows) : ∀ cells ∈ names :: rows, ∀ cell ∈ cells, IsCell cell := by
  intro cells hcells
  rcases List.mem_cons.mp hcells with rfl | hrow
  · exact h.names_cells
  · exact h.rows_cells cells hrow

theorem lines_written (h : Table names rows) :
    lines (written names rows) = (names :: rows).map tabbed := by
  have hlines : written names rows = ((names :: rows).map tabbed).flatMap (· ++ ['\n']) := by
    rw [List.flatMap_map]
    rfl
  have hnot : ∀ c, c ≠ '\t' → (∀ cell, IsCell cell → c ∉ cell) →
      ∀ line ∈ (names :: rows).map tabbed, c ∉ line := by
    intro c hc hcell line hline
    obtain ⟨cells, hcells, rfl⟩ := List.mem_map.mp hline
    exact not_mem_tabbed hc fun cell hin => hcell cell (h.isCell cells hcells cell hin)
  rw [hlines]
  exact lines_flatMap (hnot _ (by decide) fun _ hcell => hcell.2.1)
    (hnot _ (by decide) fun _ hcell => hcell.2.2)

theorem not_isBlankRow (h : Table names rows) : isBlankRow names = false := by
  obtain ⟨name, more, rfl⟩ := List.exists_cons_of_ne_nil h.some_name
  rw [isBlankRow, List.all_cons, h.names_shown name List.mem_cons_self, Bool.false_and]

theorem length_values (h : Table names rows) {row : List (List Char)} (hrow : row ∈ rows) :
    (row.map cellValue).length = (names.map columnName).length := by
  rw [List.length_map, List.length_map, h.full row hrow]

theorem rowOf_tabbed (h : Table names rows) {row : List (List Char)} (hrow : row ∈ rows) :
    rowOf (names.map columnName) (tabbed row) =
      (names.map columnName).zip (row.map cellValue) := by
  have hsome : row ≠ [] := by
    rw [← List.length_pos_iff, h.full row hrow, List.length_pos_iff]
    exact h.some_name
  rw [rowOf, fields_tabbed hsome (h.rows_cells row hrow),
    Row.zip_eq h.distinct (h.length_values hrow)]

theorem resultOf_eq (h : Table names rows) :
    resultOf (written names rows) = ⟨names.map columnName,
      (rows.filter (!isBlankRow ·)).map fun row =>
        (names.map columnName).zip (row.map cellValue)⟩ := by
  have hshown : (lines (written names rows)).filter (!·.all isBlank) =
      tabbed names :: (rows.filter (!isBlankRow ·)).map tabbed := by
    have hblank : (fun line => !line.all isBlank) ∘ tabbed = (!isBlankRow ·) :=
      funext fun cells => congrArg not (all_isBlank_tabbed cells)
    rw [h.lines_written, List.filter_map, hblank, List.filter_cons_of_pos, List.map_cons]
    rw [h.not_isBlankRow]
    rfl
  rw [resultOf, hshown]
  dsimp only
  rw [fields_tabbed h.some_name h.names_cells, List.map_map]
  congr 1
  exact List.map_congr_left fun row hrow => h.rowOf_tabbed (List.mem_of_mem_filter hrow)

theorem holds_zip (h : Table names rows) {row : List (List Char)} (hrow : row ∈ rows) :
    Holds names row ((names.map columnName).zip (row.map cellValue)) := by
  have hlength := h.length_values hrow
  refine ⟨List.map_fst_zip (Nat.le_of_eq hlength.symm), ?_⟩
  rw [List.map_snd_zip (Nat.le_of_eq hlength), List.forall₂_map_right_iff, List.forall₂_same]
  exact fun cell _ => denotes_cellValue cell

end Table

/-- Of a table as text, the names come back without their tables, and of the rows those with
anything but blanks, one for one and in order, each cell as what its text stands for. -/
theorem resultOf_written (h : Table names rows) :
    (resultOf (written names rows)).columns = names.map columnName ∧
      List.Forall₂ (Holds names) (rows.filter (!isBlankRow ·))
        (resultOf (written names rows)).rows := by
  rw [h.resultOf_eq]
  refine ⟨rfl, ?_⟩
  rw [List.forall₂_map_right_iff, List.forall₂_same]
  exact fun row hrow => h.holds_zip (List.mem_of_mem_filter hrow)

end

/-! ## A row that looks like padding -/

def guestNames : List (List Char) :=
  ["users.name".toList, "users.city".toList]

/-- Nothing is known of the second guest. -/
def guestRows : List (List (List Char)) :=
  [["ann".toList, "paris".toList], [[], []], ["bob".toList, "NULL".toList]]

theorem table_guests : Table guestNames guestRows where
  some_name := nofun
  names_cells := by decide
  names_shown := by decide
  distinct := by decide
  rows_cells := by decide
  full := by decide

theorem resultOf_written_guests : ∃ ann bob, Table guestNames guestRows ∧
    resultOf (written guestNames guestRows) = ⟨["name", "city"], [ann, bob]⟩ ∧
    Holds guestNames ["ann".toList, "paris".toList] ann ∧
    Holds guestNames ["bob".toList, "NULL".toList] bob := by
  obtain ⟨hcolumns, hrows⟩ := resultOf_written table_guests
  have hkept : guestRows.filter (!isBlankRow ·) =
      [["ann".toList, "paris".toList], ["bob".toList, "NULL".toList]] := by decide
  rw [hkept] at hrows
  obtain ⟨ann, others, hann, hothers, hall⟩ := List.forall₂_cons_left_iff.mp hrows
  obtain ⟨bob, none, hbob, hnone, rfl⟩ := List.forall₂_cons_left_iff.mp hothers
  obtain rfl := List.forall₂_nil_left_iff.mp hnone
  have hnames : guestNames.map columnName = ["name", "city"] := by decide
  exact ⟨ann, bob, table_guests, by rw [← hnames, ← hcolumns, ← hall], hann, hbob⟩

/-- Every row of a table as text is read back. -/
def LosesNoRows : Prop :=
  ∀ names rows, Table names rows →
    (resultOf (written names rows)).columns = names.map columnName ∧
      List.Forall₂ (Holds names) rows (resultOf (written names rows)).rows

theorem rows_lost : ¬LosesNoRows := by
  intro h
  have hlength := (h guestNames guestRows table_guests).2.length_eq
  revert hlength
  decide

end QueryDesk.Hive
