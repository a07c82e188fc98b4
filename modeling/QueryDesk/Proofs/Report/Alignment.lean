import Mathlib.Data.List.Forall2
import Mathlib.Order.Bounds.Basic
import QueryDesk.Proofs.Text.Lines
import QueryDesk.Proofs.Text.Search
import QueryDesk.Report.Table

/-!
# Tables line up

Where the columns of a table stand in its lines.  Pieces of known lengths that are joined stand at
places that depend on the lengths alone (`exists_intercalate`), and the pieces of a line are as long
as those of the rule (`length_cell`), so every column stands over its dashes (`laidOut_line`).

A line is what a table ends with a newline; how many lines are printed is another matter, since a
text that is shown may hold newlines of its own.  Each that is left in a line prints one line more
(`ofRows_aligned`), and the columns after it start anew (`row_split`).
-/

namespace QueryDesk.Report.Table

open Text (stripEnd)

/-! ## Places -/

/-- The part stands in the line at a place. -/
def StandsAt (place : Nat) (part l : List Char) : Prop :=
  ∃ before after, l = before ++ part ++ after ∧ before.length = place

/-- Where a column starts, each column before it being followed by three characters. -/
def start (widths : List Nat) (j : Nat) : Nat := ((widths.take j).map (· + 3)).sum

/-- Joined pieces stand where their lengths put them, with the separator after all but the last. -/
theorem exists_intercalate {sep : List Char} (hsep : sep.length = 3) {pieces : List (List Char)}
    {j : Nat} {piece : List Char} (h : pieces[j]? = some piece) :
    ∃ before after, sep.intercalate pieces = before ++ piece ++ after ∧
      before.length = start (pieces.map List.length) j ∧
      (j + 1 < pieces.length → ∃ rest, after = sep ++ rest) := by
  induction pieces generalizing j with
  | nil => cases h
  | cons first more ih =>
    cases j with
    | zero =>
      obtain rfl : first = piece := Option.some.inj h
      cases more with
      | nil => exact ⟨[], [], by simp, rfl, fun hlt => absurd hlt (Nat.lt_irrefl 1)⟩
      | cons second rest =>
        exact ⟨[], sep ++ sep.intercalate (second :: rest), by simp, rfl, fun _ => ⟨_, rfl⟩⟩
    | succ j =>
      cases more with
      | nil => cases h
      | cons second rest =>
        obtain ⟨before, after, heq, hlength, hafter⟩ := ih h
        refine ⟨first ++ sep ++ before, after, ?_, ?_, fun hlt => ?_⟩
        · rw [List.intercalate_cons_cons, heq]
          simp
        · rw [List.length_append, List.length_append, hlength, hsep]
          rfl
        · exact hafter (Nat.lt_of_succ_lt_succ hlt)

/-- The place of a piece, and of the separator after it, told by the widths of the pieces. -/
theorem standsAt_intercalate {sep : List Char} (hsep : sep.length = 3) {pieces : List (List Char)}
    {widths : List Nat} (hwidths : pieces.map List.length = widths) {j : Nat} {piece : List Char}
    (h : pieces[j]? = some piece) : StandsAt (start widths j) piece (sep.intercalate pieces) ∧
      (j + 1 < widths.length →
        StandsAt (start widths j + piece.length) sep (sep.intercalate pieces)) := by
  subst hwidths
  obtain ⟨before, after, heq, hlength, hafter⟩ := exists_intercalate hsep h
  refine ⟨⟨before, after, heq, hlength⟩, fun hlast => ?_⟩
  rw [List.length_map] at hlast
  obtain ⟨rest, rfl⟩ := hafter hlast
  refine ⟨before ++ piece, rest, ?_, ?_⟩
  · rw [heq, List.append_assoc (before ++ piece)]
  · rw [List.length_append, hlength]

/-- How long joined pieces are is told by their lengths. -/
theorem length_intercalate {sep sep' : List Char} (hsep : sep.length = sep'.length)
    {pieces pieces' : List (List Char)}
    (h : pieces.map List.length = pieces'.map List.length) :
    (sep.intercalate pieces).length = (sep'.intercalate pieces').length := by
  induction pieces generalizing pieces' with
  | nil =>
    obtain rfl : pieces' = [] := List.map_eq_nil_iff.mp h.symm
    rfl
  | cons first more ih =>
    obtain ⟨first', more', rfl, hfirst, hmore⟩ := List.map_eq_cons_iff.mp h.symm
    have hrest := ih hmore.symm
    cases more with
    | nil =>
      obtain rfl : more' = [] := List.map_eq_nil_iff.mp hmore
      rw [List.intercalate_singleton, List.intercalate_singleton, hfirst]
    | cons second rest =>
      obtain ⟨second', rest', rfl, -, -⟩ := List.map_eq_cons_iff.mp hmore
      simp only [List.intercalate_cons_cons, List.length_append, hfirst, hsep, hrest]

/-! ## Lines -/

theorem length_cell (width : Nat) (text : List Char) : (cell width text).length = width := by
  simp only [cell, List.length_append, List.length_replicate, List.length_take]
  omega

theorem cell_eq (width : Nat) (text : List Char) :
    cell width text = text.take width ++ List.replicate (width - text.length) ' ' := by
  have hfill : width - (text.take width).length = width - text.length := by
    rw [List.length_take]
    omega
  simp only [cell, hfill]

/-- Texts in a line under the widths of their columns: the line is as long as the rule, every text
is cut or filled up to its width and stands over its dashes, and so do the bars between them. -/
structure LaidOut (widths : List Nat) (texts : List (List Char)) (l : List Char) : Prop where
  length : l.length = (rule widths).length
  column : ∀ {j w text}, widths[j]? = some w → texts[j]? = some text →
    StandsAt (start widths j) (text.take w ++ List.replicate (w - text.length) ' ') l ∧
      StandsAt (start widths j) (List.replicate w '-') (rule widths)
  bar : ∀ {j w}, widths[j]? = some w → j + 1 < widths.length →
    StandsAt (start widths j + w) [' ', '|', ' '] l ∧
      StandsAt (start widths j + w) ['-', '+', '-'] (rule widths)

theorem laidOut_line {widths : List Nat} {texts : List (List Char)}
    (h : texts.length = widths.length) : LaidOut widths texts (line widths texts) := by
  have hcells : (List.zipWith cell widths texts).map List.length = widths := by
    refine List.ext_getElem? fun j => ?_
    rw [List.getElem?_map, List.getElem?_zipWith]
    cases hw : widths[j]? with
    | none => rfl
    | some w =>
      obtain ⟨hj, -⟩ := List.getElem?_eq_some_iff.mp hw
      rw [List.getElem?_eq_getElem (h ▸ hj)]
      exact congrArg some (length_cell w _)
  have hdashes : (widths.map fun w => List.replicate w '-').map List.length = widths := by
    rw [List.map_map]
    exact (List.map_congr_left fun w _ => List.length_replicate).trans (List.map_id widths)
  have hbars : ([' ', '|', ' '] : List Char).length = 3 := rfl
  have hcrosses : (['-', '+', '-'] : List Char).length = 3 := rfl
  have hdash : ∀ {j w : Nat}, widths[j]? = some w →
      (widths.map fun w => List.replicate w '-')[j]? = some (List.replicate w '-') := by
    intro j w hw
    rw [List.getElem?_map, hw]
    rfl
  constructor
  case length => exact length_intercalate (hbars.trans hcrosses.symm) (hcells.trans hdashes.symm)
  case column =>
    intro j w text hw htext
    have hcell : (List.zipWith cell widths texts)[j]? = some (cell w text) := by
      rw [List.getElem?_zipWith, hw, htext]
    rw [← cell_eq]
    exact ⟨(standsAt_intercalate hbars hcells hcell).1,
      (standsAt_intercalate hcrosses hdashes (hdash hw)).1⟩
  case bar =>
    intro j w hw hlast
    obtain ⟨hj, -⟩ := List.getElem?_eq_some_iff.mp hw
    have hcell : ∃ text, (List.zipWith cell widths texts)[j]? = some (cell w text) := by
      rw [List.getElem?_zipWith, hw, List.getElem?_eq_getElem (h ▸ hj)]
      exact ⟨_, rfl⟩
    obtain ⟨text, hcell⟩ := hcell
    have hbar := (standsAt_intercalate hbars hcells hcell).2 hlast
    have hcross := (standsAt_intercalate hcrosses hdashes (hdash hw)).2 hlast
    rw [length_cell] at hbar
    rw [List.length_replicate] at hcross
    exact ⟨hbar, hcross⟩

/-! ## Widths -/

theorem isGreatest_foldl_max (x : Nat) (xs : List Nat) :
    IsGreatest {n | n = x ∨ n ∈ xs} (xs.foldl max x) := by
  induction xs generalizing x with
  | nil => exact ⟨Or.inl rfl, fun n hn => (hn.resolve_right List.not_mem_nil).le⟩
  | cons y ys ih =>
    obtain ⟨hmem, hupper⟩ := ih (max x y)
    have hle : max x y ≤ ys.foldl max (max x y) := hupper (Or.inl rfl)
    rw [List.foldl_cons]
    constructor
    · rcases hmem with hmax | hmem
      · rw [hmax]
        rcases Nat.le_total y x with hle | hle
        · exact Or.inl (max_eq_left hle)
        · rw [max_eq_right hle]
          exact Or.inr List.mem_cons_self
      · exact Or.inr (List.mem_cons_of_mem y hmem)
    · rintro n (rfl | hn)
      · exact (le_max_left n y).trans hle
      · rcases List.mem_cons.mp hn with rfl | hn
        · exact (le_max_right x n).trans hle
        · exact hupper (Or.inr hn)

/-- How long the header of a column and its cells are. -/
def lengths (rows : List Row) (column : String) : Set Nat :=
  {n | n = column.length ∨ ∃ row ∈ rows, (cellAt row column).length = n}

theorem width_eq (rows : List Row) (column : String) :
    ∃ longest, IsGreatest (lengths rows column) longest ∧ width rows column = min 50 longest := by
  have hgreatest := isGreatest_foldl_max column.length
    (rows.map fun row => (cellAt row column).length)
  simp only [List.mem_map] at hgreatest
  exact ⟨_, hgreatest, rfl⟩

/-! ## Newlines -/

theorem not_mem_intercalate {c : Char} {sep : List Char} {pieces : List (List Char)}
    (hsep : c ∉ sep) (h : ∀ piece ∈ pieces, c ∉ piece) : c ∉ sep.intercalate pieces := by
  intro hc
  rcases mem_intercalate hc with hc | ⟨piece, hpiece, hc⟩
  · exact hsep hc
  · exact h piece hpiece hc

/-- No text shows a newline in its column. -/
def ShowsNoNewline (widths : List Nat) (texts : List (List Char)) : Prop :=
  ∀ column ∈ widths.zip texts, '\n' ∉ column.2.take column.1

instance (widths : List Nat) (texts : List (List Char)) : Decidable (ShowsNoNewline widths texts) :=
  inferInstanceAs (Decidable (∀ column ∈ _, _))

theorem newline_not_mem_line {widths : List Nat} {texts : List (List Char)}
    (h : ShowsNoNewline widths texts) : '\n' ∉ line widths texts := by
  refine not_mem_intercalate (by decide) fun piece hpiece hnewline => ?_
  rw [← List.map_uncurry_zip_eq_zipWith] at hpiece
  obtain ⟨⟨w, text⟩, hcolumn, rfl⟩ := List.mem_map.mp hpiece
  rcases List.mem_append.mp hnewline with hnewline | hnewline
  · exact h _ hcolumn hnewline
  · exact absurd (List.eq_of_mem_replicate hnewline) (by decide)

theorem newline_not_mem_stripEnd {l : List Char} (h : '\n' ∉ l) : '\n' ∉ stripEnd l := by
  obtain ⟨blanks, -, hl⟩ := Text.exists_stripEnd_append l
  intro hc
  exact h (hl ▸ List.mem_append_left blanks hc)

theorem getLast?_stripEnd_ne {c : Char} (hc : Text.isBlank c = true) (l : List Char) :
    (stripEnd l).getLast? ≠ some c := by
  intro hlast
  rw [stripEnd, List.getLast?_reverse] at hlast
  have hhead := List.head?_dropWhile_not Text.isBlank l.reverse
  rw [hlast] at hhead
  simp only [hc] at hhead
  cases hhead

theorem mem_rule {c : Char} {widths : List Nat} (h : c ∈ rule widths) : c = '-' ∨ c = '+' := by
  by_contra hc
  obtain ⟨hdash, hcross⟩ := not_or.mp hc
  refine not_mem_intercalate ?_ (fun piece hpiece hmem => ?_) h
  · simp [hdash, hcross]
  · obtain ⟨w, -, rfl⟩ := List.mem_map.mp hpiece
    exact hdash (List.eq_of_mem_replicate hmem)

/-! ## Tables -/

/-- The texts that stand under the header for a row. -/
def rowTexts (t : Table) (row : Row) : List (List Char) :=
  t.columns.map fun c => (cellAt row c).toList

/-- The last line, which counts the rows. -/
def countLine (rows : Nat) : List Char := ("(" ++ toString rows ++ " rows)").toList

theorem countLine_eq (rows : Nat) :
    countLine rows = '(' :: Decimal.digitsOf rows ++ " rows)".toList := by
  simp [countLine, Decimal.digitsOf, Nat.toList_repr]

theorem not_mem_countLine {c : Char} (hdigit : c.isDigit = false) (h : c ∉ "( rows)".toList)
    (rows : Nat) : c ∉ countLine rows := by
  intro hc
  rw [countLine_eq, List.cons_append] at hc
  rcases List.mem_cons.mp hc with rfl | hc
  · exact h (by decide)
  rcases List.mem_append.mp hc with hc | hc
  · have hmem := Nat.isDigit_of_mem_toDigits (b := 10) (by decide) (by decide) hc
    rw [hdigit] at hmem
    cases hmem
  · exact h (List.mem_cons_of_mem _ hc)

theorem lines_eq (t : Table) : t.lines =
    stripEnd (line t.widths (t.columns.map String.toList)) :: rule t.widths ::
      (t.rows.map fun row => line t.widths (t.rowTexts row)).map stripEnd ++
        [countLine t.totalRows] := by
  rw [countLine_eq, List.map_map]
  rfl

theorem getLast?_lines_ne (t : Table) : ∀ l ∈ t.lines, l.getLast? ≠ some '\r' := by
  intro l hl hlast
  rw [lines_eq, List.cons_append, List.cons_append] at hl
  rcases List.mem_cons.mp hl with rfl | hl
  · exact getLast?_stripEnd_ne (by decide) _ hlast
  rcases List.mem_cons.mp hl with rfl | hl
  · rcases mem_rule (List.mem_of_getLast? hlast) with h | h <;> exact absurd h (by decide)
  rcases List.mem_append.mp hl with hl | hl
  · obtain ⟨row, -, rfl⟩ := List.mem_map.mp hl
    exact getLast?_stripEnd_ne (by decide) _ hlast
  · rw [List.mem_singleton.mp hl] at hlast
    exact not_mem_countLine rfl (by decide) _ (List.mem_of_getLast? hlast)

theorem newline_not_mem_lines {t : Table}
    (hheader : ShowsNoNewline t.widths (t.columns.map String.toList))
    (hrows : ∀ row ∈ t.rows, ShowsNoNewline t.widths (t.rowTexts row)) :
    ∀ l ∈ t.lines, '\n' ∉ l := by
  intro l hl
  rw [lines_eq, List.cons_append, List.cons_append] at hl
  rcases List.mem_cons.mp hl with rfl | hl
  · exact newline_not_mem_stripEnd (newline_not_mem_line hheader)
  rcases List.mem_cons.mp hl with rfl | hl
  · intro h
    rcases mem_rule h with h | h <;> exact absurd h (by decide)
  rcases List.mem_append.mp hl with hl | hl
  · obtain ⟨_, hlaid, rfl⟩ := List.mem_map.mp hl
    obtain ⟨row, hrow, rfl⟩ := List.mem_map.mp hlaid
    exact newline_not_mem_stripEnd (newline_not_mem_line (hrows row hrow))
  · rw [List.mem_singleton.mp hl]
    exact not_mem_countLine rfl (by decide) _

theorem toList_render (t : Table) : t.render.toList = t.lines.flatMap (· ++ ['\n']) := by
  rw [render, String.toList_ofList]

/-- The table of rows: the widths of its columns, its lines and where the columns stand in them.
The text has a line for each of them, and one more for every newline that is left in one; if none of
the texts shows a newline, the lines are the lines of the text. -/
theorem ofRows_aligned (rows : List Row) (columns : List String) :
    let t := ofRows rows columns
    List.Forall₂ (fun column width =>
      ∃ longest, IsGreatest (lengths rows column) longest ∧ width = min 50 longest)
      t.columns t.widths ∧
    (∃ header body, LaidOut t.widths (t.columns.map String.toList) header ∧
      List.Forall₂ (fun row l => LaidOut t.widths (t.rowTexts row) l) rows body ∧
      t.lines = stripEnd header :: rule t.widths :: body.map stripEnd ++ [countLine rows.length]) ∧
    (Text.lines t.render.toList).length =
      rows.length + 3 + (t.lines.map (List.count '\n')).sum ∧
    (ShowsNoNewline t.widths (t.columns.map String.toList) →
      (∀ row ∈ rows, ShowsNoNewline t.widths (t.rowTexts row)) →
      Text.lines t.render.toList = t.lines) := by
  intro t
  have hwidths : t.widths.length = t.columns.length := List.length_map _
  have htexts : ∀ row, (t.rowTexts row).length = t.widths.length := by
    intro row
    rw [rowTexts, List.length_map, hwidths]
  refine ⟨?_, ⟨_, _, laidOut_line ?_, ?_, t.lines_eq⟩, ?_, fun hheader hrows => ?_⟩
  · exact List.forall₂_map_right_iff.mpr
      (List.forall₂_same.mpr fun column _ => width_eq rows column)
  · rw [List.length_map, hwidths]
  · exact List.forall₂_map_right_iff.mpr
      (List.forall₂_same.mpr fun row _ => laidOut_line (htexts row))
  · have hcount : t.lines.length = rows.length + 3 := by
      rw [lines_eq]
      simp [t, ofRows]
    rw [toList_render, Text.length_lines_ended, hcount]
  · rw [toList_render]
    exact Text.lines_of_not_mem (newline_not_mem_lines hheader hrows) t.getLast?_lines_ne

/-- Visits of a city, with a note whose newline lies behind the cut. -/
def cutRows : List Row :=
  [[("城市", .str "罗马"), ("note", .str (String.ofList (List.replicate 50 'x' ++ ['\n', 'y'])))]]

theorem ofRows_aligned_cut :
    ShowsNoNewline (ofRows cutRows []).widths ((ofRows cutRows []).columns.map String.toList) ∧
      (∀ row ∈ cutRows,
        ShowsNoNewline (ofRows cutRows []).widths ((ofRows cutRows []).rowTexts row)) ∧
      (ofRows cutRows []).widths = [2, 50] ∧
      Text.lines (ofRows cutRows []).render.toList = (ofRows cutRows []).lines := by
  have hheader : ShowsNoNewline (ofRows cutRows []).widths
      ((ofRows cutRows []).columns.map String.toList) := by decide +kernel
  have hrows : ∀ row ∈ cutRows,
      ShowsNoNewline (ofRows cutRows []).widths ((ofRows cutRows []).rowTexts row) := by
    decide +kernel
  obtain ⟨-, -, -, hlines⟩ := ofRows_aligned cutRows []
  exact ⟨hheader, hrows, by decide +kernel, hlines hheader hrows⟩

/-- A note of two lines, and a city after it. -/
def splitRows : List Row := [[("note", .str "x\ny"), ("city", .str "Rome")]]

/-- A text of two lines splits the line of its row, and the city does not stand under its header. -/
theorem row_split :
    Text.lines (ofRows splitRows []).render.toList =
        ["note | city", "-----+-----", "x", "y  | Rome", "(1 rows)"].map String.toList ∧
      ¬∀ (rows : List Row) (columns : List String),
        (Text.lines (ofRows rows columns).render.toList).length = rows.length + 3 := by
  have hlines : Text.lines (ofRows splitRows []).render.toList =
      ["note | city", "-----+-----", "x", "y  | Rome", "(1 rows)"].map String.toList := by
    decide +kernel
  refine ⟨hlines, fun h => ?_⟩
  have hlength := h splitRows []
  rw [hlines] at hlength
  exact absurd hlength (by decide)

end QueryDesk.Report.Table
