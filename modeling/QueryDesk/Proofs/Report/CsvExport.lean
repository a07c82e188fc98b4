import QueryDesk.Proofs.Fallible
import QueryDesk.Proofs.Report.Paging
import QueryDesk.Proofs.Sql.Generation
import QueryDesk.Report.Export

/-!
# Every road to comma-separated text

Rows become comma-separated text when they are presented as such, when a listing or a table of them
is exported, and page by page.  On each road the columns may be chosen anew, with the keys of the
first row at hand for a default; but the columns of a finished run are never chosen again once
there are any, so all roads lead to one text (`csv_roads_agree`).

For the pages, a record is found in a text by its line break outside quotes (`splitRecord`): the
texts of the pages differ from the whole in nothing but the header at the head of each.
-/

namespace QueryDesk.Report

namespace Csv

/-! ## The first record of a text -/

/-- The first record of a text, up to its line break outside quotes, and the text after it. -/
def splitRecord (quoted : Bool) : List Char → List Char × List Char
  | [] => ([], [])
  | c :: rest =>
    if quoted = false ∧ c = '\r' ∧ rest.head? = some '\n' then (['\r', '\n'], rest.tail)
    else
      let (record, after) := splitRecord (if c = '"' then !quoted else quoted) rest
      (c :: record, after)

/-- Texts one after another, but for the first records of all texts after the first, which must be
that of the first. -/
def merged? : List String → Option String
  | [] => some ""
  | first :: others => do
    let header := (splitRecord false first.toList).1
    let bodies ← others.mapM fun other =>
      let (record, body) := splitRecord false other.toList
      if record = header then some body else none
    return String.ofList (first.toList ++ bodies.flatten)

/-- A text that no record ends in, read from between quotes or not and up to a place that is. -/
def Within (quoted : Bool) (s : List Char) (quoted' : Bool) : Prop :=
  ∀ rest, splitRecord quoted (s ++ rest) =
    (s ++ (splitRecord quoted' rest).1, (splitRecord quoted' rest).2)

namespace Within

variable {quoted quoted' quoted'' : Bool} {s t : List Char}

theorem nil : Within quoted [] quoted := fun _ => rfl

theorem append (hs : Within quoted s quoted') (ht : Within quoted' t quoted'') :
    Within quoted (s ++ t) quoted'' := by
  intro rest
  rw [List.append_assoc, hs, ht, List.append_assoc]

theorem quote : Within quoted ['"'] !quoted := by
  intro rest
  simp [splitRecord]

theorem plain {c : Char} (hquote : c ≠ '"') (hreturn : quoted = false → c ≠ '\r') :
    Within quoted [c] quoted := by
  intro rest
  have hinside : ¬(quoted = false ∧ c = '\r' ∧ rest.head? = some '\n') := fun h =>
    hreturn h.1 h.2.1
  rw [List.singleton_append, splitRecord, if_neg hinside, if_neg hquote]
  rfl

theorem doubled (s : List Char) : Within true (Text.doubled '"' s) true := by
  induction s with
  | nil => exact nil
  | cons c s ih =>
    by_cases hquote : c = '"'
    · subst hquote
      -- the first of the two quotes leaves the quoted text, the second enters it again
      have hleave : Within true ['"'] false := quote
      have henter : Within false ['"'] true := quote
      exact append hleave (append henter ih)
    · rw [Text.doubled, if_neg hquote]
      exact append (plain hquote (fun h => Bool.noConfusion h)) ih

theorem unquoted {s : List Char} (hs : s.any needsQuotes = false) : Within false s false := by
  induction s with
  | nil => exact nil
  | cons c s ih =>
    obtain ⟨hc, hs⟩ : needsQuotes c = false ∧ s.any needsQuotes = false := by
      simpa [List.any_cons] using hs
    simp only [needsQuotes, Bool.or_eq_false_iff, beq_eq_false_iff_ne] at hc
    obtain ⟨⟨⟨-, hquote⟩, hreturn⟩, -⟩ := hc
    exact append (plain hquote fun _ => hreturn) (ih hs)

theorem field (s : List Char) : Within false (field s) false := by
  unfold Csv.field
  split
  · have hopen : Within false ['"'] true := quote
    have hclose : Within true ['"'] false := quote
    exact append (append hopen (doubled s)) hclose
  · next hany => exact unquoted (by simpa using hany)

theorem body (fields : List (List Char)) : Within false (body fields) false := by
  match fields with
  | [] => exact nil
  | [f] =>
    rw [body_singleton]
    exact field f
  | f :: g :: rest =>
    have hcomma : Within false [','] false := plain (by decide) (fun _ => by decide)
    rw [body_cons_cons]
    exact append (field f) (append hcomma (body (g :: rest)))

end Within

/-- A record ends where it was written to end. -/
theorem splitRecord_record (fields : List (List Char)) (rest : List Char) :
    splitRecord false (record fields ++ rest) = (record fields, rest) := by
  have hquotes : Within false ['"', '"'] false := Within.append .quote .quote
  have hend : splitRecord false ('\r' :: '\n' :: rest) = (['\r', '\n'], rest) := rfl
  have htext : Within false (if (body fields).isEmpty then ['"', '"'] else body fields) false := by
    split
    · exact hquotes
    · exact Within.body fields
  show splitRecord false ((_ ++ ['\r', '\n']) ++ rest) = _
  rw [List.append_assoc, htext, List.cons_append, List.singleton_append, hend]
  rfl

/-! ## Pages of rows -/

def rowRecord (columns : List String) (row : Row) : List Char :=
  record (columns.map fun column => (cellAt row column).toList)

theorem effectiveColumns_of_ne_nil (rows : List Row) {columns : List String}
    (hcolumns : columns ≠ []) : effectiveColumns rows columns = columns := by
  unfold effectiveColumns
  rw [if_neg (by simpa using hcolumns)]

theorem toList_text {rows : List Row} {columns : List String} (hrows : rows ≠ [])
    (hcolumns : columns ≠ []) : (text rows columns).toList =
      record (columns.map String.toList) ++ rows.flatMap (rowRecord columns) := by
  rw [text, String.toList_ofList, chars, if_neg (by simpa using hrows),
    effectiveColumns_of_ne_nil rows hcolumns]
  rfl

/-- The texts of some pages of rows merge to the text of all their rows. -/
theorem merged_pages {columns : List String} (hcolumns : columns ≠ []) {pages : List (List Row)}
    (hsome : pages ≠ []) (hpages : ∀ rows ∈ pages, rows ≠ []) :
    merged? (pages.map fun rows => text rows columns) = some (text pages.flatten columns) := by
  obtain ⟨first, others, rfl⟩ := List.exists_cons_of_ne_nil hsome
  have hfirst : first ≠ [] := hpages first List.mem_cons_self
  have hothers : ∀ rows ∈ others, rows ≠ [] := fun rows h =>
    hpages rows (List.mem_cons_of_mem _ h)
  have hsplit : ∀ rows : List Row, rows ≠ [] → splitRecord false (text rows columns).toList =
      (record (columns.map String.toList), rows.flatMap (rowRecord columns)) := by
    intro rows hrows
    rw [toList_text hrows hcolumns, splitRecord_record]
  have hbodies : (others.map fun rows => text rows columns).mapM (fun other =>
      let (found, body) := splitRecord false other.toList
      if found = record (columns.map String.toList) then some body else none) =
      some (others.map fun rows => rows.flatMap (rowRecord columns)) := by
    clear hfirst hsome hpages
    induction others with
    | nil => rfl
    | cons rows others ih =>
      rw [List.map_cons, List.mapM_cons, hsplit rows (hothers rows List.mem_cons_self),
        ih fun rows h => hothers rows (List.mem_cons_of_mem _ h)]
      simp
  have hflatten : (first :: others).flatten ≠ [] := by simp [hfirst]
  have hrest : others.flatten.flatMap (rowRecord columns) =
      (others.map fun rows => rows.flatMap (rowRecord columns)).flatten := by
    rw [List.flatten_eq_flatMap, List.flatMap_assoc, List.flatMap_def]
    rfl
  have htexts : (text first columns).toList ++
      (others.map fun rows => rows.flatMap (rowRecord columns)).flatten =
      (text (first :: others).flatten columns).toList := by
    rw [toList_text hfirst hcolumns, toList_text hflatten hcolumns, List.flatten_cons,
      List.flatMap_append, hrest, List.append_assoc]
  rw [List.map_cons, merged?, hsplit first hfirst]
  show (List.mapM _ _ >>= _) = _
  rw [hbodies]
  show some (String.ofList ((text first columns).toList ++ _)) = _
  rw [htexts, String.ofList_toList]

end Csv

/-! ## Envelopes -/

namespace Envelope

/-- The number of pages that an answer's rows fill, as its first page tells it. -/
def pageCount (e : Envelope) (pageSize : Nat) : Nat :=
  match (e.paginate 1 pageSize).data? with
  | some (.page p) => p.pagination.totalPages
  | _ => 0

/-- The pages of an answer, from the first to the last. -/
def split (e : Envelope) (pageSize : Nat) : List Envelope :=
  (List.range' 1 (e.pageCount pageSize)).map fun page => e.paginate page pageSize

variable {e : Envelope} {d : Payload} {columns : List String} {rows : List Row}

theorem exportText_of_tabular (hcontent : e.content = .success d)
    (hd : d.tabular? = some (columns, rows)) :
    e.exportText .csv = .ok (Csv.text rows columns) := by
  unfold exportText
  rw [hcontent]
  cases d with
  | csv text => cases hd
  | chart c => cases hd
  | listing l => cases hd; rfl
  | table t => cases hd; rfl
  | page p => cases hd; rfl

theorem content_paginate (hcontent : e.content = .success d)
    (hd : d.tabular? = some (columns, rows)) (page pageSize : Nat) :
    (e.paginate page pageSize).content =
      .success (.page (.of columns rows page pageSize)) := by
  unfold paginate
  rw [hcontent]
  show Content.success (d.paginate page pageSize) = _
  rw [Payload.paginate, hd]

theorem exportText_paginate (hcontent : e.content = .success d)
    (hd : d.tabular? = some (columns, rows)) (page pageSize : Nat) :
    (e.paginate page pageSize).exportText .csv =
      .ok (Csv.text (Report.paginate rows page pageSize).1 columns) :=
  exportText_of_tabular (content_paginate hcontent hd page pageSize) rfl

theorem pageCount_of_tabular (hcontent : e.content = .success d)
    (hd : d.tabular? = some (columns, rows)) (pageSize : Nat) :
    e.pageCount pageSize = (Pagination.of 1 pageSize rows.length).totalPages := by
  unfold pageCount data?
  rw [content_paginate hcontent hd]
  rfl

/-- The pages of a tabular answer are exported one by one, and the texts merge to that of all its
rows. -/
theorem split_merges (hcontent : e.content = .success d)
    (hd : d.tabular? = some (columns, rows)) (hrows : rows ≠ []) (hcolumns : columns ≠ [])
    (hlength : rows.length ≤ maxWord) (pageSize : Nat) :
    ∃ texts, (e.split pageSize).mapM (·.exportText .csv) = .ok texts ∧
      Csv.merged? texts = some (Csv.text rows columns) := by
  have hpartitions := partitions_paginate hlength 1 pageSize
  have hnotEmpty := fun page => items_paginate_ne_nil_iff hlength page pageSize
  have hcount := pageCount_of_tabular hcontent hd pageSize
  unfold split
  rw [hcount]
  have hsome : 0 < (Pagination.of 1 pageSize rows.length).totalPages := by
    rw [Pagination.lt_totalPages_iff, Nat.zero_mul]
    exact List.length_pos_iff.mpr hrows
  have hjoined := hpartitions.joined
  have htotal : ∀ page, (Report.paginate rows page pageSize).2.totalPages =
      (Pagination.of 1 pageSize rows.length).totalPages := fun _ => rfl
  simp only [htotal] at hnotEmpty
  generalize (Pagination.of 1 pageSize rows.length).totalPages = total at *
  refine ⟨((List.range' 1 total).map fun page => (Report.paginate rows page pageSize).1).map
    fun rows => Csv.text rows columns, ?_, ?_⟩
  · rw [mapM_eq_ok, List.forall₂_map_left_iff, List.map_map, List.forall₂_map_right_iff,
      List.forall₂_same]
    exact fun page _ => exportText_paginate hcontent hd page pageSize
  · rw [Csv.merged_pages hcolumns, ← List.flatMap_def, hjoined]
    · simp only [ne_eq, List.map_eq_nil_iff, List.range'_eq_nil_iff]
      omega
    · intro slice hslice
      obtain ⟨page, hpage, rfl⟩ := List.mem_map.mp hslice
      have hle := List.mem_range'_1.mp hpage
      exact (hnotEmpty page).mpr (by omega)

end Envelope

/-- All roads from a finished run to comma-separated text agree.  With a row and a column at least,
presenting the run as comma-separated text, exporting its listing or its table, and exporting the
pages of either and merging them without the repeated headers, give one text. -/
theorem csv_roads_agree {o : Outcome} {taskId : Option String} {columns : List String}
    {rows : List Row} {time : Float} (ho : o = .completed taskId columns rows time)
    (hrows : o.rows ≠ []) (hcolumns : o.columns ≠ []) (hlength : o.rows.length ≤ maxWord)
    (q : Query) (now : String) :
    ∃ text, (Envelope.ofOutcome now o q .csv).data? = some (.csv text) ∧
      (Envelope.ofOutcome now o q .csv).exportText .csv = .ok text ∧
      ∀ format ∈ [Format.json, Format.table],
        (Envelope.ofOutcome now o q format).exportText .csv = .ok text ∧
        ∀ pageSize, ∃ texts,
          ((Envelope.ofOutcome now o q format).split pageSize).mapM (·.exportText .csv) =
            .ok texts ∧ Csv.merged? texts = some text := by
  have hcontent : ∀ format, (Envelope.ofOutcome now o q format).content =
      .success (.ofRows format o.rows o.columns q) := by
    intro format
    rw [ho]
    rfl
  have htable : (Payload.ofRows .table o.rows o.columns q).tabular? =
      some (o.columns, o.rows) := by
    show some (effectiveColumns o.rows o.columns, o.rows) = _
    rw [Csv.effectiveColumns_of_ne_nil o.rows hcolumns]
  have htabular : ∀ format ∈ [Format.json, Format.table],
      (Payload.ofRows format o.rows o.columns q).tabular? = some (o.columns, o.rows) := by
    intro format hformat
    rcases List.mem_pair.mp hformat with rfl | rfl
    · rfl
    · exact htable
  refine ⟨Csv.text o.rows o.columns, ?_, ?_, fun format hformat => ⟨?_, fun pageSize => ?_⟩⟩
  · rw [Envelope.data?, hcontent]
    rfl
  · rw [Envelope.exportText, hcontent]
    rfl
  · exact Envelope.exportText_of_tabular (hcontent format) (htabular format hformat)
  · exact Envelope.split_merges (hcontent format) (htabular format hformat) hrows hcolumns hlength
      pageSize

/-- A run over two rows that share no column, where the first row names the columns. -/
def cities : Outcome :=
  .completed none [] [[("city", .str "Paris, \"the\" city")], [("visitors", .int 3)]] 0.5

def visits : Query := .ofTable "visits" [] none none

theorem csv_roads_agree_cities :
    ∃ text, (Envelope.ofOutcome "" cities visits .csv).data? = some (.csv text) ∧
      (Envelope.ofOutcome "" cities visits .table).exportText .csv = .ok text ∧
      ∃ texts, ((Envelope.ofOutcome "" cities visits .table).split 1).mapM (·.exportText .csv) =
        .ok texts ∧ Csv.merged? texts = some text := by
  have hlength : cities.rows.length ≤ maxWord := by decide
  obtain ⟨text, hcsv, -, hroads⟩ := csv_roads_agree (o := cities) rfl (List.cons_ne_nil _ _)
    (List.cons_ne_nil _ _) hlength visits ""
  obtain ⟨htable, hpages⟩ := hroads .table (by decide)
  exact ⟨text, hcsv, htable, hpages 1⟩

end QueryDesk.Report
