import QueryDesk.Report.Csv

/-!
# Reading comma-separated text back

A reader of the format of RFC 4180, made without the writer in mind: fields between commas, records
ended by a carriage return and a newline, fields with commas, quotes or line breaks in quotes, and
quotes in those doubled.  What a blank line stands for is left open, since readers differ on it.

Nothing is lost in writing: reading gives the header and then one record a row, whatever the names
and cells hold (`read_text`).
-/

namespace QueryDesk.Report.Csv

/-- The fields of a record. -/
abbrev Fields := List (List Char)

/-! ## The reader -/

/-- Where in a record the reader is. -/
inductive Place where
  /-- At the start of a field. -/
  | opening
  /-- In a field without quotes. -/
  | bare
  /-- Between quotes. -/
  | quoted
  /-- After a quote that closes a field, or is the first of a doubled one. -/
  | closed
  /-- After a carriage return, with the records that the line stands for. -/
  | returned (line : List Fields)
deriving DecidableEq, Repr

/-- The record that ends at a place, or what a blank line stands for. -/
def line (blank : List Fields) (p : Place) (field : List Char) (fields : Fields) : List Fields :=
  if p = .opening ∧ fields = [] then blank else [fields ++ [field]]

/-- The records of a text, read on from a place with the field and the fields read before it. -/
def readFrom (blank : List Fields) (p : Place) (field : List Char) (fields : Fields) :
    List Char → Option (List Fields)
  | [] => match p with
    | .quoted | .returned _ => none
    | p => some (line [] p field fields)
  | c :: rest => match p with
    | .quoted =>
      if c = '"' then readFrom blank .closed field fields rest
      else readFrom blank .quoted (field ++ [c]) fields rest
    | .returned records =>
      if c = '\n' then (readFrom blank .opening [] [] rest).map (records ++ ·) else none
    | p =>
      if c = ',' then readFrom blank .opening [] (fields ++ [field]) rest
      else if c = '\r' then readFrom blank (.returned (line blank p field fields)) [] [] rest
      else if c = '\n' then none
      else if c = '"' then match p with
        | .opening => readFrom blank .quoted [] fields rest
        | .closed => readFrom blank .quoted (field ++ ['"']) fields rest
        | _ => none
      else if p = .closed then none
      else readFrom blank .bare (field ++ [c]) fields rest

/-- The records of a text, if it is one of comma-separated fields. -/
def read? (blank : List Fields) (s : String) : Option (List (List String)) :=
  (readFrom blank .opening [] [] s.toList).map (·.map (·.map String.ofList))

/-! ## One field -/

/-- A place where a field with some text may end. -/
inductive Ends : Place → List Char → Prop
  | empty : Ends .opening []
  | bare (s : List Char) : Ends .bare s
  | closed (s : List Char) : Ends .closed s

variable {blank : List Fields}

theorem readFrom_doubled (s field : List Char) (fields : Fields) (rest : List Char) :
    readFrom blank .quoted field fields (Text.doubled '"' s ++ '"' :: rest) =
      readFrom blank .closed (field ++ s) fields rest := by
  induction s generalizing field with
  | nil => simp [Text.doubled, readFrom]
  | cons c s ih =>
    by_cases hquote : c = '"'
    · subst hquote
      simp [Text.doubled, readFrom, ih]
    · simp [Text.doubled, readFrom, hquote, ih]

theorem readFrom_bare {s : List Char} (hs : s.any needsQuotes = false) (field : List Char)
    (fields : Fields) (rest : List Char) :
    readFrom blank .bare field fields (s ++ rest) =
      readFrom blank .bare (field ++ s) fields rest := by
  induction s generalizing field with
  | nil => simp
  | cons c s ih =>
    obtain ⟨hc, hs⟩ : needsQuotes c = false ∧ s.any needsQuotes = false := by
      simpa [List.any_cons] using hs
    simp only [needsQuotes, Bool.or_eq_false_iff, beq_eq_false_iff_ne] at hc
    simp [readFrom, hc, ih hs]

/-- A field is read as its text, whatever follows it. -/
theorem exists_ends_field (blank : List Fields) (s : List Char) : ∃ p, Ends p s ∧ ∀ fields rest,
    readFrom blank .opening [] fields (field s ++ rest) = readFrom blank p s fields rest := by
  -- the place depends on the field alone, so it is chosen before what follows is known
  unfold field
  split
  · refine ⟨.closed, .closed s, fun fields rest => ?_⟩
    simp [Text.quotedBy, readFrom, readFrom_doubled]
  · next hany =>
    have hs : s.any needsQuotes = false := by simpa using hany
    cases s with
    | nil => exact ⟨.opening, .empty, fun _ _ => rfl⟩
    | cons c s =>
      refine ⟨.bare, .bare _, fun fields rest => ?_⟩
      obtain ⟨hc, hs⟩ : needsQuotes c = false ∧ s.any needsQuotes = false := by
        simpa [List.any_cons] using hs
      simp only [needsQuotes, Bool.or_eq_false_iff, beq_eq_false_iff_ne] at hc
      simp [readFrom, hc, readFrom_bare hs]

/-! ## Records -/

theorem readFrom_comma {p : Place} {s : List Char} (h : Ends p s) (fields : Fields)
    (rest : List Char) : readFrom blank p s fields (',' :: rest) =
      readFrom blank .opening [] (fields ++ [s]) rest := by
  cases h <;> simp [readFrom]

theorem readFrom_lineBreak {p : Place} {s : List Char} (h : Ends p s) {fields : Fields}
    (hline : p ≠ .opening ∨ fields ≠ []) (rest : List Char) :
    readFrom blank p s fields ('\r' :: '\n' :: rest) =
      (readFrom blank .opening [] [] rest).map ((fields ++ [s]) :: ·) := by
  have hnotBlank : line blank p s fields = [fields ++ [s]] := by
    refine if_neg fun ⟨hp, hfields⟩ => ?_
    exact hline.elim (fun h => h hp) (fun h => h hfields)
  cases h <;> simp [readFrom, hnotBlank]

/-- Fields after others are read one by one up to the line break. -/
theorem readFrom_body {s : List Char} {ss read : Fields} (hblank : ss ≠ [] ∨ read ≠ [] ∨ s ≠ [])
    (rest : List Char) : readFrom blank .opening [] read (body (s :: ss) ++ '\r' :: '\n' :: rest) =
      (readFrom blank .opening [] [] rest).map ((read ++ s :: ss) :: ·) := by
  induction ss generalizing s read with
  | nil =>
    obtain ⟨p, hends, hfield⟩ := exists_ends_field blank s
    have hline : p ≠ .opening ∨ read ≠ [] := by
      rcases hblank with h | h | h
      · exact absurd rfl h
      · exact Or.inr h
      · left
        rintro rfl
        cases hends
        exact h rfl
    rw [body_singleton, hfield, readFrom_lineBreak hends hline]
  | cons t ss ih =>
    obtain ⟨p, hends, hfield⟩ := exists_ends_field blank s
    have hcons : body (s :: t :: ss) ++ '\r' :: '\n' :: rest =
        field s ++ ',' :: (body (t :: ss) ++ '\r' :: '\n' :: rest) := by
      rw [body_cons_cons, List.append_assoc, List.cons_append]
    rw [hcons, hfield, readFrom_comma hends, ih (Or.inr (Or.inl (by simp)))]
    simp

/-- A record is read as its fields; one without text is an empty field in quotes, and no blank
line. -/
theorem readFrom_record {fields : Fields} (h : fields ≠ []) (rest : List Char) :
    readFrom blank .opening [] [] (record fields ++ rest) =
      (readFrom blank .opening [] [] rest).map (fields :: ·) := by
  obtain ⟨s, ss, rfl⟩ := List.exists_cons_of_ne_nil h
  by_cases hempty : s = [] ∧ ss = []
  · obtain ⟨rfl, rfl⟩ := hempty
    simp [record, body_singleton, field, readFrom, line]
  · have hbody : (body (s :: ss)).isEmpty = false := by
      rw [List.isEmpty_eq_false_iff]
      cases ss with
      | nil =>
        have hs : s ≠ [] := fun hs => hempty ⟨hs, rfl⟩
        rw [body_singleton, field]
        split <;> simp [Text.quotedBy, hs]
      | cons t ss => simp [body_cons_cons]
    have hblank : ss ≠ [] ∨ ([] : Fields) ≠ [] ∨ s ≠ [] := by
      by_cases hs : s = []
      · exact Or.inl fun hss => hempty ⟨hs, hss⟩
      · exact Or.inr (Or.inr hs)
    have hrecord : record (s :: ss) ++ rest = body (s :: ss) ++ '\r' :: '\n' :: rest := by
      simp [record, hbody]
    rw [hrecord, readFrom_body hblank, List.nil_append]

/-- Records one after another are read as they are. -/
theorem readFrom_records {records : List Fields} (h : ∀ fields ∈ records, fields ≠ []) :
    readFrom blank .opening [] [] (records.flatMap record) = some records := by
  induction records with
  | nil => rfl
  | cons fields records ih =>
    rw [List.flatMap_cons, readFrom_record (h fields List.mem_cons_self),
      ih fun fields hfields => h fields (List.mem_cons_of_mem _ hfields)]
    rfl

/-! ## The whole text -/

/-- The header and the rows as fields. -/
def table (rows : List Row) (columns : List String) : List Fields :=
  let columns := effectiveColumns rows columns
  columns.map String.toList ::
    rows.map fun row => columns.map fun column => (cellAt row column).toList

theorem chars_eq {rows : List Row} (hrows : rows ≠ []) (columns : List String) :
    chars rows columns = (table rows columns).flatMap record := by
  obtain ⟨row, rows, rfl⟩ := List.exists_cons_of_ne_nil hrows
  simp [chars, table, List.flatMap_map]

/-- What a writer writes that refuses records of different lengths. -/
def write? : List Fields → Option (List Char)
  | [] => some []
  | header :: records =>
    if ∀ fields ∈ records, fields.length = header.length then
      some ((header :: records).flatMap record)
    else none

/-- Every row has as many fields as the header. -/
theorem write?_table {rows : List Row} (hrows : rows ≠ []) (columns : List String) :
    write? (table rows columns) = some (text rows columns).toList := by
  rw [text, String.toList_ofList, chars_eq hrows]
  refine if_pos fun fields hfields => ?_
  obtain ⟨row, -, rfl⟩ := List.mem_map.mp hfields
  rw [List.length_map, List.length_map]

/-- Writing rows loses nothing.  A writer that insists on records of one length accepts them, and
reading gives the columns and then, row by row, the text of the cell in each column, empty where
there is none; no blank line occurs, so it does not matter what one would stand for. -/
theorem read_text {rows : List Row} {columns : List String} (hrows : rows ≠ [])
    (hcolumns : effectiveColumns rows columns ≠ []) (blank : List Fields) :
    write? (table rows columns) = some (text rows columns).toList ∧
    read? blank (text rows columns) = some (effectiveColumns rows columns ::
      rows.map fun row => (effectiveColumns rows columns).map fun column =>
        ((Json.Members.get? column row).map cellText).getD "") := by
  refine ⟨write?_table hrows columns, ?_⟩
  have hfields : ∀ fields ∈ table rows columns, fields ≠ [] := by
    intro fields hfields
    rcases List.mem_cons.mp hfields with rfl | hfields
    · simpa using hcolumns
    · obtain ⟨row, -, rfl⟩ := List.mem_map.mp hfields
      simpa using hcolumns
  have hcell : ∀ row column, cellAt row column =
      ((Json.Members.get? column row).map cellText).getD "" := by
    intro row column
    unfold cellAt
    cases Json.Members.get? column row <;> rfl
  unfold read? text
  rw [String.toList_ofList, chars_eq hrows, readFrom_records hfields]
  simp [table, Function.comp_def, hcell]

/-- A cell with quotes, commas and line breaks, and a row without the only column. -/
theorem read_text_note : read? [] (text
    [[("note", .str "a \"b\", c\r\nd")], [("other", .int 1)]] ["note"]) =
      some [["note"], ["a \"b\", c\r\nd"], [""]] := by
  refine And.right (read_text ?_ ?_ [])
  · exact List.cons_ne_nil _ _
  · exact List.cons_ne_nil _ _

end QueryDesk.Report.Csv
