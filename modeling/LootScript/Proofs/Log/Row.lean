import LootScript.Log.Row

/-!
# Reading a log back

A row is read field by field. Inside of its quotation marks a field may hold anything, since a mark
that belongs to it is written twice; the mark that closes the field is the only one that stands
alone. The line break behind a row takes the reader back to where rows begin, so a log is read one
row after the other, and what is read is what was written.
-/
namespace LootScript

namespace Log

namespace Row

namespace Reader

variable {rows : List (List String)} {fields : List String} {place : Place}

/-- Where a quoted field may begin. -/
inductive AtField : Place → Prop
  | rowStart : AtField .rowStart
  | fieldStart : AtField .fieldStart

/-! ## Fields -/

/-- Inside of a field, the doubled marks are read as the characters that they stand for. -/
theorem foldl_doubled (chars read : List Char) :
    (chars.flatMap fun c => if c = '"' then ['"', '"'] else [c]).foldl step
        ⟨rows, fields, read, .quoted⟩ =
      ⟨rows, fields, chars.reverse ++ read, .quoted⟩ := by
  induction chars generalizing read with
  | nil => rfl
  | cons c rest ih =>
    have onward : (if c = '"' then ['"', '"'] else [c]).foldl step ⟨rows, fields, read, .quoted⟩ =
        ⟨rows, fields, c :: read, .quoted⟩ := by
      split
      · next mark =>
        rw [mark]
        rfl
      · next other => simp [step, push, other]
    rw [List.flatMap_cons, List.foldl_append, onward, ih, List.reverse_cons, List.append_assoc,
      List.singleton_append]

/-- After a field the reader stands behind the mark that closes it. -/
theorem foldl_quote (begins : AtField place) (field : String) :
    (quote field).foldl step ⟨rows, fields, [], place⟩ =
      ⟨rows, fields, field.toList.reverse, .mark⟩ := by
  have opened : step ⟨rows, fields, [], place⟩ '"' = ⟨rows, fields, [], .quoted⟩ := by
    cases begins <;> rfl
  rw [quote, List.foldl_cons, opened, List.foldl_append, foldl_doubled, List.append_nil]
  rfl

/-! ## Rows -/

/-- A row that is written out to the end of its line is read as it is. -/
theorem foldl_fields (begins : AtField place) (field : String) (rest : List String) :
    (List.intercalate [';'] ((field :: rest).map quote) ++ ['\n']).foldl step
        ⟨rows, fields, [], place⟩ =
      ⟨(fields.reverse ++ field :: rest) :: rows, [], [], .rowStart⟩ := by
  -- On the fields still to come: each of them begins after a separator, the first one at `place`.
  induction rest generalizing field fields place with
  | nil =>
    have ended : step ⟨rows, fields, field.toList.reverse, .mark⟩ '\n' =
        ⟨(fields.reverse ++ [field]) :: rows, [], [], .rowStart⟩ := by
      simp [step, unquoted, endRow, endField]
    have alone : List.intercalate [';'] ([field].map quote) = quote field := by simp
    rw [alone, List.foldl_append, foldl_quote begins]
    exact ended
  | cons next rest ih =>
    have separated : step ⟨rows, fields, field.toList.reverse, .mark⟩ ';' =
        ⟨rows, field :: fields, [], .fieldStart⟩ := by
      simp [step, unquoted, endField]
    have split : List.intercalate [';'] ((field :: next :: rest).map quote) =
        quote field ++ ';' :: List.intercalate [';'] ((next :: rest).map quote) := by
      simp [List.intercalate_cons_cons]
    rw [split, List.append_assoc, List.foldl_append, foldl_quote begins, List.cons_append,
      List.foldl_cons, separated, ih .fieldStart, List.reverse_cons, List.append_assoc,
      List.singleton_append]

theorem foldl_write (fields : List String) (filled : fields ≠ []) :
    (write fields ++ "\n").toList.foldl step ⟨rows, [], [], .rowStart⟩ =
      ⟨fields :: rows, [], [], .rowStart⟩ := by
  obtain ⟨field, rest, rfl⟩ := List.exists_cons_of_ne_nil filled
  rw [String.toList_append, write, String.toList_ofList]
  exact foldl_fields .rowStart field rest

/-- Rows are added to those that have been read before. -/
theorem foldl_table (table : List (List String)) (filled : ∀ fields ∈ table, fields ≠ []) :
    (String.join (table.map fun fields => write fields ++ "\n")).toList.foldl step
        ⟨rows, [], [], .rowStart⟩ =
      ⟨table.reverse ++ rows, [], [], .rowStart⟩ := by
  induction table generalizing rows with
  | nil => rfl
  | cons fields rest ih =>
    rw [List.forall_mem_cons] at filled
    rw [List.map_cons, String.join_cons, String.toList_append, List.foldl_append,
      foldl_write fields filled.1, ih filled.2, List.reverse_cons, List.append_assoc,
      List.singleton_append]

end Reader

/-- A table none of whose rows is empty is read back as it was written. -/
theorem readAll_write (table : List (List String)) (filled : ∀ fields ∈ table, fields ≠ []) :
    readAll (String.join (table.map fun fields => write fields ++ "\n")) = table := by
  rw [readAll, Reader.start, Reader.foldl_table table filled, List.append_nil, Reader.finish,
    List.reverse_reverse]

end Row

theorem readAll_rowsWith (showTime : Int → String) (nameLevel : Level → String)
    (records : List Record) :
    Row.readAll (String.join (records.map fun record =>
        record.rowWith showTime nameLevel ++ "\n")) =
      records.map (Record.fieldsWith showTime nameLevel) := by
  have written : (records.map fun record => record.rowWith showTime nameLevel ++ "\n") =
      (records.map (Record.fieldsWith showTime nameLevel)).map
        fun fields => Row.write fields ++ "\n" := by
    rw [List.map_map]
    rfl
  have filled : ∀ fields ∈ records.map (Record.fieldsWith showTime nameLevel), fields ≠ [] := by
    intro fields member
    obtain ⟨record, -, rfl⟩ := List.mem_map.mp member
    exact List.cons_ne_nil _ _
  rw [written]
  exact Row.readAll_write _ filled

/--
A log with a row for each record is read back without loss: there is one row for each record, in
order, with its five fields, whatever characters the fields hold. This does not depend on the time
zone in which times are shown, or on the names that levels have been given.
-/
theorem readAll_rows (records : List Record) :
    let fields (showTime : Int → String) (nameLevel : Level → String) (record : Record) :=
      [showTime record.created, nameLevel record.level, record.logger,
        record.originName ++ ":" ++ record.line,
        match record.exception with
        | none => record.message
        | some exception => record.message ++ "\n" ++ exception.line]
    Row.readAll (String.join (records.map fun record => record.row ++ "\n")) =
        records.map (fields timeText Level.name) ∧
      ∀ showTime nameLevel,
        Row.readAll (String.join (records.map fun record =>
            record.rowWith showTime nameLevel ++ "\n")) =
          records.map (fields showTime nameLevel) := by
  intro fields
  exact ⟨readAll_rowsWith timeText Level.name records,
    fun showTime nameLevel => readAll_rowsWith showTime nameLevel records⟩

end Log

end LootScript
