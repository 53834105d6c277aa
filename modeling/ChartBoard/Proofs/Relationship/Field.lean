import ChartBoard.Proofs.Text.Blank
import ChartBoard.Proofs.Text.Search
import ChartBoard.Relationship.Field

/-!
# Fields read back

* `Field.parse_of_bare` says that a reference without a point is a column of the base table.
* `Field.parse_qualified` says what a table and a column with a point between them mean, and
  `Field.parse_qualified_eq_iff` when they mean that column of that table.
-/

namespace ChartBoard.Relationship.Field

/-- True of a table and a column that are read back as they are with a point between them: the table
has no point of its own, and the column does not end with a blank. -/
structure Spelled (table column : String) : Prop where
  table : '.' ∉ table.toList
  column : Text.trimEnd column.toList = column.toList

theorem split_trim (reference : String) : split (Text.trim reference) = split reference := by
  unfold split
  rw [Text.toList_trim, Text.trimChars_trimChars]

theorem parse_trim (base reference : String) :
    parse base (Text.trim reference) = parse base reference := by
  rw [parse, split_trim, parse]

theorem parse_of_bare (base : String) {reference : String} (h : '.' ∉ reference.toList) :
    parse base reference = ⟨base, Text.trim reference⟩ := by
  have hcut : Text.split? ['.'] (Text.trimChars reference.toList) = none :=
    Text.split?_eq_none fun hmem => h (Text.mem_of_mem_trimChars hmem)
  simp only [parse, split, hcut]
  rfl

section

variable {table : String} (base column : String) (hne : table ≠ "")
  (htrimmed : Text.trim table = table)

include hne htrimmed

/-- What a reference of a table and a column is cut in, the blanks at its ends aside. -/
theorem trimChars_qualified : Text.trimChars (table ++ "." ++ column).toList =
    table.toList ++ '.' :: Text.trimEnd column.toList := by
  have hchars : (table ++ "." ++ column).toList = table.toList ++ '.' :: column.toList := by
    simp [String.toList_append]
  rw [hchars]
  refine Text.trimChars_append_cons ?_ ?_ (by decide) _
  · simpa using hne
  · rw [← Text.toList_trim, htrimmed]

/-- A table without a point is read back from before the first one, the column from after it. -/
theorem parse_qualified (hpoint : '.' ∉ table.toList) : parse base (table ++ "." ++ column) =
    ⟨table, String.ofList (Text.trimEnd column.toList)⟩ := by
  have hcut : Text.split? ['.'] (table.toList ++ '.' :: Text.trimEnd column.toList) =
      some (table.toList, Text.trimEnd column.toList) := Text.split?_append hpoint _
  simp only [parse, split, trimChars_qualified column hne htrimmed, hcut, Option.getD_some,
    String.ofList_toList]

/-- Of a table with a point in its name only the part before the point is read. -/
theorem table_parse_qualified (hpoint : '.' ∈ table.toList) :
    '.' ∉ (parse base (table ++ "." ++ column)).table.toList := by
  obtain ⟨before, after, hchars, hbefore⟩ := List.eq_append_cons_of_mem hpoint
  have hcut : Text.split? ['.'] (table.toList ++ '.' :: Text.trimEnd column.toList) =
      some (before, after ++ '.' :: Text.trimEnd column.toList) := by
    rw [hchars, List.append_assoc, List.cons_append]
    exact Text.split?_append hbefore _
  simp only [parse, split, trimChars_qualified column hne htrimmed, hcut, Option.getD_some,
    String.toList_ofList]
  exact hbefore

theorem parse_qualified_eq_iff :
    parse base (table ++ "." ++ column) = ⟨table, column⟩ ↔ Spelled table column := by
  constructor
  · intro h
    have hpoint : '.' ∉ table.toList := fun hpoint => by
      have hread := table_parse_qualified base column hne htrimmed hpoint
      rw [h] at hread
      exact hread hpoint
    rw [parse_qualified base column hne htrimmed hpoint] at h
    refine ⟨hpoint, ?_⟩
    rw [← String.toList_ofList (l := Text.trimEnd column.toList), (Field.mk.inj h).2]
  · intro h
    rw [parse_qualified base column hne htrimmed h.table, h.column, String.ofList_toList]

end

end ChartBoard.Relationship.Field
