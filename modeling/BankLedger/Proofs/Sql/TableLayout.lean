import Mathlib.Algebra.GroupWithZero.Nat
import Mathlib.Data.List.Forall2
import BankLedger.Sql.Table

/-!
# The layout of tables

Every line of a table is a bar followed by one slot for each column, and a slot is three characters
wider than its column.  A column is as wide as the longest text in it, so no text is too long for
its slot.  Therefore all lines have the same length, and a column starts at the same offset in each
of them.
-/

namespace BankLedger.Sql.ResultSet

variable {result : ResultSet} {text : String} {width column : Nat} {texts : List String}
  {widths : List Nat}

/-- The texts in a column: the field name and the texts of the cells. -/
def columnTexts (result : ResultSet) (column : Nat) : List String :=
  (result.fields :: result.cellTexts).filterMap fun texts => texts[column]?

/-- The width of a column: the number of characters of the longest text in it. -/
def columnWidth (result : ResultSet) (column : Nat) : Nat :=
  longest (result.columnTexts column)

/-- The number of characters that some columns take up, with their blanks and bars. -/
def extent (widths : List Nat) : Nat :=
  (widths.map (· + 3)).sum

/-- The number of characters in front of the texts of a column. -/
def columnOffset (result : ResultSet) (column : Nat) : Nat :=
  2 + extent ((List.range column).map result.columnWidth)

/-- A text stands in a line at an offset, in a column of a given width: it is followed by the blanks
that fill the column, another blank and a bar. -/
def StandsAt (line text : String) (offset width : Nat) : Prop :=
  ∃ before after : List Char, before.length = offset ∧
    line.toList = before ++ text.toList ++ List.replicate (width - text.length) ' ' ++
      [' ', '|'] ++ after

/-! ## Lines -/

/-- A text in its column, up to the next bar. -/
def slot (text : String) (width : Nat) : List Char :=
  ' ' :: text.toList ++ List.replicate (width - text.length) ' ' ++ [' ', '|']

theorem toList_tableLine (texts : List String) (widths : List Nat) :
    (tableLine texts widths).toList =
      '|' :: (texts.zip widths).flatMap fun (text, width) => slot text width := by
  have each : (fun (text, width) => (s!" {padded text width} |").toList) =
      fun (text, width) => slot text width := by
    funext (text, width)
    simp [padded, slot, toString]
  rw [tableLine, String.toList_append, String.toList_join, List.flatMap_map]
  exact congrArg (fun part => '|' :: (texts.zip widths).flatMap part) each

theorem length_slot (fits : text.length ≤ width) : (slot text width).length = width + 3 := by
  simp only [slot, List.length_append, List.length_cons, List.length_nil, List.length_replicate,
    String.length_toList]
  omega

/-- Each text of a line has room in its column. -/
def Fit (texts : List String) (widths : List Nat) : Prop :=
  List.Forall₂ (fun text width => text.length ≤ width) texts widths

/-- Slots that are wide enough for their texts take up the extent of the columns. -/
theorem length_slots (fit : Fit texts widths) :
    ((texts.zip widths).flatMap fun (text, width) => slot text width).length = extent widths := by
  induction fit with
  | nil => rfl
  | cons fits _ inductionHypothesis =>
      rw [List.zip_cons_cons, List.flatMap_cons, List.length_append, inductionHypothesis,
        length_slot fits]
      rfl

theorem length_tableLine (fit : Fit texts widths) :
    (tableLine texts widths).length = 1 + extent widths := by
  rw [← String.length_toList, toList_tableLine, List.length_cons, length_slots fit, Nat.add_comm]

/-- The slot of a column comes after those of the columns before it. -/
theorem exists_slot (fit : Fit texts widths)
    (written : texts[column]? = some text) (wide : widths[column]? = some width) :
    ∃ before after : List Char, before.length = extent (widths.take column) ∧
      ((texts.zip widths).flatMap fun (text, width) => slot text width) =
        before ++ slot text width ++ after := by
  induction fit generalizing column with
  | nil => cases written
  | @cons first firstWidth texts widths fits rest inductionHypothesis =>
      cases column with
      | zero =>
          cases written
          cases wide
          exact ⟨[], _, rfl, rfl⟩
      | succ column =>
          obtain ⟨before, after, offset, split⟩ := inductionHypothesis written wide
          refine ⟨slot first firstWidth ++ before, after, ?_, ?_⟩
          · rw [List.length_append, length_slot fits, offset, List.take_succ_cons]
            rfl
          · rw [List.zip_cons_cons, List.flatMap_cons, split]
            simp only [List.append_assoc]

/-- Every text of a line stands behind the columns before it. -/
theorem standsAt_tableLine (fit : Fit texts widths)
    (written : texts[column]? = some text) (wide : widths[column]? = some width) :
    StandsAt (tableLine texts widths) text (2 + extent (widths.take column)) width := by
  obtain ⟨before, after, offset, split⟩ := exists_slot fit written wide
  refine ⟨'|' :: before ++ [' '], after, ?_, ?_⟩
  · rw [List.length_append, List.length_cons, offset, List.length_singleton]
    omega
  · rw [toList_tableLine, split, slot]
    simp only [List.append_assoc, List.cons_append, List.nil_append]

/-! ## Widths -/

/-- The widths made wide enough for the texts of one more row. -/
def widen (widths : List Nat) (texts : List String) : List Nat :=
  List.zipWith (fun width text => max width text.length) widths texts

theorem columnWidths_eq (result : ResultSet) :
    result.columnWidths = result.cellTexts.foldl widen (result.fields.map String.length) := rfl

theorem length_foldl_widen {rows : List (List String)}
    (fit : ∀ texts ∈ rows, texts.length = widths.length) :
    (rows.foldl widen widths).length = widths.length := by
  induction rows generalizing widths with
  | nil => rfl
  | cons texts rows inductionHypothesis =>
      have same : (widen widths texts).length = widths.length := by
        rw [widen, List.length_zipWith, fit texts List.mem_cons_self, Nat.min_self]
      rw [List.foldl_cons, inductionHypothesis, same]
      intro others member
      rw [same, fit others (List.mem_cons_of_mem _ member)]

/-- Each column is widened by its own texts, one row after another. -/
theorem getElem?_foldl_widen {rows : List (List String)}
    (fit : ∀ texts ∈ rows, texts.length = widths.length) (wide : widths[column]? = some width) :
    (rows.foldl widen widths)[column]? =
      some ((rows.filterMap fun texts => texts[column]?).foldl
        (fun width text => max width text.length) width) := by
  -- On the rows, for any widths so far: one row widens every column that it reaches.
  induction rows generalizing widths width with
  | nil => exact wide
  | cons texts rows inductionHypothesis =>
      have sameLength := fit texts List.mem_cons_self
      obtain ⟨inside, _⟩ := List.getElem?_eq_some_iff.mp wide
      have written : texts[column]? = some texts[column] := List.getElem?_eq_getElem _
      have wider : (widen widths texts)[column]? = some (max width texts[column].length) := by
        rw [widen, List.getElem?_zipWith, wide, written]
      rw [List.foldl_cons, inductionHypothesis ?_ wider,
        List.filterMap_cons_some (f := fun texts => texts[column]?) written, List.foldl_cons]
      intro others member
      rw [widen, List.length_zipWith, sameLength, Nat.min_self,
        fit others (List.mem_cons_of_mem _ member)]

theorem length_of_mem_cellTexts (member : texts ∈ result.cellTexts) :
    texts.length = result.fields.length := by
  obtain ⟨cells, held, rfl⟩ := List.mem_map.mp member
  rw [List.length_map, result.rows_fit cells held]

/-- The columns are as wide as the longest text in each. -/
theorem columnWidths_eq_map (result : ResultSet) :
    result.columnWidths = (List.range result.fields.length).map result.columnWidth := by
  have fit : ∀ texts ∈ result.cellTexts,
      texts.length = (result.fields.map String.length).length := by
    intro texts member
    rw [List.length_map, length_of_mem_cellTexts member]
  apply List.ext_getElem?
  intro column
  rw [columnWidths_eq]
  by_cases inside : column < result.fields.length
  · have named : result.fields[column]? = some result.fields[column] :=
      List.getElem?_eq_getElem inside
    have start : (result.fields.map String.length)[column]? =
        some result.fields[column].length := by
      rw [List.getElem?_map, named, Option.map_some]
    rw [getElem?_foldl_widen fit start, List.getElem?_map, List.getElem?_range inside,
      Option.map_some, columnWidth, longest, columnTexts,
      List.filterMap_cons_some (f := fun texts => texts[column]?) named, List.foldl_cons,
      Nat.zero_max]
  · rw [List.getElem?_eq_none, List.getElem?_eq_none]
    · simpa using inside
    · rw [length_foldl_widen fit]
      simpa using inside

/-! ## Texts in their columns -/

/-- No text is longer than the longest. -/
theorem length_le_longest (member : text ∈ texts) : text.length ≤ longest texts := by
  have grows (texts : List String) (width : Nat) :
      width ≤ texts.foldl (fun width text => max width text.length) width ∧
        ∀ text ∈ texts,
          text.length ≤ texts.foldl (fun width text => max width text.length) width := by
    induction texts generalizing width with
    | nil => exact ⟨Nat.le_refl width, List.forall_mem_nil _⟩
    | cons first others inductionHypothesis =>
        obtain ⟨start, all⟩ := inductionHypothesis (max width first.length)
        refine ⟨Nat.le_trans (Nat.le_max_left ..) start, ?_⟩
        intro text member
        rcases List.mem_cons.mp member with rfl | other
        · exact Nat.le_trans (Nat.le_max_right ..) start
        · exact all text other
  exact (grows texts 0).2 text member

theorem getElem?_map_columnWidth (result : ResultSet) {count : Nat} (inside : column < count) :
    ((List.range count).map result.columnWidth)[column]? = some (result.columnWidth column) := by
  rw [List.getElem?_map, List.getElem?_range inside, Option.map_some]

/-- The field names and the texts of every row have room in the columns. -/
theorem fit_columnWidths (member : texts ∈ result.fields :: result.cellTexts) :
    Fit texts result.columnWidths := by
  have sameLength : texts.length = result.columnWidths.length := by
    rw [columnWidths_eq_map, List.length_map, List.length_range]
    rcases List.mem_cons.mp member with rfl | row
    · rfl
    · exact length_of_mem_cellTexts row
  apply List.forall₂_iff_get.mpr
  refine ⟨sameLength, ?_⟩
  intro column inside alsoInside
  have written : texts[column]? = some texts[column] := List.getElem?_eq_getElem inside
  have inColumn : texts[column] ∈ result.columnTexts column :=
    List.mem_filterMap.mpr ⟨texts, member, written⟩
  simpa [columnWidths_eq_map, columnWidth] using length_le_longest inColumn

theorem fit_dashes (widths : List Nat) :
    Fit (widths.map fun width => String.ofList (List.replicate width '-')) widths := by
  apply List.forall₂_map_left_iff.mpr
  apply List.forall₂_same.mpr
  intro width _
  exact Nat.le_of_eq ((String.length_ofList).trans List.length_replicate)

/-- In a line whose texts have room, a text stands at the offset of its column. -/
theorem standsAt_columnOffset (fit : Fit texts result.columnWidths)
    (written : texts[column]? = some text) :
    StandsAt (tableLine texts result.columnWidths) text (result.columnOffset column)
      (result.columnWidth column) := by
  have inside : column < result.fields.length := by
    obtain ⟨bound, _⟩ := List.getElem?_eq_some_iff.mp written
    rw [fit.length_eq, columnWidths_eq_map, List.length_map, List.length_range] at bound
    exact bound
  have wide : result.columnWidths[column]? = some (result.columnWidth column) := by
    rw [columnWidths_eq_map, getElem?_map_columnWidth result inside]
  have before : result.columnWidths.take column =
      (List.range column).map result.columnWidth := by
    rw [columnWidths_eq_map, ← List.map_take, List.take_range,
      Nat.min_eq_left (Nat.le_of_lt inside)]
  have stands := standsAt_tableLine fit written wide
  rw [before] at stands
  exact stands

/-- A table is a header, a separator and one line for each row, before the summary.  All these lines
have the same number of characters, one more than the columns take up with their blanks and bars,
where a column is as wide as the longest of its name and the texts of its cells.  Each name, each
run of dashes and the text of each cell stands in full at the offset of its column, which is the
same in every line. -/
theorem table_is_aligned (result : ResultSet) :
    ∃ (header separator : String) (body : List String),
      result.table =
        String.join ((header :: separator :: body).map (· ++ "\n")) ++ result.summaryLine ∧
      body.length = result.rows.length ∧
      (∀ line ∈ header :: separator :: body, line.length =
        1 + ((List.range result.fields.length).map fun column =>
          result.columnWidth column + 3).sum) ∧
      (∀ (column : Nat) (name : String), result.fields[column]? = some name →
        StandsAt header name (result.columnOffset column) (result.columnWidth column) ∧
        StandsAt separator (String.ofList (List.replicate (result.columnWidth column) '-'))
          (result.columnOffset column) (result.columnWidth column)) ∧
      (∀ (row : Nat) (line : String) (cells : List Value), body[row]? = some line →
        result.rows[row]? = some cells → ∀ column cell, cells[column]? = some cell →
          StandsAt line cell.text (result.columnOffset column) (result.columnWidth column)) := by
  have total : extent result.columnWidths =
      ((List.range result.fields.length).map fun column => result.columnWidth column + 3).sum := by
    rw [columnWidths_eq_map, extent, List.map_map]
    rfl
  have fitNames : Fit result.fields result.columnWidths := fit_columnWidths List.mem_cons_self
  have fitRow {cells : List Value} (held : cells ∈ result.rows) :
      Fit (cells.map Value.text) result.columnWidths :=
    fit_columnWidths (List.mem_cons_of_mem _ (List.mem_map_of_mem held))
  refine ⟨_, _, _, rfl, ?count, ?lengths, ?names, ?cells⟩
  case count => rw [List.length_map, cellTexts, List.length_map]
  case lengths =>
    intro line member
    rw [← total]
    rcases List.mem_cons.mp member with rfl | member
    · exact length_tableLine fitNames
    rcases List.mem_cons.mp member with rfl | member
    · exact length_tableLine (fit_dashes result.columnWidths)
    · obtain ⟨texts, row, rfl⟩ := List.mem_map.mp member
      exact length_tableLine (fit_columnWidths (List.mem_cons_of_mem _ row))
  case names =>
    intro column name named
    obtain ⟨inside, _⟩ := List.getElem?_eq_some_iff.mp named
    constructor
    · exact standsAt_columnOffset fitNames named
    · apply standsAt_columnOffset (fit_dashes result.columnWidths)
      rw [columnWidths_eq_map, List.getElem?_map, getElem?_map_columnWidth result inside,
        Option.map_some]
  case cells =>
    intro row line cells printed held column cell written
    rw [cellTexts, List.map_map, List.getElem?_map, held, Option.map_some,
      Option.some_inj] at printed
    subst printed
    apply standsAt_columnOffset (fitRow (List.mem_of_getElem? held))
    rw [List.getElem?_map, written, Option.map_some]

/-- A number that is longer than the name of its column widens it, and the cell that pads a short
row widens another, so the lines are twenty characters long. -/
theorem table_is_aligned_around_padding :
    let result := (ofFields ["id", "naïve"] .ok "done").pushRows
      [[.int 7, .string "añá"], [.int 1234]]
    ∃ (header separator : String) (body : List String) (line : String),
      result.table =
        String.join ((header :: separator :: body).map (· ++ "\n")) ++ result.summaryLine ∧
      body[1]? = some line ∧ header.length = 20 ∧ line.length = 20 ∧
      StandsAt header "naïve" 9 9 ∧ StandsAt line "1234" 2 4 ∧ StandsAt line "<invalid>" 9 9 := by
  intro result
  obtain ⟨header, separator, body, printed, count, lengths, names, cells⟩ :=
    table_is_aligned result
  have width : result.columnWidth 0 = 4 ∧ result.columnWidth 1 = 9 := by decide +kernel
  have offset : result.columnOffset 0 = 2 ∧ result.columnOffset 1 = 9 := by decide +kernel
  have total : 1 + ((List.range result.fields.length).map fun column =>
      result.columnWidth column + 3).sum = 20 := by decide +kernel
  have inside : 1 < body.length := by
    rw [count]
    decide
  have last : body[1]? = some body[1] := List.getElem?_eq_getElem inside
  have stands := cells 1 body[1] [.int 1234, .invalid] last (by decide)
  have name := (names 1 "naïve" (by decide)).1
  have number := stands 0 (.int 1234) rfl
  have padding := stands 1 .invalid rfl
  rw [width.2, offset.2] at name padding
  rw [width.1, offset.1] at number
  refine ⟨header, separator, body, body[1], printed, last, ?_, ?_, name, number, padding⟩
  · rw [lengths header List.mem_cons_self, total]
  · rw [lengths body[1] (by simp), total]

end BankLedger.Sql.ResultSet
