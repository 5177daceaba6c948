import BankLedger.Proofs.Json.SortedObject
import BankLedger.Proofs.Sql.ResultSet

/-!
# Rows as JSON

A row is written as an object by field name.  Fields may share a name: then the object holds the
last of their cells that is not invalid, while a cell asked for by name is the first one, whatever
it is.  So the two agree when the names are distinct.  The cells with which a short row is padded
are invalid, and leave no trace in the object.
-/

namespace BankLedger.Sql

open BankLedger.Json

theorem Value.json?_eq_none_iff {value : Value} : value.json? = none ↔ value = .invalid := by
  cases value <;> simp [Value.json?]

namespace ResultSet

variable {fields : List String} {cells : List Value} {name : String} {value : Value} {json : Json}

/-- A cell of a row stands in a column under a name. -/
def StandsUnder (fields : List String) (cells : List Value) (name : String) (column : Nat)
    (value : Value) : Prop :=
  fields[column]? = some name ∧ cells[column]? = some value

/-- A cell is the last one of a row under a name, not counting invalid ones. -/
def IsLastUnder (fields : List String) (cells : List Value) (name : String) (value : Value) :
    Prop :=
  ∃ column, StandsUnder fields cells name column value ∧ value ≠ .invalid ∧
    ∀ later other, column < later → StandsUnder fields cells name later other → other = .invalid

/-- The members that the cells of a row give, in the order of the fields. -/
def namedJson (fields : List String) (cells : List Value) : List (String × Json) :=
  (fields.zip cells).filterMap fun (field, cell) => cell.json?.map fun json => (field, json)

/-- The members of the object of a row. -/
def rowMembers (fields : List String) (cells : List Value) : List (String × Json) :=
  membersByName (namedJson fields cells)

theorem rowJson_eq (fields : List String) (cells : List Value) :
    rowJson fields cells = .object (rowMembers fields cells) := rfl

/-! ## The cells under a name -/

section Columns

variable {field : String} {cell : Value}

theorem standsUnder_zero :
    StandsUnder (field :: fields) (cell :: cells) name 0 value ↔ field = name ∧ cell = value := by
  simp [StandsUnder]

theorem standsUnder_succ {column : Nat} :
    StandsUnder (field :: fields) (cell :: cells) name (column + 1) value ↔
      StandsUnder fields cells name column value := by
  simp [StandsUnder]

theorem not_standsUnder_nil {column : Nat} : ¬StandsUnder [] cells name column value := by
  simp [StandsUnder]

theorem not_standsUnder_of_no_cells {column : Nat} : ¬StandsUnder fields [] name column value := by
  simp [StandsUnder]

/-- The first column holds the last cell under a name if no later column does. -/
theorem isLastUnder_cons :
    IsLastUnder (field :: fields) (cell :: cells) name value ↔
      IsLastUnder fields cells name value ∨
        (∀ column other, StandsUnder fields cells name column other → other = .invalid) ∧
          field = name ∧ cell = value ∧ value ≠ .invalid := by
  constructor
  · rintro ⟨column, stands, valid, last⟩
    cases column with
    | zero =>
        obtain ⟨sameName, sameCell⟩ := standsUnder_zero.mp stands
        refine .inr ⟨?_, sameName, sameCell, valid⟩
        intro later other found
        exact last (later + 1) other (Nat.succ_pos later) (standsUnder_succ.mpr found)
    | succ column =>
        refine .inl ⟨column, standsUnder_succ.mp stands, valid, ?_⟩
        intro later other after found
        exact last (later + 1) other (Nat.succ_lt_succ after) (standsUnder_succ.mpr found)
  · rintro (⟨column, stands, valid, last⟩ | ⟨none, sameName, sameCell, valid⟩)
    · refine ⟨column + 1, standsUnder_succ.mpr stands, valid, ?_⟩
      intro later other after found
      cases later with
      | zero => exact absurd after (Nat.not_lt_zero _)
      | succ later =>
          exact last later other (Nat.lt_of_succ_lt_succ after) (standsUnder_succ.mp found)
    · refine ⟨0, standsUnder_zero.mpr ⟨sameName, sameCell⟩, valid, ?_⟩
      intro later other after found
      cases later with
      | zero => exact absurd after (Nat.lt_irrefl 0)
      | succ later => exact none later other (standsUnder_succ.mp found)

end Columns

/-! ## The members of an object -/

/-- What the last cell that has a JSON form gives under a name. -/
def lastJson? (fields : List String) (cells : List Value) (name : String) : Option Json :=
  (namedJson fields cells).reverse.lookup name

theorem lookup_rowMembers (fields : List String) (cells : List Value) (name : String) :
    (rowMembers fields cells).lookup name = lastJson? fields cells name :=
  lookup_membersByName name (namedJson fields cells)

theorem lastJson?_nil : lastJson? [] cells name = none := rfl

theorem lastJson?_of_no_cells : lastJson? fields [] name = none := by
  rw [lastJson?, namedJson, List.zip_nil_right]
  rfl

theorem namedJson_cons (field : String) (cell : Value) :
    namedJson (field :: fields) (cell :: cells) =
      (cell.json?.map fun json => (field, json)).toList ++ namedJson fields cells := by
  cases written : cell.json? <;> simp [namedJson, written]

/-- The first column gives its cell if no later column gives one under the name. -/
theorem lastJson?_cons (field : String) (cell : Value) :
    lastJson? (field :: fields) (cell :: cells) name =
      (lastJson? fields cells name).or (if field = name then cell.json? else none) := by
  rw [lastJson?, namedJson_cons, List.reverse_append, List.lookup_append, ← lastJson?]
  congr 1
  cases cell.json? with
  | none => exact (ite_self none).symm
  | some json =>
      change [(field, json)].lookup name = _
      by_cases same : field = name
      · rw [if_pos same, same, List.lookup_cons_self]
      · rw [if_neg same, List.lookup_cons, beq_false_of_ne (Ne.symm same)]
        rfl

/-- Nothing is written under a name exactly if all its cells are invalid. -/
theorem lastJson?_eq_none_iff :
    lastJson? fields cells name = none ↔
      ∀ column value, StandsUnder fields cells name column value → value = .invalid := by
  induction fields generalizing cells with
  | nil =>
      constructor
      · intro _ column value stands
        exact absurd stands not_standsUnder_nil
      · intro _
        exact lastJson?_nil
  | cons field fields inductionHypothesis =>
      cases cells with
      | nil =>
          constructor
          · intro _ column value stands
            exact absurd stands not_standsUnder_of_no_cells
          · intro _
            exact lastJson?_of_no_cells
      | cons cell cells =>
          rw [lastJson?_cons, Option.or_eq_none_iff, inductionHypothesis]
          constructor
          · rintro ⟨later, first⟩ column value stands
            cases column with
            | zero =>
                obtain ⟨sameName, rfl⟩ := standsUnder_zero.mp stands
                rw [if_pos sameName] at first
                exact Value.json?_eq_none_iff.mp first
            | succ column => exact later column value (standsUnder_succ.mp stands)
          · intro all
            constructor
            · intro column value stands
              exact all (column + 1) value (standsUnder_succ.mpr stands)
            · split
              next sameName =>
                apply Value.json?_eq_none_iff.mpr
                exact all 0 cell (standsUnder_zero.mpr ⟨sameName, rfl⟩)
              next => rfl

/-- What is written under a name is the JSON form of the last cell under it that is not invalid. -/
theorem lastJson?_eq_some_iff :
    lastJson? fields cells name = some json ↔
      ∃ value, IsLastUnder fields cells name value ∧ value.json? = some json := by
  induction fields generalizing cells with
  | nil =>
      rw [lastJson?_nil]
      constructor
      · intro absent
        cases absent
      · rintro ⟨value, ⟨column, stands, _⟩, _⟩
        exact absurd stands not_standsUnder_nil
  | cons field fields inductionHypothesis =>
      cases cells with
      | nil =>
          rw [lastJson?_of_no_cells]
          constructor
          · intro absent
            cases absent
          · rintro ⟨value, ⟨column, stands, _⟩, _⟩
            exact absurd stands not_standsUnder_of_no_cells
      | cons cell cells =>
          rw [lastJson?_cons, Option.or_eq_some_iff, inductionHypothesis, lastJson?_eq_none_iff]
          constructor
          · rintro (⟨value, last, written⟩ | ⟨none, first⟩)
            · exact ⟨value, isLastUnder_cons.mpr (.inl last), written⟩
            · split at first
              next sameName =>
                have valid : cell ≠ .invalid := by
                  rintro rfl
                  cases first
                exact ⟨cell, isLastUnder_cons.mpr (.inr ⟨none, sameName, rfl, valid⟩), first⟩
              next => cases first
          · rintro ⟨value, last, written⟩
            rcases isLastUnder_cons.mp last with later | ⟨none, sameName, rfl, _⟩
            · exact .inl ⟨value, later, written⟩
            · exact .inr ⟨none, (if_pos sameName).trans written⟩


/-! ## Padded and cut rows -/

theorem fitRow_succ_nil (width : Nat) : fitRow (width + 1) [] = .invalid :: fitRow width [] := by
  simp [fitRow, List.replicate_succ]

theorem fitRow_succ_cons (width : Nat) (cell : Value) (cells : List Value) :
    fitRow (width + 1) (cell :: cells) = cell :: fitRow width cells := by
  simp [fitRow]

/-- The cells that pad a row are not written, and those that are cut off have no name. -/
theorem lastJson?_fitRow (fields : List String) (cells : List Value) (name : String) :
    lastJson? fields (fitRow fields.length cells) name = lastJson? fields cells name := by
  induction fields generalizing cells with
  | nil => rfl
  | cons field fields inductionHypothesis =>
      cases cells with
      | nil =>
          rw [List.length_cons, fitRow_succ_nil, lastJson?_cons, inductionHypothesis,
            lastJson?_of_no_cells, lastJson?_of_no_cells]
          exact ite_self none
      | cons cell cells =>
          rw [List.length_cons, fitRow_succ_cons, lastJson?_cons, lastJson?_cons,
            inductionHypothesis]

/-! ## Cells by name -/

theorem fieldIndex?_eq_none_iff {result : ResultSet} :
    result.fieldIndex? name = none ↔ name ∉ result.fields := by
  rw [fieldIndex?, List.findIdx?_eq_none_iff]
  simp only [beq_eq_false_iff_ne, ne_eq, List.forall_mem_ne']

theorem getElem?_of_fieldIndex? {result : ResultSet} {column : Nat}
    (found : result.fieldIndex? name = some column) : result.fields[column]? = some name := by
  obtain ⟨inside, same, _⟩ := List.findIdx?_eq_some_iff_getElem.mp found
  rw [List.getElem?_eq_getElem inside, beq_iff_eq.mp same]

/-- The cells of an added row are those that were given, as far as there are fields. -/
theorem cell_pushRows {rows : List (List Value)} {row column : Nat} (code : Code)
    (message : String) (held : rows[row]? = some cells) (inside : column < fields.length) :
    ((ofFields fields code message).pushRows rows).cell row column =
      cells[column]?.getD .invalid := by
  have stored : ((ofFields fields code message).pushRows rows).rows[row]? =
      some (fitRow fields.length cells) := by
    rw [rows_pushRows_ofFields, List.getElem?_map, held, Option.map_some]
  rw [cell, stored, Option.bind_some, getElem?_fitRow, if_pos inside, Option.getD_some]

/-- If no name is repeated, the only cell under a name is the last. -/
theorem isLastUnder_iff_of_nodup (distinct : fields.Nodup) {column : Nat}
    (named : fields[column]? = some name) :
    IsLastUnder fields cells name value ↔ cells[column]? = some value ∧ value ≠ .invalid := by
  obtain ⟨inside, _⟩ := List.getElem?_eq_some_iff.mp named
  have only {other : Nat} (sameName : fields[other]? = some name) : column = other :=
    (List.getElem?_inj inside distinct).mp (named.trans sameName.symm)
  constructor
  · rintro ⟨other, ⟨sameName, there⟩, valid, _⟩
    obtain rfl := only sameName
    exact ⟨there, valid⟩
  · rintro ⟨there, valid⟩
    refine ⟨column, ⟨named, there⟩, valid, ?_⟩
    intro later other after stands
    exact absurd (only stands.1) (Nat.ne_of_lt after)

/-- If no name is repeated, what is written under a name is its only cell. -/
theorem lastJson?_of_nodup (distinct : fields.Nodup) {column : Nat}
    (named : fields[column]? = some name) :
    lastJson? fields cells name = (cells[column]?.getD .invalid).json? := by
  apply Option.ext
  intro json
  simp only [lastJson?_eq_some_iff, isLastUnder_iff_of_nodup distinct named]
  cases cells[column]? with
  | none => simp [Value.json?]
  | some cell =>
      constructor
      · rintro ⟨value, ⟨same, _⟩, written⟩
        cases same
        exact written
      · intro written
        refine ⟨cell, ⟨rfl, ?_⟩, written⟩
        rintro rfl
        cases written

/-- If no name is repeated, what is written under a name is the cell asked for by that name. -/
theorem lastJson?_eq_json?_cellNamed {rows : List (List Value)} {row : Nat} (code : Code)
    (message : String) (distinct : fields.Nodup) (held : rows[row]? = some cells)
    (name : String) :
    lastJson? fields cells name =
      (((ofFields fields code message).pushRows rows).cellNamed row name).json? := by
  have sameFields : ((ofFields fields code message).pushRows rows).fields = fields :=
    fields_pushRows ..
  rw [cellNamed]
  split
  next column found =>
    have named := getElem?_of_fieldIndex? found
    rw [sameFields] at named
    obtain ⟨inside, _⟩ := List.getElem?_eq_some_iff.mp named
    rw [cell_pushRows code message held inside]
    exact lastJson?_of_nodup distinct named
  next absent =>
    rw [fieldIndex?_eq_none_iff, sameFields] at absent
    apply lastJson?_eq_none_iff.mpr
    intro column value stands
    exact absurd (List.mem_of_getElem? stands.1) absent

/-! ## Objects of rows -/

/-- Rows that are added are written as one object each, in their order.  The names in an object
ascend, and they are the names under which the row has a cell that is not invalid; what stands under
a name is the JSON form of the last such cell.  If no field name is repeated, a name is in the
object exactly if the cell asked for by that name is not invalid, and the JSON form of that cell
stands under it. -/
theorem json_rows_agree_with_named_cells (fields : List String) (code : Code) (message : String)
    (rows : List (List Value)) :
    let result := (ofFields fields code message).pushRows rows
    ∃ objects : List (List (String × Json)),
      result.rowsJson = .array (objects.map .object) ∧ objects.length = rows.length ∧
      ∀ row cells members, rows[row]? = some cells → objects[row]? = some members →
        Ascending members ∧
        (∀ name, name ∈ members.map Prod.fst ↔
          ∃ column value, StandsUnder fields cells name column value ∧ value ≠ .invalid) ∧
        (∀ name json, members.lookup name = some json ↔
          ∃ value, IsLastUnder fields cells name value ∧ value.json? = some json) ∧
        (fields.Nodup → ∀ name,
          (name ∈ members.map Prod.fst ↔ result.cellNamed row name ≠ .invalid) ∧
          members.lookup name = (result.cellNamed row name).json?) := by
  intro result
  -- The objects are made of the rows as they are kept, and described by the rows as they came.
  refine ⟨rows.map fun cells => rowMembers fields (fitRow fields.length cells), ?_,
    List.length_map _, ?_⟩
  · have sameFields : result.fields = fields := fields_pushRows ..
    rw [rowsJson, rows_pushRows_ofFields, sameFields, List.map_map, List.map_map]
    exact congrArg Json.array (List.map_congr_left fun cells _ => rowJson_eq fields _)
  · intro row cells members held made
    rw [List.getElem?_map, held, Option.map_some, Option.some_inj] at made
    subst made
    have found (name : String) :
        (rowMembers fields (fitRow fields.length cells)).lookup name =
          lastJson? fields cells name := by
      rw [lookup_rowMembers, lastJson?_fitRow]
    refine ⟨ascending_membersByName _, ?names, ?values, ?distinct⟩
    case names =>
      intro name
      rw [mem_names_iff, found, Ne, lastJson?_eq_none_iff]
      simp
    case values =>
      intro name json
      rw [found]
      exact lastJson?_eq_some_iff
    case distinct =>
      intro distinct name
      have same := lastJson?_eq_json?_cellNamed code message distinct held name
      rw [mem_names_iff, found, same, Ne, Value.json?_eq_none_iff]
      exact ⟨Iff.rfl, rfl⟩

/-- A row of one cell is padded with an invalid one, whose name is not in the object of the row. -/
theorem json_rows_agree_with_named_cells_of_short_rows :
    let result := (ofFields ["id", "name"] .ok "done").pushRows [[.int 1, .null], [.int 2]]
    ∃ (objects : List (List (String × Json))) (members : List (String × Json)),
      result.rowsJson = .array (objects.map .object) ∧ objects[1]? = some members ∧
      members.lookup "id" = some (.integer 2) ∧
      result.cellNamed 1 "name" = .invalid ∧ "name" ∉ members.map Prod.fst := by
  intro result
  obtain ⟨objects, written, count, each⟩ := json_rows_agree_with_named_cells ["id", "name"] .ok
    "done" [[.int 1, .null], [.int 2]]
  have inside : 1 < objects.length := by
    rw [count]
    decide
  obtain ⟨_, _, _, named⟩ := each 1 _ objects[1] rfl (List.getElem?_eq_getElem inside)
  have byName := named (by decide)
  have absent : result.cellNamed 1 "name" = .invalid := by decide +kernel
  refine ⟨objects, objects[1], written, List.getElem?_eq_getElem inside, ?_, absent, ?_⟩
  · exact (byName "id").2
  · intro present
    exact (byName "name").1.mp present absent

/-- Of two cells under one name the last is written, but not if it is invalid. -/
example :
    (rowJson ["id", "name", "id"] [.int 1, .null, .int 7]).compact =
        "\x7b\"id\":7,\"name\":null\x7d" ∧
      (rowJson ["id", "name", "id"] [.int 1, .null, .invalid]).compact =
        "\x7b\"id\":1,\"name\":null\x7d" := by
  decide +kernel

end ResultSet

end BankLedger.Sql
