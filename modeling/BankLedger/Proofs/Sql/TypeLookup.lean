import Mathlib.Data.List.Nodup
import BankLedger.Postgres.Types

/-!
# Looking up types

An ordered table is searched by halving the part that can still hold the entry.  What is left out
on the right has greater numbers, and what is left out on the left has smaller ones or the same: so
the search ends at the last entry whose number is not greater than the one searched for.  If that
entry has the number it is the one that a search through the whole table finds first from the end,
and otherwise no entry has it.
-/

namespace BankLedger.Sql.TypeTable

variable {table : TypeTable} {id base size : Nat}

/-- The numbers of the entries never descend. -/
def Ordered (table : TypeTable) : Prop :=
  table.entries.toList.Pairwise fun entry later => entry.id ≤ later.id

/-- No number belongs to two entries. -/
def Distinct (table : TypeTable) : Prop :=
  (table.entries.toList.map ColumnType.id).Nodup

/-- If each number is less than the next, the table is ordered and no number is repeated. -/
theorem ordered_and_distinct
    (ascending : table.entries.toList.IsChain fun entry next => entry.id < next.id) :
    table.Ordered ∧ table.Distinct := by
  have trans : IsTrans ColumnType fun entry later => entry.id < later.id :=
    ⟨fun _ _ _ => Nat.lt_trans⟩
  have apart := List.isChain_iff_pairwise.mp ascending
  constructor
  · exact apart.imp Nat.le_of_lt
  · exact List.pairwise_map.mpr (apart.imp Nat.ne_of_lt)

/-- The entry that a search through all entries, from the last to the first, finds under a
number. -/
def searchAll (table : TypeTable) (id : Nat) : Option ColumnType :=
  table.entries.toList.reverse.find? fun entry => entry.id == id

theorem Ordered.id_le (ordered : table.Ordered) {index other : Nat} {entry later : ColumnType}
    (before : index ≤ other) (held : table.entries[index]? = some entry)
    (alsoHeld : table.entries[other]? = some later) : entry.id ≤ later.id := by
  rcases Nat.lt_or_eq_of_le before with less | rfl
  · rw [← Array.getElem?_toList] at held alsoHeld
    obtain ⟨inside, rfl⟩ := List.getElem?_eq_some_iff.mp held
    obtain ⟨alsoInside, rfl⟩ := List.getElem?_eq_some_iff.mp alsoHeld
    exact List.pairwise_iff_getElem.mp ordered index other inside alsoInside less
  · rw [held] at alsoHeld
    cases alsoHeld
    exact Nat.le_refl _

/-! ## The part of the table that is left -/

/-- The `size` entries from `base` on are what is left of a search: those behind them have greater
numbers, and the first of them does not, unless the table starts there. -/
structure Window (table : TypeTable) (id base size : Nat) : Prop where
  inside : base + size ≤ table.entries.size
  front : base = 0 ∨ ∃ entry, table.entries[base]? = some entry ∧ entry.id ≤ id
  behind : ∀ index entry, base + size ≤ index → table.entries[index]? = some entry →
    id < entry.id

/-- At the beginning the whole table is left. -/
theorem window_all (table : TypeTable) (id : Nat) : table.Window id 0 table.entries.size where
  inside := Nat.le_of_eq (Nat.zero_add _)
  front := .inl rfl
  behind := by
    intro index entry beyond held
    rw [Nat.zero_add] at beyond
    rw [Array.getElem?_eq_none beyond] at held
    cases held

namespace Window

/-- The lower half is left if the upper half starts beyond the number. -/
theorem lower (ordered : table.Ordered) (window : table.Window id base size) {half : Nat}
    {middle : ColumnType} (halved : 2 * half ≤ size)
    (held : table.entries[base + half]? = some middle) (beyond : id < middle.id) :
    table.Window id base (size - half) where
  inside := by
    have inside := window.inside
    omega
  front := window.front
  behind := by
    intro index entry later found
    by_cases outside : base + size ≤ index
    · exact window.behind index entry outside found
    · calc
        id < middle.id := beyond
        _ ≤ entry.id := ordered.id_le (by omega) held found

/-- The upper half is left if it does not start beyond the number. -/
theorem upper (window : table.Window id base size) {half : Nat} {middle : ColumnType}
    (halved : 2 * half ≤ size) (held : table.entries[base + half]? = some middle)
    (within : middle.id ≤ id) : table.Window id (base + half) (size - half) where
  inside := by
    have inside := window.inside
    omega
  front := .inr ⟨middle, held, within⟩
  behind := by
    intro index entry later found
    exact window.behind index entry (by omega) found

end Window

/-! ## The search -/

/-- While more than one entry is left, the search goes on in one of the halves. -/
theorem search_of_more {middle : ColumnType} (more : 1 < size)
    (held : table.entries[base + size / 2]? = some middle) :
    table.search id base size =
      table.search id (if id < middle.id then base else base + size / 2) (size - size / 2) := by
  rw [search, dif_pos more]
  simp only [held]

theorem search_one (table : TypeTable) (id base : Nat) :
    table.search id base 1 = table.entryAt? id base := by
  rw [search, dif_neg (Nat.lt_irrefl 1)]

/-- A search goes on until one entry is left, and looks whether that entry has the number. -/
theorem Window.search_ends (ordered : table.Ordered) (nonempty : 0 < size)
    (window : table.Window id base size) :
    ∃ last, table.Window id last 1 ∧ table.search id base size = table.entryAt? id last := by
  -- On the number of entries that are left: either half is shorter, and is a window again.
  induction size using Nat.strongRecOn generalizing base with
  | ind size inductionHypothesis =>
      by_cases more : 1 < size
      · have inside := window.inside
        have middle : base + size / 2 < table.entries.size := by omega
        have held := Array.getElem?_eq_getElem middle
        have shorter : size - size / 2 < size := by omega
        have left : 0 < size - size / 2 := by omega
        rw [search_of_more more held]
        split
        next beyond =>
          apply inductionHypothesis _ shorter left
          exact window.lower ordered (by omega) held beyond
        next within =>
          apply inductionHypothesis _ shorter left
          exact window.upper (by omega) held (Nat.not_lt.mp within)
      · obtain rfl : size = 1 := by omega
        exact ⟨base, window, search_one table id base⟩

/-- No entry behind the last one that is left has the number. -/
theorem Window.find?_behind {last : Nat} (window : table.Window id last 1) :
    (table.entries.toList.drop (last + 1)).reverse.find? (fun entry => entry.id == id) = none := by
  rw [List.find?_eq_none]
  intro entry member
  obtain ⟨index, found⟩ := List.getElem?_of_mem (List.mem_reverse.mp member)
  rw [List.getElem?_drop, Array.getElem?_toList] at found
  have greater := window.behind _ entry (Nat.le_add_right ..) found
  simpa using Nat.ne_of_gt greater

/-- No entry in front of the last one that is left has the number, unless that one has it too. -/
theorem Window.find?_front (ordered : table.Ordered) {last : Nat} (window : table.Window id last 1)
    {entry : ColumnType} (held : table.entries[last]? = some entry) (other : entry.id ≠ id) :
    (table.entries.toList.take last).reverse.find? (fun entry => entry.id == id) = none := by
  rcases window.front with rfl | ⟨first, isFirst, within⟩
  · rfl
  · rw [held] at isFirst
    cases isFirst
    rw [List.find?_eq_none]
    intro earlier member
    obtain ⟨index, found⟩ := List.getElem?_of_mem (List.mem_reverse.mp member)
    rw [List.getElem?_take, Option.ite_none_right_eq_some, Array.getElem?_toList] at found
    have smaller : earlier.id < id := by
      calc
        earlier.id ≤ entry.id := ordered.id_le (Nat.le_of_lt found.1) found.2 held
        _ < id := Nat.lt_of_le_of_ne within other
    simpa using Nat.ne_of_lt smaller

/-- The last entry that is left has the number exactly if a search through all entries finds one,
and is what that search finds. -/
theorem Window.entryAt?_eq_searchAll (ordered : table.Ordered) {last : Nat}
    (window : table.Window id last 1) : table.entryAt? id last = table.searchAll id := by
  have inside : last < table.entries.toList.length := window.inside
  have held : table.entries[last]? = some table.entries.toList[last] :=
    Array.getElem?_eq_getElem window.inside
  have parts : table.entries.toList.take last ++ table.entries.toList[last] ::
      table.entries.toList.drop (last + 1) = table.entries.toList := by
    rw [← List.drop_eq_getElem_cons inside, List.take_append_drop]
  rw [searchAll, ← parts, List.reverse_append, List.reverse_cons, List.append_assoc,
    List.find?_append, window.find?_behind, Option.none_or, List.singleton_append, entryAt?, held]
  by_cases same : table.entries.toList[last].id = id
  · rw [List.find?_cons_of_pos (by simpa using same)]
    exact Option.filter_some_pos (by simpa using same)
  · rw [List.find?_cons_of_neg (by simpa using same), window.find?_front ordered held same]
    exact Option.filter_some_neg (by simpa using same)

/-- Halving an ordered table finds what a search through all its entries finds. -/
theorem lookup_eq_searchAll (ordered : table.Ordered) (id : Nat) :
    table.lookup id = table.searchAll id := by
  rw [lookup]
  rcases Nat.eq_zero_or_pos table.entries.size with empty | nonempty
  · have noEntries : table.entries = #[] := Array.eq_empty_of_size_eq_zero empty
    rw [searchAll, empty, noEntries, search]
    simp [entryAt?, noEntries]
  · obtain ⟨last, window, answer⟩ := (window_all table id).search_ends ordered nonempty
    rw [answer, window.entryAt?_eq_searchAll ordered]

/-! ## What is found -/

theorem searchAll_eq_none_iff :
    table.searchAll id = none ↔ ∀ entry ∈ table.entries, entry.id ≠ id := by
  simp [searchAll]

theorem mem_of_searchAll {entry : ColumnType} (found : table.searchAll id = some entry) :
    entry ∈ table.entries ∧ entry.id = id := by
  constructor
  · simpa using List.mem_of_find?_eq_some found
  · simpa using List.find?_some found

/-- If no number belongs to two entries, every entry is found under its number. -/
theorem searchAll_of_distinct (distinct : table.Distinct) {entry : ColumnType}
    (member : entry ∈ table.entries) : table.searchAll entry.id = some entry := by
  cases answer : table.searchAll entry.id with
  | none => exact absurd rfl (searchAll_eq_none_iff.mp answer entry member)
  | some found =>
      obtain ⟨held, same⟩ := mem_of_searchAll answer
      rw [List.inj_on_of_nodup_map distinct held.val member.val same]

/-- Looking up a number agrees with a search through all entries.  Nothing is found exactly if no
entry has the number, and then the kind is invalid and there is no name.  Whatever is found is an
entry of the table with that number, and the kind and the name are those of the entry; if no number
belongs to two entries, it is the only one. -/
theorem lookup_agrees_with_linear_search (ordered : table.Ordered) (id : Nat) :
    table.lookup id = table.searchAll id ∧
    (table.lookup id = none ↔ ∀ entry ∈ table.entries, entry.id ≠ id) ∧
    (table.lookup id = none → table.kindOf id = .invalid ∧ table.nameOf? id = none) ∧
    (∀ entry, table.lookup id = some entry → entry ∈ table.entries ∧ entry.id = id ∧
      table.kindOf id = entry.kind ∧ table.nameOf? id = some entry.name) ∧
    (table.Distinct →
      ∀ entry, table.lookup id = some entry ↔ entry ∈ table.entries ∧ entry.id = id) := by
  have same := lookup_eq_searchAll ordered id
  refine ⟨same, ?absent, ?unlisted, ?listed, ?only⟩
  case absent =>
    rw [same]
    exact searchAll_eq_none_iff
  case unlisted =>
    intro nothing
    rw [kindOf, nameOf?, nothing]
    exact ⟨rfl, rfl⟩
  case listed =>
    intro entry found
    obtain ⟨member, named⟩ := mem_of_searchAll (same.symm.trans found)
    rw [kindOf, nameOf?, found]
    exact ⟨member, named, rfl, rfl⟩
  case only =>
    intro distinct entry
    rw [same]
    constructor
    · exact mem_of_searchAll
    · rintro ⟨member, rfl⟩
      exact searchAll_of_distinct distinct member

/-- The types of Postgres are such a table, without repeated numbers: the type of arrays of integers
is the only one found under its number, and under a number that lies between two listed ones there
is none. -/
theorem lookup_agrees_with_linear_search_on_postgres_types :
    Postgres.types.Ordered ∧ Postgres.types.Distinct ∧
      Postgres.types.lookup 1007 = some ⟨1007, "_int4", .intArray⟩ ∧
      Postgres.types.kindOf 1007 = .intArray ∧
      (∀ entry ∈ Postgres.types.entries, entry.id = 1007 → entry.name = "_int4") ∧
      Postgres.types.lookup 5037 = none ∧ Postgres.types.kindOf 5037 = .invalid := by
  obtain ⟨ordered, distinct⟩ : Postgres.types.Ordered ∧ Postgres.types.Distinct :=
    ordered_and_distinct (by decide +kernel)
  obtain ⟨searched, _, _, listed, only⟩ := lookup_agrees_with_linear_search ordered 1007
  obtain ⟨alsoSearched, _, unlisted, _, _⟩ := lookup_agrees_with_linear_search ordered 5037
  have found := searched.trans (by decide +kernel : _ = some ⟨1007, "_int4", .intArray⟩)
  have missing := alsoSearched.trans (by decide +kernel : _ = none)
  refine ⟨ordered, distinct, found, (listed _ found).2.2.1, ?_, missing, (unlisted missing).1⟩
  intro entry member named
  have alsoFound := (only distinct entry).mpr ⟨member, named⟩
  rw [found] at alsoFound
  cases alsoFound
  rfl

/-- Of several entries with one number, the last is found. -/
example :
    lookup ⟨#[⟨16, "bool", .bool⟩, ⟨20, "int8", .int⟩, ⟨20, "int8 again", .string⟩]⟩ 20 =
      some ⟨20, "int8 again", .string⟩ := by
  rw [lookup_eq_searchAll (by simp [Ordered])]
  rfl

end BankLedger.Sql.TypeTable
