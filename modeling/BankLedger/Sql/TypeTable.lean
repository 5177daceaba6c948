import BankLedger.Sql.Kind

/-!
# Type tables

A type table tells which kind the cells of a column have, from the number that a database gives to
the type of the column.  The entries stand in ascending order of that number, so an entry is found
by halving the part of the table that can still hold it.
-/

namespace BankLedger.Sql

/-- A column type of a database. -/
structure ColumnType where
  id : Nat
  name : String
  kind : Kind
deriving DecidableEq

/-- Column types in ascending order of their numbers. -/
structure TypeTable where
  entries : Array ColumnType

namespace TypeTable

/-- The entry at an index, if its number is the one searched for. -/
def entryAt? (table : TypeTable) (id index : Nat) : Option ColumnType :=
  table.entries[index]?.filter fun entry => entry.id == id

/-- Searches the `size` entries from `base` on.  While more than one is left, the upper half is kept
if it does not start beyond the number, and the lower half otherwise. -/
def search (table : TypeTable) (id base size : Nat) : Option ColumnType :=
  if _more : 1 < size then
    let half := size / 2
    match table.entries[base + half]? with
    | some entry => search table id (if id < entry.id then base else base + half) (size - half)
    | none => none
  else table.entryAt? id base
termination_by size
decreasing_by omega

/-- The entry with a given number; of several, the last. -/
def lookup (table : TypeTable) (id : Nat) : Option ColumnType :=
  table.search id 0 table.entries.size

/-- The kind of the column type with a given number, invalid if it is not listed. -/
def kindOf (table : TypeTable) (id : Nat) : Kind :=
  match table.lookup id with
  | some entry => entry.kind
  | none => .invalid

/-- The name of the column type with a given number. -/
def nameOf? (table : TypeTable) (id : Nat) : Option String :=
  (table.lookup id).map ColumnType.name

end TypeTable

end BankLedger.Sql
