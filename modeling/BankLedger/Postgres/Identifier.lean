/-!
# Delimited identifiers

A name that comes from outside is written into a statement as a delimited identifier: in double
quotes, with every quote inside written twice.
-/

namespace BankLedger.Postgres

/-- A character of a name inside the quotes. -/
def doubleQuote (character : Char) : List Char :=
  if character == '"' then ['"', '"'] else [character]

/-- A name as a delimited identifier. -/
def delimited (name : List Char) : List Char :=
  '"' :: name.flatMap doubleQuote ++ ['"']

/-- A name as a delimited identifier. -/
def quoteIdentifier (name : String) : String :=
  String.ofList (delimited name.toList)

/-- The statement that assumes a role. -/
def setRole (role : String) : String :=
  "SET ROLE " ++ quoteIdentifier role

end BankLedger.Postgres
