import EntityQuery.Schema.Registry

/-!
# Aliases

The aliases of the tables in one statement. The tables are numbered in the order of first use, from
the table of the root; the alias of a table is the letter token of its number.
-/
namespace EntityQuery.Sql

/-- Token number `n` over the letters: `a` to `z`, then `aa`, `ab` and so on, by length and then
alphabetically. -/
def letterToken (n : Nat) : List Char :=
  let letter := Char.ofNat ('a'.toNat + n % 26)
  if n < 26 then [letter] else letterToken (n / 26 - 1) ++ [letter]
termination_by n

/-- The tables of a statement that have an alias, in the order of first use; the root's is first. -/
structure Aliases where
  primaryTable : String
  others : List String
  deriving DecidableEq, Repr, Inhabited

namespace Aliases

/-- The aliases of a statement on one table. -/
def ofPrimary (table : String) : Aliases := ⟨table, []⟩

/-- All tables that have an alias. -/
def tables (aliases : Aliases) : List String := aliases.primaryTable :: aliases.others

/-- The alias of the table with a number. -/
def token (n : Nat) : String := String.ofList (letterToken n)

/-- The alias of a table. -/
def get? (aliases : Aliases) (table : String) : Option String :=
  (aliases.tables.idxOf? table).map token

/-- The alias of the root's table. -/
def primary : String := token 0

/-- The tables with their aliases. -/
def toList (aliases : Aliases) : List (String × String) :=
  aliases.tables.zipIdx.map fun entry => (entry.1, token entry.2)

/-- The alias of a table that the registry knows; a table without one gets the next. -/
def request (aliases : Aliases) (registry : Registry) (table : String) :
    Except QueryError (String × Aliases) :=
  if (registry.byTable? table).isNone then .error (.schema (.unknownTable table))
  else
    match aliases.get? table with
    | some token => .ok (token, aliases)
    | none =>
        .ok (token aliases.tables.length, ⟨aliases.primaryTable, aliases.others ++ [table]⟩)

def size (aliases : Aliases) : Nat := aliases.tables.length

end Aliases

end EntityQuery.Sql
