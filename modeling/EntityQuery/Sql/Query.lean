import EntityQuery.Sql.Params

/-!
# Queries as text

A statement as it goes to a database: its text, with placeholders, and the values of its parameters.
For people to read, every occurrence of a placeholder is replaced, from the left and without
overlaps. The empty pattern occurs before every character and at the end.
-/
namespace EntityQuery

namespace Text

/-- Replaces a nonempty pattern; `skip` characters still belong to the last occurrence found. -/
def replaceFrom (pattern replacement : List Char) : (skip : Nat) → List Char → List Char
  | _, [] => []
  | skip + 1, _ :: cs => replaceFrom pattern replacement skip cs
  | 0, c :: cs =>
      if pattern.isPrefixOf (c :: cs) then
        replacement ++ replaceFrom pattern replacement (pattern.length - 1) cs
      else c :: replaceFrom pattern replacement 0 cs

/-- Replaces every occurrence of a pattern. -/
def replaceAll (pattern replacement cs : List Char) : List Char :=
  if pattern.isEmpty then replacement ++ cs.flatMap fun c => c :: replacement
  else replaceFrom pattern replacement 0 cs

end Text

/-- A statement's text with the values of its parameters. `table` is the table of the root. -/
structure SqlQuery where
  sql : String
  params : Sql.Params
  table : String
  kind : StatementKind
  deriving Repr, Inhabited

namespace SqlQuery

/-- The value of a parameter. -/
def param? (query : SqlQuery) (name : String) : Option Value := query.params.get? name

/-- Whether a name is at least as long as another, in the bytes that encode them. -/
def notShorter (a b : String × Value) : Bool := b.1.utf8ByteSize ≤ a.1.utf8ByteSize

/-- The text with literals in the place of parameters, for people to read. Longer names are replaced
first, since one name can be the start of another. -/
def inline (query : SqlQuery) : String :=
  String.ofList <| (query.params.entries.mergeSort notShorter).foldl
    (fun text entry => Text.replaceAll entry.1.toList entry.2.literal.toList text)
    query.sql.toList

end SqlQuery

end EntityQuery
