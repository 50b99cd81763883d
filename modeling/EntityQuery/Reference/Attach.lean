import EntityQuery.Reference.Lookup
import EntityQuery.Schema.Row

/-!
# Attaching rows

The rows that a lookup returns are put into the items they belong to. All rows are read before any
item is touched; then the items are set one after the other. The library sees the instances of the
entity types of an application only through what their model gives: how an instance is made from a
row, how it shows its stored fields, and how related instances are put into it.
-/
namespace EntityQuery

/-- The entity types of an application, each under the name of its entity. -/
structure Model where
  /-- The instances of an entity. -/
  Item : String → Type
  /-- Makes an instance from a row. -/
  ofRow : (entity : String) → Row → Schema → Except QueryError (Item entity)
  /-- The value of a stored field. -/
  field? : {entity : String} → Item entity → String → Option Value
  /-- Puts one related instance, or none, into a field. -/
  setOne : {source : String} → (target : String) → Item source → String → Option (Item target) →
    Except QueryError (Item source)
  /-- Puts a collection of related instances into a field. -/
  setMany : {source : String} → (target : String) → Item source → String → List (Item target) →
    Except QueryError (Item source)

/-- The result of a step over items, with the items as they are afterwards. -/
abbrev Attached (α : Type) := Except QueryError Unit × List α

namespace Lookup

/-- The key fields of a target, which must exist, with their types. -/
def keyFields (target : Schema) : List String → Except QueryError (List (String × FieldType))
  | [] => .ok []
  | name :: names => do
      let field ← target.field name
      let fields ← keyFields target names
      return (field.name, field.type) :: fields

/-- The key of a row; none if a component is null. The columns after a null are not read. -/
def rowKey? (target : Schema) (row : Row) :
    List (String × FieldType) → Except QueryError (Option (List KeyPart))
  | [] => .ok (some [])
  | (name, type) :: fields => do
      let value ← row.fieldValue target name
      let value ← (value.coerce type).mapError fun fault => .mapping (.conversion fault)
      match value.key with
      | .null => return none
      | part => return (← rowKey? target row fields).map (part :: ·)

/-- Rows read as instances, each with its key, in order. -/
abbrev Index (α : Type) := List (List KeyPart × α)

/-- Reads rows as instances. Rows without a key are skipped; for a field that holds one instance no
key may occur twice. -/
def indexRows (M : Model) (entity : String) (target : Schema) (many : Bool)
    (fields : List (String × FieldType)) (index : Index (M.Item entity)) :
    List Row → Except QueryError (Index (M.Item entity))
  | [] => .ok index
  | row :: rows => do
      match ← rowKey? target row fields with
      | none => indexRows M entity target many fields index rows
      | some key =>
          let item ← M.ofRow entity row target
          if !many && index.any (·.1 = key) then throw (.duplicateKey entity key)
          indexRows M entity target many fields (index ++ [(key, item)]) rows

/-- The instances with a key. -/
def Index.matching {α : Type} (index : Index α) (key : Option (List Value)) : List α :=
  match key with
  | none => []
  | some values => (index.filter (·.1 = keyTuple values)).map (·.2)

/-- Sets the items one after the other, up to the first that refuses. -/
def setItems {M : Model} {source : String} (lookup : Lookup) (entity : String)
    (index : Index (M.Item entity)) :
    List (M.Item source) → List (Option (List Value)) → Attached (M.Item source)
  | item :: items, key :: keys =>
      let found := index.matching key
      let set :=
        if lookup.many then M.setMany entity item lookup.field found
        else M.setOne entity item lookup.field found.head?
      match set with
      | .error e => (.error e, item :: items)
      | .ok item =>
          let rest := setItems lookup entity index items keys
          (rest.1, item :: rest.2)
  | items, _ => (.ok (), items)

/-- The instances that the rows of a lookup hold, for a number of items. -/
def readRows (M : Model) (lookup : Lookup) (entity : String) (target : Schema) (rows : List Row)
    (items : Nat) : Except QueryError (Index (M.Item entity)) := do
  if items ≠ lookup.itemKeys.length then
    throw (.mapping (.itemCount lookup.field lookup.itemKeys.length items))
  let fields ← keyFields target lookup.foreignKeys
  indexRows M entity target lookup.many fields [] rows

/-- Puts the rows of a lookup into its items. The rows are instances of `entity`. -/
def attach (M : Model) {source : String} (registry : Registry) (lookup : Lookup) (entity : String)
    (rows : List Row) (items : List (M.Item source)) : Attached (M.Item source) :=
  match (do
    let target ← registry.get lookup.target
    readRows M lookup entity target rows items.length) with
  | .error e => (.error e, items)
  | .ok index => setItems lookup entity index items lookup.itemKeys

end Lookup

end EntityQuery
