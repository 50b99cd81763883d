import EntityQuery.Proofs.Reference.Keys
import EntityQuery.Proofs.Schema.JoinKeys

/-!
# How lookups are derived

What is looked up, and by which fields, depends on the schemas and the reference clause alone; the
items only add their keys. The clauses of a lookup are its key predicate and the children of the
reference, of which only predicates and orderings are let through.
-/
namespace EntityQuery

/-- The schema declares a field of the name with the type. -/
def Schema.Declares (schema : Schema) (name : String) (type : FieldType) : Prop :=
  ∃ field, schema.field name = .ok field ∧ field.type = type

namespace Lookup

/-- The lookup for a reference clause without items, and the fields that make the key of an item. -/
def outline (registry : Registry) (source target : String) (node : Clause) :
    Except QueryError (Lookup × List (String × FieldType)) := do
  if node.kind ≠ .reference then throw (.compile (.notReference node.kind))
  let field ← Sql.referenceField source node.expr
  let sourceSchema ← registry.get source
  let targetSchema ← registry.get target
  let navigation ← sourceSchema.navigation field
  let keys ← JoinKeys.derive sourceSchema field targetSchema
  let types ← fieldTypes targetSchema keys.foreignKeys
  return (⟨source, field, target, navigation.many, keys.referenceKeys, keys.foreignKeys, []⟩,
    keys.referenceKeys.zip types)

/-- A lookup with the keys of items. -/
def withItems (outline : Lookup × List (String × FieldType)) (items : List FieldReader) : Lookup :=
  { outline.1 with itemKeys := items.map (itemKey? · outline.2) }

/-- The items only add their keys. -/
theorem derive_eq (registry : Registry) (source target : String) (node : Clause)
    (items : List FieldReader) :
    derive registry source target node items =
      (withItems · items) <$> outline registry source target node := by
  by_cases hkind : node.kind ≠ .reference
  · simp only [derive, outline, if_pos hkind]
    rfl
  · simp only [derive, outline, if_neg hkind, map_bind]
    rfl

/-- What is known of the outline of a lookup on the target `schema`. -/
structure OutlineOf (registry : Registry) (target : String) (schema : Schema) (lookup : Lookup)
    (fields : List (String × FieldType)) : Prop where
  schema_eq : registry.get target = .ok schema
  target_eq : lookup.target = target
  foreignKeys_ne : lookup.foreignKeys ≠ []
  paired : lookup.referenceKeys.length = lookup.foreignKeys.length
  fields_eq : ∃ types, fieldTypes schema lookup.foreignKeys = .ok types ∧
    fields = lookup.referenceKeys.zip types

theorem outlineOf_of_ok {registry : Registry} {source target : String} {node : Clause}
    {lookup : Lookup} {fields : List (String × FieldType)}
    (h : outline registry source target node = .ok (lookup, fields)) :
    ∃ schema, OutlineOf registry target schema lookup fields := by
  unfold outline at h
  by_cases hkind : node.kind ≠ .reference
  · rw [if_pos hkind] at h
    cases h
  rw [if_neg hkind] at h
  obtain ⟨field, -, h⟩ := except_bind_eq_ok_iff.1 h
  obtain ⟨sourceSchema, -, h⟩ := except_bind_eq_ok_iff.1 h
  obtain ⟨schema, hschema, h⟩ := except_bind_eq_ok_iff.1 h
  obtain ⟨navigation, -, h⟩ := except_bind_eq_ok_iff.1 h
  obtain ⟨keys, hkeys, h⟩ := except_bind_eq_ok_iff.1 h
  obtain ⟨types, htypes, h⟩ := except_bind_eq_ok_iff.1 h
  cases h
  obtain ⟨hne, hpaired, -, -⟩ := JoinKeys.checked_of_derive hkeys
  exact ⟨schema, hschema, rfl, hne, hpaired, types, htypes, rfl⟩

theorem forall₂_fieldTypes {schema : Schema} {names : List String} {types : List FieldType}
    (h : fieldTypes schema names = .ok types) : List.Forall₂ schema.Declares names types := by
  induction names generalizing types with
  | nil =>
      cases h
      exact .nil
  | cons name names ih =>
      obtain ⟨field, hfield, h⟩ := except_bind_eq_ok_iff.1 h
      obtain ⟨later, hlater, h⟩ := except_bind_eq_ok_iff.1 h
      cases h
      exact .cons ⟨field, hfield, rfl⟩ (ih hlater)

theorem exists_fieldTypes {schema : Schema} {names : List String}
    (h : ∀ name ∈ names, ∃ field, schema.field name = .ok field) :
    ∃ types, fieldTypes schema names = .ok types := by
  induction names with
  | nil => exact ⟨[], rfl⟩
  | cons name names ih =>
      obtain ⟨⟨field, hfield⟩, hnames⟩ := List.forall_mem_cons.1 h
      obtain ⟨types, htypes⟩ := ih hnames
      exact ⟨field.type :: types,
        except_bind_eq_ok_iff.2 ⟨field, hfield, except_bind_eq_ok_iff.2 ⟨types, htypes, rfl⟩⟩⟩

/-- A reference has a lookup over any items, if keys are derived for the field that it names. -/
theorem exists_derive {registry : Registry} {source target : String} {node : Clause}
    {field : String} {sourceSchema targetSchema : Schema} {keys : JoinKeys}
    (hkind : node.kind = .reference) (hfield : Sql.referenceField source node.expr = .ok field)
    (hsource : registry.get source = .ok sourceSchema)
    (htarget : registry.get target = .ok targetSchema)
    (hkeys : JoinKeys.derive sourceSchema field targetSchema = .ok keys)
    (items : List FieldReader) :
    ∃ lookup, derive registry source target node items = .ok lookup ∧
      lookup.referenceKeys = keys.referenceKeys ∧ lookup.foreignKeys = keys.foreignKeys := by
  obtain ⟨navigation, hnavigation, -, -, hchecked⟩ := JoinKeys.derive_eq_ok_iff.1 hkeys
  obtain ⟨types, htypes⟩ := exists_fieldTypes hchecked.foreigns
  refine ⟨⟨source, field, target, navigation.many, keys.referenceKeys, keys.foreignKeys,
    items.map (itemKey? · (keys.referenceKeys.zip types))⟩, ?_, rfl, rfl⟩
  unfold derive
  rw [if_neg (not_not.2 hkind)]
  refine except_bind_eq_ok_iff.2 ⟨field, hfield, except_bind_eq_ok_iff.2
    ⟨sourceSchema, hsource, except_bind_eq_ok_iff.2 ⟨targetSchema, htarget, ?_⟩⟩⟩
  exact except_bind_eq_ok_iff.2 ⟨navigation, hnavigation, except_bind_eq_ok_iff.2
    ⟨keys, hkeys, except_bind_eq_ok_iff.2 ⟨types, htypes, rfl⟩⟩⟩

/-- The kinds of clauses that constrain a reference. -/
def constrains : ClauseKind → Bool
  | .filter | .orderBy | .orderByDescending => true
  | _ => false

/-- Children are added as they are, if all of them constrain the reference. -/
theorem addChildren_eq_ok_iff {field : String} {clauses clauses' : Clauses}
    {children : List Clause} : addChildren field clauses children = .ok clauses' ↔
      (∀ child ∈ children, constrains child.kind = true) ∧ clauses' = clauses.extend children := by
  induction children generalizing clauses with
  | nil =>
      constructor
      · intro h
        cases h
        exact ⟨by simp, rfl⟩
      · rintro ⟨-, rfl⟩
        rfl
  | cons child children ih =>
      rw [addChildren, List.forall_mem_cons, Clauses.extend_cons]
      cases hkind : child.kind with
      | filter | orderBy | orderByDescending => simpa [constrains] using ih
      | set | groupBy | distinctBy | limit | count | reference => simp [constrains]

/-- The clauses of a lookup with a key predicate. -/
def clausesFor (predicate : Expr) (children : List Clause) : Clauses :=
  (Clauses.empty.push (.of .filter predicate)).extend children

/-- Without a key predicate there is no query, whatever the children are. -/
theorem query?_of_none {lookup : Lookup} (h : lookup.predicate? = none) (registry : Registry)
    (children : List Clause) : lookup.query? registry children = .ok none := by
  simp only [query?, clauses?, h]
  rfl

/-- A key predicate is compiled along with the children. -/
theorem query?_of_some {lookup : Lookup} {predicate : Expr} (h : lookup.predicate? = some predicate)
    (registry : Registry) {children : List Clause}
    (hchildren : ∀ child ∈ children, constrains child.kind = true) :
    lookup.query? registry children =
      some <$> Sql.compile registry lookup.target (clausesFor predicate children) := by
  have hadd : addChildren lookup.field (Clauses.empty.push (.of .filter predicate)) children =
      .ok (clausesFor predicate children) := addChildren_eq_ok_iff.2 ⟨hchildren, rfl⟩
  simp only [query?, clauses?, h, hadd]
  rfl

/-- A lookup with a query is one with a key predicate, which compiles along with the children. -/
theorem predicate_of_query? {lookup : Lookup} {registry : Registry} {children : List Clause}
    {query : SqlQuery} (h : lookup.query? registry children = .ok (some query)) :
    ∃ predicate, lookup.predicate? = some predicate ∧
      (∀ child ∈ children, constrains child.kind = true) ∧
      Sql.compile registry lookup.target (clausesFor predicate children) = .ok query := by
  rcases hpredicate : lookup.predicate? with _ | predicate
  · rw [query?_of_none hpredicate] at h
    cases h
  have hchildren : ∀ child ∈ children, constrains child.kind = true := by
    rcases hadd : addChildren lookup.field (Clauses.empty.push (.of .filter predicate)) children
      with e | clauses
    · simp only [query?, clauses?, hpredicate, hadd] at h
      cases h
    · exact (addChildren_eq_ok_iff.1 hadd).1
  rw [query?_of_some hpredicate registry hchildren] at h
  obtain ⟨compiled, hcompiled, hsome⟩ := except_map_eq_ok_iff.1 h
  obtain rfl : compiled = query := Option.some.inj hsome
  exact ⟨predicate, rfl, hchildren, hcompiled⟩

/-- Preparing a lookup is making its query, once it is derived. -/
theorem prepared_of_derive {registry : Registry} {source target : String} {node : Clause}
    {items : List FieldReader} {lookup : Lookup}
    (h : derive registry source target node items = .ok lookup) :
    PreparedLookup.of registry source target node items =
      PreparedLookup.mk lookup <$> lookup.query? registry node.children := by
  unfold PreparedLookup.of
  rw [h]
  show (do
    let query ← lookup.query? registry node.children
    return PreparedLookup.mk lookup query) = _
  cases lookup.query? registry node.children <;> rfl

/-- A prepared lookup has been derived, and its query made. -/
theorem derived_of_prepared {registry : Registry} {source target : String} {node : Clause}
    {items : List FieldReader} {prepared : PreparedLookup}
    (h : PreparedLookup.of registry source target node items = .ok prepared) :
    derive registry source target node items = .ok prepared.lookup ∧
      prepared.lookup.query? registry node.children = .ok prepared.query := by
  obtain ⟨lookup, hlookup, h⟩ := except_bind_eq_ok_iff.1 h
  obtain ⟨query, hquery, h⟩ := except_bind_eq_ok_iff.1 h
  cases h
  exact ⟨hlookup, hquery⟩

/-- With an outline, it is derived. -/
theorem prepared_eq {registry : Registry} {source target : String} {node : Clause}
    {shape : Lookup} {fields : List (String × FieldType)}
    (h : outline registry source target node = .ok (shape, fields)) (items : List FieldReader) :
    PreparedLookup.of registry source target node items =
      PreparedLookup.mk (withItems (shape, fields) items) <$>
        (withItems (shape, fields) items).query? registry node.children := by
  refine prepared_of_derive ?_
  rw [derive_eq, h]
  rfl

/-- Without an outline nothing is prepared. -/
theorem prepared_of_outline_error {registry : Registry} {source target : String} {node : Clause}
    {e : QueryError} (h : outline registry source target node = .error e)
    (items : List FieldReader) :
    PreparedLookup.of registry source target node items = .error e := by
  unfold PreparedLookup.of
  rw [derive_eq, h]
  rfl

/-- A prepared lookup is the outline over the items, with its query. -/
theorem prepared_eq_ok_iff {registry : Registry} {source target : String} {node : Clause}
    {items : List FieldReader} {prepared : PreparedLookup} :
    PreparedLookup.of registry source target node items = .ok prepared ↔
      ∃ lookup fields, outline registry source target node = .ok (lookup, fields) ∧
        prepared.lookup = withItems (lookup, fields) items ∧
        prepared.lookup.query? registry node.children = .ok prepared.query := by
  constructor
  · intro h
    rcases houtline : outline registry source target node with e | ⟨shape, fields⟩
    · rw [prepared_of_outline_error houtline] at h
      cases h
    · rw [prepared_eq houtline] at h
      obtain ⟨query, hquery, rfl⟩ := except_map_eq_ok_iff.1 h
      exact ⟨shape, fields, rfl, rfl, hquery⟩
  · rintro ⟨shape, fields, houtline, hlookup, hquery⟩
    rw [hlookup] at hquery
    rw [prepared_eq houtline]
    exact except_map_eq_ok_iff.2 ⟨prepared.query, hquery, by rw [← hlookup]⟩

end Lookup

end EntityQuery
