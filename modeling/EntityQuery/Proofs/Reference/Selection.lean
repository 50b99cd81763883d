import EntityQuery.Proofs.Reference.KeyPredicate
import EntityQuery.Proofs.Sql.Conjunction

/-!
# What a lookup selects

The query of a lookup selects the rows of the target that have the key of at least one item and
satisfy the conditions of all children. The key predicate has an OR for every further key, but it is
one predicate of the statement among others and is conjoined with them as a whole.
-/
namespace EntityQuery

open Sql

/-- A database that compares floats which denote the same integer alike, such as the two zeros. -/
def Dialect.ComparesWholeFloats (D : Dialect) : Prop :=
  ∀ v x y n, x.toInt? = some n → y.toInt? = some n →
    D.compare .eq v (.float x) = D.compare .eq v (.float y)

/-- Values of one type with the same key are equal to the same values. -/
theorem Dialect.ComparesWholeFloats.compare_bound {D : Dialect} (hD : D.ComparesWholeFloats)
    {u v w : Value} (htype : v.type? = w.type?) (hkey : v.key = w.key) :
    D.compare .eq u v.bound = D.compare .eq u w.bound := by
  rcases Value.eq_or_float_of_key_eq htype hkey with rfl | ⟨x, y, n, rfl, rfl, hx, hy⟩
  · rfl
  · exact hD u x y n hx hy

/-- A row that has a key has every key of the same types with the same tuple. -/
theorem Schema.RowHas.of_keyTuple {schema : Schema} {D : Dialect} (hD : D.ComparesWholeFloats)
    {row : String → Value} {names : List String} {values values' : List Value}
    (h : schema.RowHas D row names values)
    (htypes : values.map Value.type? = values'.map Value.type?)
    (htuple : keyTuple values = keyTuple values') : schema.RowHas D row names values' := by
  induction h generalizing values' with
  | nil =>
      obtain rfl : values' = [] := by simpa [keyTuple, eq_comm] using htuple
      exact .nil
  | @cons name value names values hfirst _ ih =>
      cases values' with
      | nil => simp [keyTuple] at htuple
      | cons value' values' =>
          simp only [keyTuple, List.map_cons, List.cons.injEq] at htypes htuple
          obtain ⟨field, hfield, hequal⟩ := hfirst
          rw [hD.compare_bound htypes.1 htuple.1] at hequal
          exact .cons ⟨field, hfield, hequal⟩ (ih htypes.2 htuple.2)

/-- The binding gives the columns of the root the values of a row, and knows the parameters that a
scope of a statement on the root has given out. -/
structure Sql.Binding.HoldsRow (binding : Binding) (ctx : Context) (row : String → Value)
    (s : Scope) : Prop where
  columns : ∀ name, binding.columns ⟨Aliases.primary, name⟩ = row name
  primaryTable : s.aliases.primaryTable = ctx.root.table
  parameters : ∀ name value, s.params.get? name = some value → binding.parameters name = value

theorem Sql.Scope.Grows.primaryTable_eq {s t : Scope} (h : s.Grows t) :
    t.aliases.primaryTable = s.aliases.primaryTable :=
  (List.cons_prefix_cons.1 h.aliases).1.symm

namespace Lookup

variable {ctx : Context} {D : Dialect} {binding : Binding} {row : String → Value}

theorem holdsRow_of_grows {s t : Scope} (h : s.Grows t) (ht : binding.HoldsRow ctx row t) :
    binding.HoldsRow ctx row s where
  columns := ht.columns
  primaryTable := h.primaryTable_eq.symm.trans ht.primaryTable
  parameters name value hget := ht.parameters name value (Params.get?_of_prefix h.params hget)

/-- The column of a field of the root, in a scope of a statement on the root. -/
theorem rowValue?_of_column {name : String} {s t : Scope} {c : Column} {field : Field}
    (h : (column ctx (.ofRoot name)).runOn s = (.ok (c, field), t))
    (ht : binding.HoldsRow ctx row t) :
    ctx.root.rowValue? row (.ofRoot name) = some (binding.columns c) := by
  obtain ⟨owner, hstored, rfl, rfl⟩ := stored_of_runOn_column h
  obtain ⟨howner, hfield, _, _⟩ := Context.stored_eq_ok_iff.1 hstored
  obtain rfl : ctx.root = owner := Except.ok.inj howner
  have hgrows : s.Grows (s.using ctx ctx.root) := (s.extends_using ctx ctx.root).grows
  have hprimary : s.aliases.primaryTable = ctx.root.table :=
    hgrows.primaryTable_eq.symm.trans ht.primaryTable
  have hfirst : s.aliases.tables.idxOf ctx.root.table = 0 := by
    rw [Aliases.tables, hprimary, List.idxOf_cons_self]
  have hfield? : ctx.root.field? name = some field := Schema.field_eq_ok_iff.1 hfield
  have hcolumn : binding.columns ⟨Aliases.token 0, field.column⟩ = row field.column :=
    ht.columns field.column
  rw [Scope.columnIn, hfirst, hcolumn]
  simp [Schema.rowValue?, FieldRef.ofRoot, hfield?]

/-- The test of an equation of a key predicate has the truth of the equation. -/
theorem leafMeans_of_isEquation {leaf : Expr} (h : IsEquation leaf) :
    LeafMeans ctx D binding (ctx.root.rowValue? row) (binding.HoldsRow ctx row) leaf := by
  obtain ⟨name, value, hnull, rfl⟩ := h
  intro negated s t test hrun ht
  obtain ⟨⟨lhs, field⟩, u, hcolumn, hrun⟩ := Build.runOn_bind_eq_ok.1 hrun
  dsimp only at hrun
  rw [if_neg (by simp [hnull])] at hrun
  obtain ⟨parameter, w, hbind, hrun⟩ := Build.runOn_bind_eq_ok.1 hrun
  cases hrun
  have hgrows : u.Grows t := ((Build.Keeps.bindParam _ _).of_eq hbind).grows
  have hvalue := rowValue?_of_column hcolumn (holdsRow_of_grows hgrows ht)
  have hparameter : binding.parameters parameter = value.bound := by
    rw [runOn_bindParam] at hbind
    cases hbind
    exact ht.parameters _ _ (u.params.get?_bind field.column value.bound)
  refine ⟨D.compare .eq (binding.columns lhs) value.bound, ?_, ?_⟩
  · simp [Expr.eq, Expr.rootField, Expr.leafMeaning?, hvalue, hnull]
  · simp [Binding.operand, hparameter]

/-- The chain of a key predicate is true of a row if and only if the row has one of the keys. -/
theorem keyChain_true_iff {lookup : Lookup} {predicate : Expr} {final : Scope} {chain : Chain}
    (hchain : ChainFrom ctx final predicate chain) (hpredicate : lookup.predicate? = some predicate)
    (hfit : lookup.KeysFit) (hne : lookup.foreignKeys ≠ [])
    (hfinal : binding.HoldsRow ctx row final) :
    HasTruth (decideTest D binding) (chainTokens chain) .true ↔
      ∃ key ∈ lookup.distinctKeys, ctx.root.RowHas D row lookup.foreignKeys key := by
  have hread := (hchain.shape.chainFilled.hasTruth (ι := decideTest D binding)).iff_eq (w := .true)
  obtain ⟨s, t, hrun, hgrows⟩ := hchain
  obtain ⟨v, hv, htruth⟩ := chainTruth_of_leaves (fun _ _ => holdsRow_of_grows) hrun
    (andClosed_predicate? hpredicate) (holdsRow_of_grows hgrows hfinal) fun leaf hmem =>
      leafMeans_of_isEquation (isEquation_of_mem_leaves hpredicate hfit hmem)
  have hsome : (predicate.meaning? D (ctx.root.rowValue? row)).isSome = true := by rw [hv]; rfl
  rw [← predicate?_true_iff hpredicate hfit hne hsome, hread, htruth, hv, Option.some.injEq,
    Truth.negateIf_false, eq_comm]

section

variable {registry : Registry} {target : String} {schema : Schema} {lookup : Lookup}
  {fields : List (String × FieldType)} {items : List FieldReader}

theorem mem_itemKeys_withItems {key : List Value} :
    some key ∈ (withItems (lookup, fields) items).itemKeys ↔
      ∃ item ∈ items, itemKey? item fields = some key := by
  simp [withItems]

/-- The keys of items have the types of the fields. -/
theorem types_of_mem_itemKeys {key : List Value}
    (h : some key ∈ (withItems (lookup, fields) items).itemKeys) :
    key.map Value.type? = fields.map fun field => some field.2 := by
  obtain ⟨item, -, hkey⟩ := mem_itemKeys_withItems.1 h
  have htypes := types_of_itemKey? hkey
  clear h hkey
  induction htypes with
  | nil => rfl
  | cons hfirst _ ih => rw [List.map_cons, List.map_cons, hfirst, ih]

/-- The keys of items fit the fields of the lookup. -/
theorem keysFit_withItems (h : OutlineOf registry target schema lookup fields)
    (items : List FieldReader) : (withItems (lookup, fields) items).KeysFit where
  length_eq key hmem := by
    obtain ⟨types, htypes, hfields⟩ := h.fields_eq
    have hlength := congrArg List.length (types_of_mem_itemKeys hmem)
    rw [List.length_map, List.length_map, hfields, List.length_zip,
      ← (forall₂_fieldTypes htypes).length_eq, h.paired, Nat.min_self] at hlength
    exact hlength.symm
  not_null key hmem value hvalue := by
    have htype : value.type? ∈ key.map Value.type? := List.mem_map_of_mem hvalue
    rw [types_of_mem_itemKeys hmem] at htype
    obtain ⟨field, -, hfield⟩ := List.mem_map.1 htype
    cases value with
    | null => cases hfield
    | _ => rfl

/-- A row has one of the keys that are looked up if and only if it has the key of an item. -/
theorem rowHas_distinctKeys_iff {D : Dialect} (hD : D.ComparesWholeFloats) {row : String → Value}
    {names : List String} :
    (∃ key ∈ (withItems (lookup, fields) items).distinctKeys, schema.RowHas D row names key) ↔
      ∃ item ∈ items, ∃ key, itemKey? item fields = some key ∧ schema.RowHas D row names key := by
  constructor
  · rintro ⟨key, hmem, hhas⟩
    obtain ⟨item, hitem, hkey⟩ := mem_itemKeys_withItems.1 (mem_itemKeys_of_mem_distinctKeys hmem)
    exact ⟨item, hitem, key, hkey, hhas⟩
  · rintro ⟨item, hitem, key, hkey, hhas⟩
    have hmem : some key ∈ (withItems (lookup, fields) items).itemKeys :=
      mem_itemKeys_withItems.2 ⟨item, hitem, hkey⟩
    obtain ⟨kept, hkept, htuple⟩ := exists_mem_distinctKeys hmem
    have htypes : key.map Value.type? = kept.map Value.type? := by
      rw [types_of_mem_itemKeys hmem,
        types_of_mem_itemKeys (mem_itemKeys_of_mem_distinctKeys hkept)]
    exact ⟨kept, hkept, hhas.of_keyTuple hD htypes htuple.symm⟩

end

/-- The predicates of a lookup are its key predicate and those of the children. -/
theorem predicatesOf_clausesFor (predicate : Expr) (children : List Clause) :
    predicatesOf (clausesFor predicate children) =
      predicate :: (children.filter (·.kind = .filter)).map (·.expr) := by
  have hfirst : (Clauses.empty.push (.of .filter predicate)).ofKind .filter =
      [.of .filter predicate] := rfl
  rw [predicatesOf, clausesFor, Clauses.ofKind_extend rfl, hfirst]
  rfl

/-- A lookup has no clauses of a kind that cannot constrain a reference. -/
theorem first?_clausesFor {predicate : Expr} {children : List Clause}
    (h : ∀ child ∈ children, constrains child.kind = true) {kind : ClauseKind}
    (hkind : constrains kind = false) : (clausesFor predicate children).first? kind = none := by
  have hchildren : ∀ child ∈ children, child.kind ≠ kind := by
    rintro child hmem rfl
    rw [h child hmem] at hkind
    cases hkind
  have hfilter : (Clause.of .filter predicate).kind ≠ kind := by
    rintro rfl
    cases hkind
  rw [Clauses.first?_eq_head?, clausesFor, Clauses.ofKind_extend_of_ne hchildren,
    Clauses.ofKind_push_of_ne hfilter]
  rfl

/-- A lookup neither counts nor assigns. -/
theorem headOf_clausesFor {predicate : Expr} {children : List Clause}
    (hchildren : ∀ child ∈ children, constrains child.kind = true) :
    headOf ctx (clausesFor predicate children) = pure (.select (selectedColumns ctx.root)) := by
  rw [headOf, first?_clausesFor hchildren rfl, first?_clausesFor hchildren rfl]

theorem setPart_clausesFor {predicate : Expr} {children : List Clause}
    (hchildren : ∀ child ∈ children, constrains child.kind = true) :
    setPart ctx (clausesFor predicate children) = pure none := by
  rw [setPart, first?_clausesFor hchildren rfl]

/-- The statement of a lookup is a selection. -/
theorem kind_of_statementRun {predicate : Expr} {children : List Clause}
    (hchildren : ∀ child ∈ children, constrains child.kind = true) {s t : Scope}
    {statement : Statement}
    (h : StatementRun ctx (clausesFor predicate children) s statement t) :
    statement.kind = .select := by
  obtain ⟨u, hhead⟩ := h.head
  rw [headOf_clausesFor hchildren] at hhead
  obtain ⟨hhead, -⟩ := Prod.mk.inj hhead
  rw [Statement.kind, ← Except.ok.inj hhead]
  rfl

end Lookup

theorem Dialect.ofIntegers_comparesWholeFloats : Dialect.ofIntegers.ComparesWholeFloats := by
  intro v x y n hx hy
  simp [ofIntegers, Value.toInt?, hx, hy]

/-- The sample schema of a customer, who has a number within a region. -/
def sampleCustomer : Schema :=
  ⟨"Customer", "customers",
    [⟨"Region", "region", .int32, true, false, none⟩, ⟨"No", "no", .int64, true, false, none⟩], []⟩

/-- The sample schema of a sale to a customer. -/
def sampleSale : Schema :=
  ⟨"Sale", "sales",
    [⟨"Region", "region", .int32, false, false, none⟩,
      ⟨"CustomerNo", "customer_no", .int32, false, false, none⟩,
      .ofNavigation "Customer" ⟨"Customer", false, ["Region", "CustomerNo"], ["Region", "No"]⟩], []⟩

def sampleRegistry : Registry := .ofList [sampleSale, sampleCustomer]

/-- The fields of a sale. -/
def readSale (region no : Int32) : FieldReader := fun name =>
  if name = "Region" then some (.int32 region)
  else if name = "CustomerNo" then some (.int32 no)
  else none

/-- Customers with the number nine and all customers of the fourth region. -/
def sampleCondition : Expr :=
  .or (.compare .eq (.field ⟨none, "No"⟩) (.literal (.int64 9)))
    (.compare .eq (.field ⟨none, "Region"⟩) (.literal (.int32 4)))

/-- Some of the customers of sales, ordered by their numbers. -/
def sampleReference : Clause :=
  .reference "Customer" [.of .filter sampleCondition, .of .orderBy (.rootField "No")]

/-- What the columns of the second customer hold. -/
def sampleCustomerRow : String → Value := fun name => if name = "region" then .int32 2 else .int64 9

/-- The columns of the second customer, under any alias, and the parameters of a query. -/
def sampleBinding (query : SqlQuery) : Binding :=
  ⟨fun column => sampleCustomerRow column.name, fun name => (query.params.get? name).getD .null⟩

end EntityQuery
