import EntityQuery.Proofs.Reference.LookupQuery
import EntityQuery.Proofs.Sql.BoundValues

/-!
# Preparation

A prepared lookup has one key, or none, for each item, in the order of the items. Its query asks for
each key once: the components of the different keys, each at its first occurrence, are the first
parameters, and only those of the children's predicates follow.
-/
namespace EntityQuery

open Sql

namespace Lookup

/-- The predicates among the children of a reference. -/
def childPredicates (children : List Clause) : List Expr :=
  (children.filter (·.kind = .filter)).map (·.expr)

variable {lookup : Lookup} {predicate : Expr}

theorem boundValues_keyPredicate? {key : List Value}
    (hlength : lookup.foreignKeys.length = key.length)
    (hnull : ∀ value ∈ key, value.isNull = false) (h : lookup.keyPredicate? key = some predicate) :
    predicate.boundValues false = key.map Value.bound := by
  rw [Expr.flatMap_join? .and (Expr.boundValues false) (fun _ _ => rfl) h, List.flatMap_map]
  clear h
  generalize lookup.foreignKeys = names at hlength
  induction names generalizing key with
  | nil =>
      obtain rfl : key = [] := List.length_eq_zero_iff.1 hlength.symm
      rfl
  | cons name names ih =>
      obtain ⟨value, key, rfl⟩ := List.exists_cons_of_length_eq_add_one hlength.symm
      obtain ⟨hfirst, hrest⟩ := List.forall_mem_cons.1 hnull
      rw [List.zip_cons_cons, List.flatMap_cons, ih hrest (by simpa using hlength), List.map_cons]
      simp [Expr.eq, Expr.rootField, Expr.boundValues, Expr.leafValues, Expr.comparedValues, hfirst]

/-- The key predicate binds the components of the keys that are asked for. -/
theorem boundValues_predicate? (hfit : lookup.KeysFit) (hne : lookup.foreignKeys ≠ [])
    (h : lookup.predicate? = some predicate) :
    predicate.boundValues false = lookup.distinctKeys.flatten.map Value.bound := by
  rw [Expr.flatMap_join? .or (Expr.boundValues false) (fun _ _ => rfl) h]
  have hkeys : ∀ key ∈ lookup.distinctKeys, some key ∈ lookup.itemKeys :=
    fun _ => mem_itemKeys_of_mem_distinctKeys
  generalize lookup.distinctKeys = keys at hkeys
  induction keys with
  | nil => rfl
  | cons key keys ih =>
      obtain ⟨hkey, hrest⟩ := List.forall_mem_cons.1 hkeys
      have hlength := hfit.length_eq key hkey
      obtain ⟨part, hpart⟩ := exists_keyPredicate hne hlength
      rw [List.filterMap_cons_some hpart, List.flatMap_cons, ih hrest, List.flatten_cons,
        List.map_append, boundValues_keyPredicate? hlength (hfit.not_null key hkey) hpart]

end Lookup

namespace Sql

variable {ctx : Context} {t : Scope}

/-- The parameters of the clauses of a lookup are those of its key predicate, followed by those of
the children's predicates. -/
theorem params_of_clausesFor {predicate : Expr} {children : List Clause} {statement : Statement}
    (hchildren : ∀ child ∈ children, Lookup.constrains child.kind = true)
    (h : (statementOf ctx (Lookup.clausesFor predicate children)).runOn ctx.scope =
      (.ok statement, t)) :
    ∃ keyPiece childPieces keyEntries childEntries,
      statement.wherePieces = keyPiece :: childPieces ∧
      List.Forall₂ (MakesPiece ctx) (predicate :: Lookup.childPredicates children)
        (keyPiece :: childPieces) ∧
      t.params.entries = keyEntries ++ childEntries ∧
      ParamsOf [keyPiece] (predicate.boundValues false) keyEntries ∧
      ParamsOf childPieces
        ((Lookup.childPredicates children).flatMap (Expr.boundValues false)) childEntries := by
  obtain ⟨references, headed, assigned, filtered, ordered, steps⟩ := statementSteps_of_ok h
  have hhead := steps.head
  rw [Lookup.headOf_clausesFor hchildren] at hhead
  obtain ⟨-, rfl⟩ := Prod.mk.inj hhead
  have hassigned := steps.assignments
  rw [Lookup.setPart_clausesFor hchildren] at hassigned
  obtain ⟨-, rfl⟩ := Prod.mk.inj hassigned
  -- the WHERE part starts without parameters, and its first piece is that of the key predicate
  have hwheres := steps.wheres
  have hpieces := forall₂_piecesOf hwheres
  rw [Lookup.predicatesOf_clausesFor] at hwheres hpieces
  obtain ⟨keyPiece, u, hkey, hwheres⟩ := Build.runOn_bind_eq_ok.1 hwheres
  obtain ⟨childPieces, v, hchild, hwheres⟩ := Build.runOn_bind_eq_ok.1 hwheres
  obtain ⟨hmade, rfl⟩ := Prod.mk.inj hwheres
  obtain hmade : keyPiece :: childPieces = statement.wherePieces := Except.ok.inj hmade
  obtain ⟨keyEntries, hkeyEntries, hkeyParams⟩ := paramsOf_wherePiece hkey
  obtain ⟨childEntries, hchildEntries, hchildParams⟩ := paramsOf_wherePieces hchild
  refine ⟨keyPiece, childPieces, keyEntries, childEntries, hmade.symm, hmade ▸ hpieces, ?_,
    hkeyParams, hchildParams⟩
  rw [entries_of_listings steps.orders steps.groups, hchildEntries, hkeyEntries]
  rfl

end Sql

namespace Lookup

/-- The query asks for each key once. Its first predicate is the key predicate, whose parameters are
the components of the different keys; those of the children's predicates follow. -/
def AsksOnce (ctx : Context) (lookup : Lookup) (children : List Clause) (query : SqlQuery) : Prop :=
  ∃ predicate statement keyPiece childPieces keyEntries childEntries,
    lookup.predicate? = some predicate ∧
    plan ctx.registry lookup.target (clausesFor predicate children) =
      .ok (statement, query.params) ∧
    query = queryOf statement query.params ∧
    statement.wherePieces = keyPiece :: childPieces ∧
    List.Forall₂ (MakesPiece ctx) (predicate :: childPredicates children)
      (keyPiece :: childPieces) ∧
    query.params.entries = keyEntries ++ childEntries ∧
    ParamsOf [keyPiece] (lookup.askedKeys.flatten.map Value.bound) keyEntries ∧
    ParamsOf childPieces ((childPredicates children).flatMap (Expr.boundValues false)) childEntries

variable {registry : Registry} {source target : String} {schema : Schema} {node : Clause}
  {items : List FieldReader} {shape : Lookup} {fields : List (String × FieldType)}

theorem asksOnce_of_query? (h : OutlineOf registry target schema shape fields)
    {children : List Clause} {query : SqlQuery}
    (hquery : (withItems (shape, fields) items).query? registry children = .ok (some query)) :
    (withItems (shape, fields) items).AsksOnce ⟨registry, schema⟩ children query := by
  obtain ⟨predicate, hpredicate, hchildren, hcompile⟩ := predicate_of_query? hquery
  obtain ⟨ctx, hctx, hcompiled⟩ := compile_ok hcompile
  obtain ⟨statement, final, hrun, rfl⟩ := compileOn_ok hcompiled
  have hplan := plan_of_statementOf hctx hrun
  obtain rfl : ctx = ⟨registry, schema⟩ := by
    have htarget : (withItems (shape, fields) items).target = target := h.target_eq
    rw [htarget, Context.of, h.schema_eq] at hctx
    exact (Except.ok.inj hctx).symm
  obtain ⟨keyPiece, childPieces, keyEntries, childEntries, hpieces, hmade, hentries, hkey, hchild⟩ :=
    params_of_clausesFor hchildren hrun
  have hvalues := boundValues_predicate? (keysFit_withItems h items) h.foreignKeys_ne hpredicate
  rw [hvalues, distinctKeys_eq_askedKeys] at hkey
  exact ⟨predicate, statement, keyPiece, childPieces, keyEntries, childEntries, hpredicate, hplan,
    rfl, hpieces, hmade, hentries, hkey, hchild⟩

end Lookup

/-- A prepared lookup has read the key of every item, in the types of the foreign keys. It has a
query if and only if some item has a key, and the query asks for each key once. -/
theorem prepared_reads_keys {registry : Registry} {source target : String} {node : Clause}
    {items : List FieldReader} {prepared : PreparedLookup}
    (h : PreparedLookup.of registry source target node items = .ok prepared) :
    ∃ schema types,
      registry.get target = .ok schema ∧
      List.Forall₂ schema.Declares prepared.lookup.foreignKeys types ∧
      prepared.lookup.referenceKeys.length = prepared.lookup.foreignKeys.length ∧
      List.Forall₂ (Lookup.EntryOf (prepared.lookup.referenceKeys.zip types)) items
        prepared.lookup.itemKeys ∧
      (prepared.query = none ↔ ∀ entry ∈ prepared.lookup.itemKeys, entry = none) ∧
      (prepared.lookup.askedKeys.map keyTuple).Nodup ∧
      (∀ value ∈ prepared.lookup.askedKeys.flatten, value.bound.isNull = false) ∧
      ∀ query, prepared.query = some query →
        prepared.lookup.AsksOnce ⟨registry, schema⟩ node.children query := by
  have hquery := Lookup.isSome_query_of_prepared h
  obtain ⟨shape, fields, houtline, hlookup, hmade⟩ := Lookup.prepared_eq_ok_iff.1 h
  obtain ⟨schema, houtlined⟩ := Lookup.outlineOf_of_ok houtline
  obtain ⟨types, htypes, rfl⟩ := houtlined.fields_eq
  rw [hlookup] at hmade hquery ⊢
  have hfit := Lookup.keysFit_withItems houtlined items
  refine ⟨schema, types, houtlined.schema_eq, Lookup.forall₂_fieldTypes htypes, houtlined.paired,
    ?_, ?_, ?_, ?_, ?_⟩
  · exact List.forall₂_map_right_iff.2
      (List.forall₂_same.2 fun item _ => Lookup.entryOf_itemKey? _ item)
  · rw [← Option.isNone_iff_eq_none, ← Option.isSome_eq_false_iff, hquery, Lookup.hasKeys,
      List.any_eq_false]
    simp
  · rw [← Lookup.distinctKeys_eq_askedKeys]
    exact (Lookup.nodup_distinctFrom [] _).1
  · intro value hvalue
    rw [← Lookup.distinctKeys_eq_askedKeys] at hvalue
    obtain ⟨key, hkey, hin⟩ := List.mem_flatten.1 hvalue
    rw [Value.bound_isNull]
    exact hfit.not_null key (Lookup.mem_itemKeys_of_mem_distinctKeys hkey) value hin
  · intro query hsome
    rw [hsome] at hmade
    exact Lookup.asksOnce_of_query? houtlined hmade

/-- The customers of sales whose number is above three. -/
def sampleNumbered : Clause :=
  .reference "Customer" [.of .filter (.compare .gt (.rootField "No") (.literal (.int32 3))),
    .of .orderBy (.rootField "No")]

/-- Sales to two customers, one of them twice, and a sale to none. -/
def sampleItems : List FieldReader := [readSale 1 7, fun _ => none, readSale 1 7, readSale 2 9]

/-- Each of the two customers is asked for once, in order, before the number that their numbers are
compared with. -/
theorem prepared_reads_keys_sample :
    ∃ prepared query, PreparedLookup.of sampleRegistry "Sale" "Customer" sampleNumbered sampleItems =
        .ok prepared ∧
      prepared.query = some query ∧
      prepared.lookup.itemKeys = [some [.int32 1, .int64 7], none, some [.int32 1, .int64 7],
        some [.int32 2, .int64 9]] ∧
      query.params.entries.map (·.2) = [.int32 1, .int64 7, .int32 2, .int64 9, .int32 3] := by
  have hok : (PreparedLookup.of sampleRegistry "Sale" "Customer" sampleNumbered
      sampleItems).toOption.map (·.lookup.itemKeys) = some [some [.int32 1, .int64 7], none,
        some [.int32 1, .int64 7], some [.int32 2, .int64 9]] := by
    decide +kernel
  obtain ⟨prepared, hprepared, hkeys⟩ := except_exists_of_toOption_map hok
  obtain ⟨schema, types, -, -, -, -, hnone, -, -, hasked⟩ := prepared_reads_keys hprepared
  obtain ⟨query, hquery⟩ : ∃ query, prepared.query = some query := by
    refine Option.ne_none_iff_exists'.1 fun habsent => ?_
    have hall := hnone.1 habsent
    simp [hkeys] at hall
  obtain ⟨_, _, _, _, keyEntries, childEntries, -, -, -, -, -, hentries, hkey, hchild⟩ :=
    hasked query hquery
  refine ⟨prepared, query, hprepared, hquery, hkeys, ?_⟩
  rw [hentries, List.map_append, hkey.values, hchild.values, Lookup.askedKeys, hkeys]
  decide +kernel

end EntityQuery
