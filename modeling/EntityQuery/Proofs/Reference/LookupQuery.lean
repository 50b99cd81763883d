import EntityQuery.Proofs.Reference.Selection

/-!
# Whether a lookup compiles

The query of a lookup without children compiles if and only if every foreign key has a column in a
known table. The keys of the items have no part in this, except that without any key there is no
query and nothing to compile.
-/
namespace EntityQuery

open Sql

namespace Sql

variable {ctx : Context}

/-- Fields of the root that have columns in a known table. -/
def Context.Stores (ctx : Context) (names : List String) : Prop :=
  ∀ name ∈ names, ∃ owner field, ctx.stored (.ofRoot name) = .ok (owner, field)

/-- No entity besides the root has been used. -/
def Scope.RootOnly (s : Scope) : Prop := s.joined = []

namespace Build

theorem SucceedsOn.column_ofRoot {name : String} {owner : Schema} {field : Field}
    (h : ctx.stored (.ofRoot name) = .ok (owner, field)) :
    SucceedsOn Scope.RootOnly (column ctx (.ofRoot name)) := by
  intro s hs
  obtain rfl : ctx.root = owner := Except.ok.inj (Context.stored_eq_ok_iff.1 h).1
  refine ⟨_, _, runOn_column_of_stored h s, ?_⟩
  have hjoin : s.join ctx ctx.root = s := if_pos (.inl rfl)
  rw [Scope.RootOnly, Scope.using, hjoin]
  exact hs

theorem SucceedsOn.bindParam (field : String) (value : Value) :
    SucceedsOn Scope.RootOnly (Sql.bindParam field value) :=
  fun s hs => ⟨_, _, runOn_bindParam field value s, hs⟩

/-- The test of an equation succeeds if its field is stored. -/
theorem SucceedsOn.leafTest {name : String} {value : Value} (hnull : value.isNull = false)
    {owner : Schema} {field : Field} (h : ctx.stored (.ofRoot name) = .ok (owner, field))
    (negated : Bool) : SucceedsOn Scope.RootOnly
      (Sql.leafTest ctx negated (.eq (.rootField name) (.literal value))) := by
  refine SucceedsOn.bind (.column_ofRoot h) fun pair => ?_
  dsimp only
  rw [if_neg (by simp [hnull])]
  exact .bind (.bindParam _ _) fun _ => .pure _

/-- It fails otherwise. -/
theorem Fails.leafTest {name : String} {e : QueryError}
    (h : ctx.stored (.ofRoot name) = .error e) (value : Value) (negated : Bool) :
    (Sql.leafTest ctx negated (.eq (.rootField name) (.literal value))).Fails :=
  (fails_column_of_not_stored h).bind _

end Build

/-- The statement of a single predicate fails if its chain does. -/
theorem fails_statementOf {predicate : Expr}
    (h : (chainOf ctx .and false predicate).Fails) :
    (statementOf ctx (Lookup.clausesFor predicate [])).Fails := by
  have hwhere : (wherePiece ctx predicate).Fails := h.bind _
  have hpieces :
      (piecesOf (wherePiece ctx) (predicatesOf (Lookup.clausesFor predicate []))).Fails :=
    hwhere.bind _
  exact .of_next (fun _ => .of_next (fun _ => .of_next (fun _ => .of_next
    (fun _ => hpieces.bind _) _) _) _) _

/-- The statement of a single predicate over the root succeeds if its chain does. -/
theorem exists_statementOf {predicate : Expr}
    (h : Build.SucceedsOn Scope.RootOnly (chainOf ctx .and false predicate)) :
    Build.SucceedsOn Scope.RootOnly (statementOf ctx (Lookup.clausesFor predicate [])) := by
  have hwhere : Build.SucceedsOn Scope.RootOnly (wherePiece ctx predicate) :=
    .bind h fun _ => .get_bind fun s hs => ⟨_, _, rfl, hs⟩
  have hpieces : Build.SucceedsOn Scope.RootOnly
      (piecesOf (wherePiece ctx) (predicatesOf (Lookup.clausesFor predicate []))) :=
    .bind hwhere fun _ => .bind (.pure _) fun _ => .pure _
  refine .bind (.ofExcept rfl) fun _ => .bind (.pure _) fun head => .bind (.pure _) fun sets =>
    .bind (fun s hs => ⟨_, _, rfl, hs⟩) fun _ => .bind hpieces fun wheres =>
    .bind (.pure _) fun orders => .bind (.pure _) fun groups => .bind (.ofExcept rfl) fun limit =>
    .bind (.ofExcept rfl) fun references => .get_bind fun s hs => ?_
  have hjoins : joinsOf ctx.root s.aliases references s.joined = .ok [] := by
    rw [show s.joined = [] from hs]
    rfl
  exact Build.SucceedsOn.bind (.ofExcept hjoins) (fun _ => .pure _) s hs

end Sql

namespace Lookup

variable {registry : Registry} {target : String} {schema : Schema} {lookup : Lookup}
  {predicate : Expr}

/-- Without a key there is no predicate, and no other way. -/
theorem predicate?_eq_none_iff (hfit : lookup.KeysFit) (hne : lookup.foreignKeys ≠ []) :
    lookup.predicate? = none ↔ lookup.distinctKeys = [] := by
  constructor
  · intro h
    cases hkeys : lookup.distinctKeys with
    | nil => rfl
    | cons key keys =>
        have hmem : key ∈ lookup.distinctKeys := by simp [hkeys]
        have hlength := hfit.length_eq key (mem_itemKeys_of_mem_distinctKeys hmem)
        obtain ⟨p, hp⟩ := exists_keyPredicate hne hlength
        simp [predicate?, Expr.anyOf?, hkeys, hp, Expr.join?] at h
  · intro h
    rw [predicate?, h]
    rfl

/-- Every foreign key occurs in the key predicate. -/
theorem exists_leaf_of_mem (hpredicate : lookup.predicate? = some predicate)
    (hfit : lookup.KeysFit) (hne : lookup.foreignKeys ≠ []) {name : String}
    (hname : name ∈ lookup.foreignKeys) :
    ∃ value, Expr.eq (.rootField name) (.literal value) ∈ predicate.leaves := by
  have hkeys : lookup.distinctKeys ≠ [] := by
    intro h
    rw [(predicate?_eq_none_iff hfit hne).2 h] at hpredicate
    cases hpredicate
  obtain ⟨key, hmem⟩ := List.exists_mem_of_ne_nil _ hkeys
  have hlength := hfit.length_eq key (mem_itemKeys_of_mem_distinctKeys hmem)
  obtain ⟨i, hi, rfl⟩ := List.mem_iff_getElem.1 hname
  have hvalue : i < key.length := hlength ▸ hi
  have hzip : i < (lookup.foreignKeys.zip key).length := by
    rw [List.length_zip]
    omega
  refine ⟨key[i], (mem_leaves_iff hpredicate).2 ⟨key, hmem, ?_⟩⟩
  refine List.mem_map.2 ⟨(lookup.foreignKeys.zip key)[i], List.getElem_mem hzip, ?_⟩
  rw [List.getElem_zip]

/-- The query of a lookup without children compiles if and only if the foreign keys are stored. -/
theorem exists_compile_iff (hschema : registry.get target = .ok schema)
    (hpredicate : lookup.predicate? = some predicate) (hfit : lookup.KeysFit)
    (hne : lookup.foreignKeys ≠ []) :
    (∃ query, Sql.compile registry target (clausesFor predicate []) = .ok query) ↔
      Context.Stores ⟨registry, schema⟩ lookup.foreignKeys := by
  have hctx : Context.of registry target = .ok ⟨registry, schema⟩ := by
    rw [Context.of, hschema]
    rfl
  constructor
  · rintro ⟨query, hquery⟩ name hname
    obtain ⟨ctx, hroot, hcompile⟩ := compile_ok hquery
    obtain rfl : ⟨registry, schema⟩ = ctx := Except.ok.inj (hctx.symm.trans hroot)
    obtain ⟨statement, final, hrun, -⟩ := compileOn_ok hcompile
    obtain ⟨value, hleaf⟩ := exists_leaf_of_mem hpredicate hfit hne hname
    rcases hstored : Context.stored ⟨registry, schema⟩ (.ofRoot name) with e | ⟨owner, field⟩
    · have hfails := Build.Fails.chainOf hleaf (Build.Fails.leafTest hstored value) .and false
      exact absurd hrun (fails_statementOf hfails).not_eq_ok
    · exact ⟨owner, field, rfl⟩
  · intro hstores
    have hchain : Build.SucceedsOn Scope.RootOnly
        (chainOf ⟨registry, schema⟩ .and false predicate) := by
      refine .chainOf (fun leaf hmem negated => ?_) _ _
      obtain ⟨key, hkey, hleaf⟩ := (mem_leaves_iff hpredicate).1 hmem
      obtain ⟨pair, hpair, rfl⟩ := List.mem_map.1 hleaf
      obtain ⟨hname, hvalue⟩ := List.of_mem_zip hpair
      obtain ⟨owner, field, hstored⟩ := hstores pair.1 hname
      exact .leafTest (hfit.not_null key (mem_itemKeys_of_mem_distinctKeys hkey) _ hvalue) hstored _
    obtain ⟨statement, final, hrun, -⟩ := exists_statementOf hchain (Scope.ofTable schema.table) rfl
    exact ⟨queryOf statement final.params, compile_of_statementOf hctx hrun⟩

variable {shape : Lookup} {fields : List (String × FieldType)}

/-- A lookup over items has a query, or needs none, if and only if no item has a key or the foreign
keys are stored. -/
theorem exists_query?_iff (h : OutlineOf registry target schema shape fields)
    (items : List FieldReader) :
    (∃ query, (withItems (shape, fields) items).query? registry [] = .ok query) ↔
      ∀ item ∈ items, ∀ key, itemKey? item fields = some key →
        Context.Stores ⟨registry, schema⟩ shape.foreignKeys := by
  have hfit := keysFit_withItems h items
  have htarget : (withItems (shape, fields) items).target = target := h.target_eq
  rcases hpredicate : (withItems (shape, fields) items).predicate? with _ | predicate
  · have hnone := (predicate?_eq_none_iff hfit h.foreignKeys_ne).1 hpredicate
    refine iff_of_true ⟨none, query?_of_none hpredicate registry []⟩ fun item hitem key hkey => ?_
    obtain ⟨kept, hkept, -⟩ :=
      exists_mem_distinctKeys (mem_itemKeys_withItems.2 ⟨item, hitem, hkey⟩)
    rw [hnone] at hkept
    cases hkept
  · have hcompile := exists_compile_iff h.schema_eq hpredicate hfit h.foreignKeys_ne
    rw [query?_of_some hpredicate registry (by simp), htarget]
    constructor
    · rintro ⟨query, hquery⟩ item - key -
      obtain ⟨compiled, hcompiled, -⟩ := except_map_eq_ok_iff.1 hquery
      exact hcompile.1 ⟨compiled, hcompiled⟩
    · intro hstores
      have hkeys : (withItems (shape, fields) items).distinctKeys ≠ [] := by
        intro hnil
        rw [(predicate?_eq_none_iff hfit h.foreignKeys_ne).2 hnil] at hpredicate
        cases hpredicate
      obtain ⟨key, hmem⟩ := List.exists_mem_of_ne_nil _ hkeys
      obtain ⟨item, hitem, hkey⟩ := mem_itemKeys_withItems.1 (mem_itemKeys_of_mem_distinctKeys hmem)
      obtain ⟨query, hquery⟩ := hcompile.2 (hstores item hitem key hkey)
      exact ⟨some query, by rw [hquery]; rfl⟩

/-- A lookup without a query is one without a key predicate. -/
theorem predicate_of_query?_none {lookup : Lookup} {registry : Registry} {children : List Clause}
    (h : lookup.query? registry children = .ok none) : lookup.predicate? = none := by
  rcases hpredicate : lookup.predicate? with _ | predicate
  · rfl
  · obtain ⟨clauses, hclauses, h⟩ := except_bind_eq_ok_iff.1 h
    rw [clauses?, hpredicate] at hclauses
    obtain ⟨added, -, rfl⟩ := except_map_eq_ok_iff.1 hclauses
    obtain ⟨query, -, h⟩ := except_bind_eq_ok_iff.1 h
    cases h

/-- Without a query there is no key to look up. -/
theorem distinctKeys_of_query?_none (h : OutlineOf registry target schema shape fields)
    {items : List FieldReader}
    (hquery : (withItems (shape, fields) items).query? registry [] = .ok none) :
    (withItems (shape, fields) items).distinctKeys = [] :=
  (predicate?_eq_none_iff (keysFit_withItems h items) h.foreignKeys_ne).1
    (predicate_of_query?_none hquery)

theorem hasKeys_eq_true_iff {lookup : Lookup} :
    lookup.hasKeys = true ↔ lookup.distinctKeys ≠ [] := by
  constructor
  · intro h
    obtain ⟨key, hmem, hsome⟩ := List.any_eq_true.1 h
    obtain ⟨values, rfl⟩ := Option.isSome_iff_exists.1 hsome
    obtain ⟨kept, hkept, -⟩ := exists_mem_distinctKeys hmem
    exact List.ne_nil_of_mem hkept
  · intro h
    obtain ⟨key, hmem⟩ := List.exists_mem_of_ne_nil _ h
    exact List.any_eq_true.2 ⟨some key, mem_itemKeys_of_mem_distinctKeys hmem, rfl⟩

/-- The key predicate is there if and only if some item has a key. -/
theorem isSome_predicate?_of_derive {source : String} {node : Clause} {items : List FieldReader}
    (h : derive registry source target node items = .ok lookup) :
    lookup.predicate?.isSome = lookup.hasKeys := by
  rw [derive_eq] at h
  obtain ⟨⟨shape, fields⟩, houtline, rfl⟩ := except_map_eq_ok_iff.1 h
  obtain ⟨schema, houtlined⟩ := outlineOf_of_ok houtline
  have hnone := predicate?_eq_none_iff (keysFit_withItems houtlined items) houtlined.foreignKeys_ne
  rw [Bool.eq_iff_iff, hasKeys_eq_true_iff, ne_eq, ← hnone, Option.isSome_iff_ne_none]

/-- A lookup has a query if and only if some item has a key. -/
theorem isSome_query_of_prepared {registry : Registry} {source target : String} {node : Clause}
    {items : List FieldReader} {prepared : PreparedLookup}
    (h : PreparedLookup.of registry source target node items = .ok prepared) :
    prepared.query.isSome = prepared.lookup.hasKeys := by
  obtain ⟨hlookup, hquery⟩ := derived_of_prepared h
  rw [← isSome_predicate?_of_derive hlookup]
  rcases hprepared : prepared.query with _ | query
  · rw [hprepared] at hquery
    rw [predicate_of_query?_none hquery]
    rfl
  · rw [hprepared] at hquery
    obtain ⟨predicate, hpredicate, -, -⟩ := predicate_of_query? hquery
    rw [hpredicate]
    rfl

end Lookup

end EntityQuery
