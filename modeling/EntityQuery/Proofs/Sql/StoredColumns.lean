import EntityQuery.Proofs.Sql.TableAliases

/-!
# Stored columns

A virtual field has no column, and clauses that use one make no statement. The keys of a join are
fields as well, but they only have to exist. So a statement names stored columns of its entities
wherever clauses use fields, and in its joins exactly if the keys of the joins are stored.
-/
namespace EntityQuery

namespace Schema

/-- A column of the table of a schema, that of a field that is not virtual. -/
def StoresColumn (schema : Schema) (column : String) : Prop :=
  ∃ field ∈ schema.storedFields, field.column = column

instance (schema : Schema) (column : String) : Decidable (schema.StoresColumn column) :=
  inferInstanceAs (Decidable (∃ field ∈ schema.storedFields, field.column = column))

/-- A name of a field whose column the table has. -/
def NamesStored (schema : Schema) (name : String) : Prop :=
  ∃ field, schema.field name = .ok field ∧ schema.StoresColumn field.column

theorem storesColumn_of_field {schema : Schema} {name : String} {field : Field}
    (h : schema.field name = .ok field) (hstored : field.isVirtual = false) :
    schema.StoresColumn field.column := by
  have hmem := mem_of_field? (field_eq_ok_iff.1 h)
  exact ⟨field, List.mem_filter.2 ⟨hmem, by simp [hstored]⟩, rfl⟩

end Schema

namespace Sql

/-- An alias stands for the entity at the same place in what a statement reads. -/
def Statement.StandsFor (ctx : Context) (clauses : Clauses) (s : Statement) (qualifier : String)
    (schema : Schema) : Prop :=
  (schema, qualifier) ∈ (ctx.schemasRead clauses).zip s.introduced

/-- A column of a table of a statement, of an entity that its alias stands for. -/
def Statement.HasColumn (ctx : Context) (clauses : Clauses) (s : Statement) (c : Column) : Prop :=
  ∃ schema, s.StandsFor ctx clauses c.qualifier schema ∧ schema.StoresColumn c.name

/-- Both sides of the navigation to a target have columns for its keys. -/
def KeysStored (root : Schema) (references : List String) (target : Schema) : Prop :=
  ∃ field keys,
    navigationField root references target = .ok field ∧
    JoinKeys.derive root field target = .ok keys ∧
    (∀ name ∈ keys.foreignKeys, target.NamesStored name) ∧
    ∀ name ∈ keys.referenceKeys, root.NamesStored name

/-- A join equates columns that the tables have. -/
def Join.OnStored (root target : Schema) (join : Join) : Prop :=
  ∀ pair ∈ join.pairs, target.StoresColumn pair.1.name ∧ root.StoresColumn pair.2.name

theorem storesColumn_iff_of_columnOf {schema : Schema} {qualifier : String} {names : List String}
    {columns : List Column} (h : List.Forall₂ (ColumnOf schema qualifier) names columns) :
    (∀ c ∈ columns, schema.StoresColumn c.name) ↔ ∀ name ∈ names, schema.NamesStored name := by
  induction h with
  | nil => simp
  | @cons name c names columns hfirst _ ih =>
      obtain ⟨field, hfield, rfl⟩ := hfirst
      have hname : schema.NamesStored name ↔ schema.StoresColumn field.column := by
        simp [Schema.NamesStored, hfield]
      rw [List.forall_mem_cons, List.forall_mem_cons, ih, hname]

/-- The columns of a join are stored exactly if its keys are. -/
theorem onStored_iff_of_joinOf {ctx : Context} {target : Schema} {aliases : Aliases}
    {references : List String} {join : Join}
    (hknown : ctx.registry.get target.entity = .ok target)
    (h : joinOf ctx.root aliases references target = .ok join) :
    join.OnStored ctx.root target ↔ KeysStored ctx.root references target := by
  obtain ⟨found, field, keys, hfound, hfield, hkeys, -, -, hleft, hright⟩ :=
    joinsTo_of_joinOf hknown h
  obtain rfl : found = target := Except.ok.inj (hfound.symm.trans hknown)
  have hpairs : join.OnStored ctx.root found ↔
      (∀ c ∈ join.pairs.map (·.1), found.StoresColumn c.name) ∧
        ∀ c ∈ join.pairs.map (·.2), ctx.root.StoresColumn c.name := by
    rw [List.forall_mem_map, List.forall_mem_map]
    exact ⟨fun h => ⟨fun pair hmem => (h pair hmem).1, fun pair hmem => (h pair hmem).2⟩,
      fun h pair hmem => ⟨h.1 pair hmem, h.2 pair hmem⟩⟩
  have hstored : KeysStored ctx.root references found ↔
      (∀ name ∈ keys.foreignKeys, found.NamesStored name) ∧
        ∀ name ∈ keys.referenceKeys, ctx.root.NamesStored name := by
    simp [KeysStored, hfield, hkeys]
  -- The columns on each side of the pairs are those of the keys, in the same order.
  rw [hpairs, hstored, storesColumn_iff_of_columnOf hleft, storesColumn_iff_of_columnOf hright]

namespace Statement.MadeOf

variable {ctx : Context} {clauses : Clauses} {references : List String} {t : Scope}
  {statement : Statement}

/-- Every field that the clauses use is there and is not virtual. -/
theorem stored_of_mem_usedFields (h : statement.MadeOf ctx clauses references t) :
    ∀ ref ∈ clauses.usedFields, ∃ owner field, ctx.owner ref = .ok owner ∧
      owner.field ref.name = .ok field ∧ field.isVirtual = false := by
  intro ref hmem
  obtain ⟨c, -, owner, field, hstored, -⟩ := forall₂_exists_right h.uses.columns ref hmem
  obtain ⟨howner, hfield, hvirtual, -⟩ := Context.stored_eq_ok_iff.1 hstored
  exact ⟨owner, field, howner, hfield, hvirtual⟩

/-- The alias of the root stands for the root. -/
theorem standsFor_root (h : statement.MadeOf ctx clauses references t) :
    statement.StandsFor ctx clauses Aliases.primary ctx.root := by
  unfold StandsFor Context.schemasRead introduced
  rw [List.zip_cons_cons, h.qualifier]
  exact List.mem_cons_self

/-- The alias of a join stands for the entity that it adds. -/
theorem standsFor_join {schema : Schema} {join : Join}
    (h : (schema, join) ∈ (ctx.schemasJoined clauses).zip statement.joins) :
    statement.StandsFor ctx clauses join.qualifier schema := by
  unfold StandsFor Context.schemasRead introduced
  rw [List.zip_cons_cons, List.zip_map_right]
  exact List.mem_cons_of_mem _ (List.mem_map.2 ⟨(schema, join), h, rfl⟩)

/-- A selection lists stored columns of the root. -/
theorem hasColumn_of_selected (h : statement.MadeOf ctx clauses references t) :
    ∀ c ∈ statement.head.selected, statement.HasColumn ctx clauses c := by
  obtain ⟨headed, hhead⟩ := h.head
  cases hselect : statement.head with
  | select columns =>
      rw [hselect] at hhead
      have hcolumns := selected_of_headOf hhead
      intro c hmem
      obtain ⟨field, hfield, rfl⟩ := List.mem_map.1 (hcolumns ▸ hmem : c ∈ selectedColumns ctx.root)
      exact ⟨ctx.root, h.standsFor_root, field, hfield, rfl⟩
  | count _ | update => simp [Head.selected]

/-- A use of a field shows a stored column of its owner. -/
theorem hasColumn_of_used (h : statement.MadeOf ctx clauses references t) :
    ∀ c ∈ statement.usedColumns, statement.HasColumn ctx clauses c := by
  intro c hmem
  obtain ⟨ref, -, hshown⟩ := forall₂_exists_left h.uses.columns c hmem
  obtain ⟨owner, field, hstored, hname, halias, howned⟩ := owner_of_shownAs h.known hshown
  obtain ⟨-, hfield, hvirtual, -⟩ := Context.stored_eq_ok_iff.1 hstored
  have hread : owner ∈ ctx.schemasRead clauses := by
    rw [h.joined_eq] at howned
    exact List.mem_cons.2 howned
  obtain ⟨qualifier, hplace, hqualifier⟩ := forall₂_exists_zip_right h.aliased owner hread
  have hsame : qualifier = c.qualifier := Option.some.inj (hqualifier.symm.trans halias)
  exact ⟨owner, hsame ▸ hplace, hname ▸ Schema.storesColumn_of_field hfield hvirtual⟩

/-- The columns of each join are stored exactly if the keys of its navigation are. -/
theorem onStored_iff (h : statement.MadeOf ctx clauses references t) :
    List.Forall₂ (fun schema join =>
        join.OnStored ctx.root schema ↔ KeysStored ctx.root references schema)
      (ctx.schemasJoined clauses) statement.joins := by
  refine List.forall₂_iff_zip.2 ⟨h.joins_of_joined.length_eq, fun {schema join} hmem => ?_⟩
  have hjoin := (List.forall₂_iff_zip.1 h.joins_of_joined).2 hmem
  have hin : schema ∈ t.joined := h.joined_eq ▸ (List.of_mem_zip hmem).1
  exact onStored_iff_of_joinOf (h.known schema hin) hjoin

/-- If the keys of every navigation are stored, the joins equate stored columns. -/
theorem hasColumn_of_joins (h : statement.MadeOf ctx clauses references t)
    (hkeys : ∀ schema ∈ ctx.schemasJoined clauses, KeysStored ctx.root references schema) :
    ∀ join ∈ statement.joins, ∀ pair ∈ join.pairs,
      statement.HasColumn ctx clauses pair.1 ∧ statement.HasColumn ctx clauses pair.2 := by
  intro join hjoin pair hpair
  obtain ⟨schema, hplace, hon⟩ := forall₂_exists_zip_left h.onStored_iff join hjoin
  have hschema := (List.of_mem_zip hplace).1
  obtain ⟨hleft, hright⟩ := hon.2 (hkeys schema hschema) pair hpair
  obtain ⟨hqualifier, hprimary⟩ := qualifier_of_joinsTo h.joined.joins join hjoin pair hpair
  refine ⟨⟨schema, ?_, hleft⟩, ⟨ctx.root, ?_, hright⟩⟩
  · rw [hqualifier]
    exact standsFor_join hplace
  · rw [hprimary]
    exact h.standsFor_root

end Statement.MadeOf

/-- No statement is made of a virtual field that a clause uses, and the columns of used fields and
of a selection are stored in a table that their alias stands for. The columns of a join are so
exactly if the keys of its navigation are stored; if all of them are, so are all columns. -/
theorem stored_columns_of_compile {registry : Registry} {root : String} {clauses : Clauses}
    {query : SqlQuery} (h : compile registry root clauses = .ok query) :
    ∃ ctx statement references,
      Context.of registry root = .ok ctx ∧
      plan registry root clauses = .ok (statement, query.params) ∧
      query.sql = statement.text ∧
      referencedFields ctx.root (clauses.ofKind .reference) = .ok references ∧
      (∀ ref ∈ clauses.usedFields, ∃ owner field, ctx.owner ref = .ok owner ∧
        owner.field ref.name = .ok field ∧ field.isVirtual = false) ∧
      (∀ c ∈ statement.head.selected ++ statement.usedColumns,
        statement.HasColumn ctx clauses c) ∧
      List.Forall₂ (fun schema join =>
          join.OnStored ctx.root schema ↔ KeysStored ctx.root references schema)
        (ctx.schemasJoined clauses) statement.joins ∧
      ((∀ schema ∈ ctx.schemasJoined clauses, KeysStored ctx.root references schema) →
        ∀ c ∈ statement.columns, statement.HasColumn ctx clauses c) := by
  obtain ⟨ctx, statement, references, t, hctx, hplan, htext, hmade⟩ := statement_of_compile h
  have hselected := hmade.hasColumn_of_selected
  have hused := hmade.hasColumn_of_used
  refine ⟨ctx, statement, references, hctx, hplan, htext, hmade.referenced,
    hmade.stored_of_mem_usedFields, List.forall_mem_append.2 ⟨hselected, hused⟩,
    hmade.onStored_iff, fun hkeys => ?_⟩
  have hjoins := hmade.hasColumn_of_joins hkeys
  refine List.forall_mem_append.2 ⟨List.forall_mem_append.2 ⟨hselected, fun c hmem => ?_⟩, hused⟩
  obtain ⟨join, hjoin, hpairs⟩ := List.mem_flatMap.1 hmem
  obtain ⟨pair, hpair, hside⟩ := List.mem_flatMap.1 hpairs
  rcases List.mem_pair.1 hside with rfl | rfl
  · exact (hjoins join hjoin pair hpair).1
  · exact (hjoins join hjoin pair hpair).2

/-- The lines of an order name columns of the two tables only, also where these are joined. -/
theorem stored_columns_of_compile_sample :
    ∃ query statement, compile sampleLines "Line" sampleLineClauses = .ok query ∧
      plan sampleLines "Line" sampleLineClauses = .ok (statement, query.params) ∧
      ∀ c ∈ statement.columns,
        statement.HasColumn ⟨sampleLines, sampleLine⟩ sampleLineClauses c := by
  have hok : (compile sampleLines "Line" sampleLineClauses).isOk = true := by
    decide +kernel
  obtain ⟨query, hquery⟩ := except_exists_of_isOk hok
  obtain ⟨ctx, statement, references, hctx, hplan, -, hreferences, -, -, -, hall⟩ :=
    stored_columns_of_compile hquery
  obtain rfl : (⟨sampleLines, sampleLine⟩ : Context) = ctx := Except.ok.inj hctx
  obtain rfl : [] = references := Except.ok.inj hreferences
  have hjoined : Context.schemasJoined ⟨sampleLines, sampleLine⟩ sampleLineClauses =
      [sampleOrder] := by
    decide +kernel
  have hkeys : KeysStored sampleLine [] sampleOrder := by
    refine ⟨"Order", ⟨["OrderId"], ["Id"]⟩, rfl, rfl, ?_, ?_⟩
    · exact List.forall_mem_singleton.2 ⟨_, rfl, by decide⟩
    · exact List.forall_mem_singleton.2 ⟨_, rfl, by decide⟩
  refine ⟨query, statement, hquery, hplan, hall ?_⟩
  rw [hjoined]
  exact List.forall_mem_singleton.2 hkeys

/-- A sample schema of authors with their books, and one of books that do not store the author. -/
def sampleAuthor : Schema :=
  ⟨"Author", "authors",
    [⟨"Id", "id", .int64, true, false, none⟩,
      .ofNavigation "Books" ⟨"Book", true, ["Id"], ["WrittenBy"]⟩], []⟩

def sampleBook : Schema :=
  ⟨"Book", "books",
    [⟨"Id", "id", .int64, true, false, none⟩, ⟨"Title", "title", .text, false, false, none⟩,
      ⟨"WrittenBy", "written_by", .int64, false, true, none⟩], []⟩

/-- The authors of books with a title. -/
def sampleAuthorClauses : Clauses :=
  .ofList [.of .filter (.compare .eq (.fieldOf "Book" "Title") (.literal (.text "emma")))]

def sampleAuthors : Registry := .ofList [sampleAuthor, sampleBook]

/-- The books are joined by the column of a virtual field, which their table does not have. -/
theorem joined_by_virtual_field :
    ∃ statement params,
      plan sampleAuthors "Author" sampleAuthorClauses = .ok (statement, params) ∧
      statement.text = "SELECT a.id FROM authors a LEFT JOIN books b ON b.written_by = a.id " ++
        "WHERE (b.title = @_title_0_)" ∧
      ⟨"b", "written_by"⟩ ∈ statement.columns ∧
      ¬ statement.HasColumn ⟨sampleAuthors, sampleAuthor⟩ sampleAuthorClauses
        ⟨"b", "written_by"⟩ := by
  have hmade : (plan sampleAuthors "Author" sampleAuthorClauses).toOption.map
      (fun made => (made.1.text, made.1.columns, made.1.introduced)) =
        some ("SELECT a.id FROM authors a LEFT JOIN books b ON b.written_by = a.id " ++
          "WHERE (b.title = @_title_0_)",
          [⟨"a", "id"⟩, ⟨"b", "written_by"⟩, ⟨"a", "id"⟩, ⟨"b", "title"⟩], ["a", "b"]) := by
    decide +kernel
  have hread : Context.schemasRead ⟨sampleAuthors, sampleAuthor⟩ sampleAuthorClauses =
      [sampleAuthor, sampleBook] := by
    decide +kernel
  rcases hplan : plan sampleAuthors "Author" sampleAuthorClauses with e | ⟨statement, params⟩
  · rw [hplan] at hmade
    cases hmade
  rw [hplan] at hmade
  obtain ⟨htext, hparts⟩ := Prod.mk.inj (Option.some.inj hmade)
  obtain ⟨hcolumns, hintroduced⟩ := Prod.mk.inj hparts
  refine ⟨statement, params, rfl, htext, hcolumns ▸ by decide, ?_⟩
  rintro ⟨schema, hstands, hstored⟩
  rw [Statement.StandsFor, hread, hintroduced] at hstands
  have hbook : schema = sampleBook := by simpa using hstands
  rw [hbook] at hstored
  exact absurd hstored (by decide)

end Sql

end EntityQuery
