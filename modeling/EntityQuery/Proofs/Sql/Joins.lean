import EntityQuery.Proofs.Schema.JoinKeys
import EntityQuery.Proofs.Sql.Meaning
import EntityQuery.Proofs.Sql.Uses

/-!
# Joins

The joins of a statement are those of the entities, besides the root, whose fields are used, each
once and in the order of first use. So every alias in the text is the root's or comes with a join:
the list of used entities and the aliases, which are kept apart, grow with the same uses.
-/
namespace EntityQuery

/-- The entity of a field, unless it is the root. -/
def FieldRef.otherEntity? (ref : FieldRef) (root : String) : Option String :=
  ref.entity.filter (· ≠ root)

/-- The entities besides the root that own a used field, in the order of first use. -/
def Clauses.joinedEntities (clauses : Clauses) (root : String) : List String :=
  (clauses.usedFields.filterMap (·.otherEntity? root)).eraseDups

namespace Sql

/-- The column of a field of the schema, under an alias. -/
def ColumnOf (schema : Schema) (qualifier name : String) (c : Column) : Prop :=
  ∃ field, schema.field name = .ok field ∧ c = ⟨qualifier, field.column⟩

/-- The join leads from the root to an entity. It goes along the navigation field that is chosen,
and equates exactly the keys that are derived for it: columns of the entity on the left, of the root
on the right. -/
def JoinsTo (ctx : Context) (references : List String) (entity : String) (join : Join) : Prop :=
  ∃ target field keys,
    ctx.registry.get entity = .ok target ∧
    navigationField ctx.root references target = .ok field ∧
    JoinKeys.derive ctx.root field target = .ok keys ∧
    join.table = target.table ∧
    join.pairs ≠ [] ∧
    List.Forall₂ (ColumnOf target join.qualifier) keys.foreignKeys (join.pairs.map (·.1)) ∧
    List.Forall₂ (ColumnOf ctx.root Aliases.primary) keys.referenceKeys (join.pairs.map (·.2))

theorem joinPairs_ok {root target : Schema} {qualifier : String} {foreign references : List String}
    {pairs : List (Column × Column)} (hpaired : references.length = foreign.length)
    (h : joinPairs root target qualifier (foreign.zip references) = .ok pairs) :
    List.Forall₂ (ColumnOf target qualifier) foreign (pairs.map (·.1)) ∧
      List.Forall₂ (ColumnOf root Aliases.primary) references (pairs.map (·.2)) := by
  induction foreign generalizing references pairs with
  | nil =>
      obtain rfl : references = [] := List.length_eq_zero_iff.1 hpaired
      cases h
      exact ⟨.nil, .nil⟩
  | cons foreign foreigns ih =>
      obtain ⟨reference, references, rfl⟩ :=
        List.exists_cons_of_length_eq_add_one hpaired
      obtain ⟨targetField, htarget, h⟩ := except_bind_eq_ok_iff.1 h
      obtain ⟨rootField, hroot, h⟩ := except_bind_eq_ok_iff.1 h
      obtain ⟨rest, hrest, h⟩ := except_bind_eq_ok_iff.1 h
      cases h
      obtain ⟨hleft, hright⟩ := ih (by simpa using hpaired) hrest
      exact ⟨.cons ⟨targetField, htarget, rfl⟩ hleft, .cons ⟨rootField, hroot, rfl⟩ hright⟩

/-- The alias of a join is that of the table it adds. -/
theorem joinOf_ok {root target : Schema} {aliases : Aliases} {references : List String}
    {join : Join} (h : joinOf root aliases references target = .ok join) :
    ∃ field keys, navigationField root references target = .ok field ∧
      JoinKeys.derive root field target = .ok keys ∧
      aliases.get? target.table = some join.qualifier ∧
      joinPairs root target join.qualifier (keys.foreignKeys.zip keys.referenceKeys) =
        .ok join.pairs ∧
      join.table = target.table := by
  obtain ⟨field, hfield, h⟩ := except_bind_eq_ok_iff.1 h
  obtain ⟨keys, hkeys, h⟩ := except_bind_eq_ok_iff.1 h
  split at h
  · cases h
  · next qualifier hqualifier =>
      obtain ⟨pairs, hpairs, h⟩ := except_bind_eq_ok_iff.1 h
      cases h
      exact ⟨field, keys, hfield, hkeys, hqualifier, hpairs, rfl⟩

theorem joinsOf_ok {root : Schema} {aliases : Aliases} {references : List String}
    {targets : List Schema} {joins : List Join}
    (h : joinsOf root aliases references targets = .ok joins) :
    List.Forall₂ (fun target join => joinOf root aliases references target = .ok join)
      targets joins := by
  induction targets generalizing joins with
  | nil =>
      cases h
      exact .nil
  | cons target targets ih =>
      obtain ⟨first, hfirst, h⟩ := except_bind_eq_ok_iff.1 h
      obtain ⟨rest, hrest, h⟩ := except_bind_eq_ok_iff.1 h
      cases h
      exact .cons hfirst (ih hrest)

theorem joinsTo_of_joinOf {ctx : Context} {target : Schema} {aliases : Aliases}
    {references : List String} {join : Join}
    (hknown : ctx.registry.get target.entity = .ok target)
    (h : joinOf ctx.root aliases references target = .ok join) :
    JoinsTo ctx references target.entity join := by
  obtain ⟨field, keys, hfield, hkeys, -, hpairs, htable⟩ := joinOf_ok h
  obtain ⟨hforeign, hpaired, -, -⟩ := JoinKeys.checked_of_derive hkeys
  obtain ⟨hleft, hright⟩ := joinPairs_ok hpaired hpairs
  refine ⟨target, field, keys, hknown, hfield, hkeys, htable, ?_, hleft, hright⟩
  intro hnone
  rw [hnone] at hleft
  exact hforeign (List.forall₂_nil_right_iff.1 hleft)

/-- A field belongs to the root or to another entity of the registry. -/
theorem Context.owner_cases {ctx : Context} {ref : FieldRef} {owner : Schema}
    (h : ctx.owner ref = .ok owner) :
    (ref.otherEntity? ctx.root.entity = none ∧ owner = ctx.root) ∨
      (ref.otherEntity? ctx.root.entity = some owner.entity ∧ owner.entity ≠ ctx.root.entity ∧
        ctx.registry.get owner.entity = .ok owner) := by
  unfold Context.owner at h
  split at h
  · next hnone =>
      cases h
      exact .inl ⟨by simp [FieldRef.otherEntity?, hnone], rfl⟩
  · next entity hsome =>
      by_cases hroot : entity = ctx.root.entity
      · rw [if_pos hroot] at h
        cases h
        exact .inl ⟨by simp [FieldRef.otherEntity?, hsome, hroot], rfl⟩
      · rw [if_neg hroot] at h
        have hname : owner.entity = entity :=
          Registry.entity_of_get? (Registry.get_eq_ok_iff.1 h)
        rw [hname]
        exact .inr ⟨by simp [FieldRef.otherEntity?, hsome, hroot], hroot, h⟩

/-- A name that is new is kept, and is old from then on. -/
theorem eraseDups_removeAll_cons {name : String} {old : List String} (h : name ∉ old)
    (names : List String) :
    ((name :: names).removeAll old).eraseDups =
      name :: (names.removeAll (old ++ [name])).eraseDups := by
  have hold : old.elem name = false := by simpa using h
  have hrest : (names.removeAll old).filter (fun other => !other == name) =
      names.removeAll (old ++ [name]) := by
    rw [List.removeAll, List.removeAll, List.filter_filter]
    refine List.filter_congr fun other _ => ?_
    simp [Bool.and_comm, beq_eq_decide]
  rw [List.removeAll, List.filter_cons_of_pos (by rw [hold]; rfl), List.eraseDups_cons]
  exact congrArg (fun rest => name :: rest.eraseDups) hrest

/-- The names of the joined entities. -/
def Scope.joinedNames (s : Scope) : List String := s.joined.map (·.entity)

theorem Scope.joinedNames_using (s : Scope) (ctx : Context) (owner : Schema) :
    (s.using ctx owner).joinedNames =
      if owner.entity = ctx.root.entity ∨ owner.entity ∈ s.joinedNames then s.joinedNames
      else s.joinedNames ++ [owner.entity] := by
  have hany : s.joined.any (·.entity = owner.entity) = true ↔ owner.entity ∈ s.joinedNames := by
    simp [joinedNames]
  show ((s.join ctx owner).joined.map (·.entity)) = _
  unfold Scope.join
  simp only [hany]
  split <;> simp [joinedNames]

/-- The entity of a used field is the root or noted as joined. -/
theorem Scope.mem_joinedNames_using (s : Scope) (ctx : Context) (owner : Schema) :
    owner.entity = ctx.root.entity ∨ owner.entity ∈ (s.using ctx owner).joinedNames := by
  rw [joinedNames_using]
  split
  · assumption
  · simp

/-- Where the column of a field comes from: its alias is that of the table of the owner, which is
the root or noted as joined. -/
def ShownAs (ctx : Context) (t : Scope) (ref : FieldRef) (c : Column) : Prop :=
  ∃ owner field, ctx.stored ref = .ok (owner, field) ∧ c.name = field.column ∧
    t.aliases.get? owner.table = some c.qualifier ∧
    (owner.entity = ctx.root.entity ∨ owner.entity ∈ t.joinedNames)

theorem shownAs_columnIn {ctx : Context} {s t : Scope} {ref : FieldRef} {owner : Schema}
    {field : Field} (hstored : ctx.stored ref = .ok (owner, field))
    (hgrows : (s.using ctx owner).Grows t) : ShownAs ctx t ref (s.columnIn owner field) := by
  have halias : (s.using ctx owner).aliases.get? owner.table =
      some (Aliases.token (s.aliases.tables.idxOf owner.table)) := by
    have hmem := s.aliases.mem_including owner.table
    have hidx := s.aliases.idxOf_including owner.table
    exact (Aliases.get?_of_mem hmem).trans (by rw [hidx])
  refine ⟨owner, field, hstored, rfl, hgrows.alias_eq halias, ?_⟩
  refine (s.mem_joinedNames_using ctx owner).imp_right fun hmem => ?_
  exact (hgrows.joined.map (·.entity)).subset hmem

/-- A column stays that of its field when more is given out. -/
theorem ShownAs.of_grows {ctx : Context} {s t : Scope} {ref : FieldRef} {c : Column}
    (h : ShownAs ctx s ref c) (hgrows : s.Grows t) : ShownAs ctx t ref c := by
  obtain ⟨owner, field, hstored, hname, halias, howner⟩ := h
  refine ⟨owner, field, hstored, hname, hgrows.alias_eq halias, howner.imp_right fun hmem => ?_⟩
  exact (hgrows.joined.map (·.entity)).subset hmem

/-- The column that an operand is. -/
def Operand.column? : Operand → Option Column
  | .column c => some c
  | .parameter _ => none

namespace Uses

variable {ctx : Context} {s t : Scope} {refs : List FieldRef} {shown : List Operand}

/-- Each used field shows its column, and no other columns are shown. -/
theorem columns (h : Uses ctx s refs shown t) :
    List.Forall₂ (ShownAs ctx t) refs (shown.filterMap Operand.column?) := by
  induction h with
  | done s => exact .nil
  | column hstored huses ih => exact .cons (shownAs_columnIn hstored huses.grows) ih
  | parameter _ _ ih => exact ih
  | keyword _ _ _ _ ih => exact ih

/-- The entities that are noted are those of the used fields that were not noted before, each at its
first use. -/
theorem joinedNames_eq (h : Uses ctx s refs shown t) :
    t.joinedNames = s.joinedNames ++
      ((refs.filterMap (·.otherEntity? ctx.root.entity)).removeAll s.joinedNames).eraseDups := by
  induction h with
  | done s => simp [List.removeAll]
  | @column s t ref owner field refs shown hstored huses ih =>
      obtain ⟨howner, -⟩ := Context.stored_eq_ok_iff.1 hstored
      rw [ih, Scope.joinedNames_using]
      rcases Context.owner_cases howner with ⟨hother, rfl⟩ | ⟨hother, hroot, -⟩
      · rw [if_pos (.inl rfl)]
        simp only [List.filterMap_cons, hother]
      · simp only [List.filterMap_cons, hother]
        by_cases hnoted : owner.entity ∈ s.joinedNames
        · rw [if_pos (.inr hnoted)]
          simp [List.removeAll, hnoted]
        · rw [if_neg (by simp [hroot, hnoted])]
          rw [eraseDups_removeAll_cons hnoted, List.append_assoc, List.singleton_append]
  | parameter _ _ ih => exact ih
  | @keyword s u _ _ _ _ _ hjoined _ ih =>
      have hsame : u.joinedNames = s.joinedNames := congrArg (List.map Schema.entity) hjoined
      rw [ih, hsame]

/-- Every schema that is noted is the one that the registry has for its entity. -/
theorem known_of_mem_joined (h : Uses ctx s refs shown t)
    (hs : ∀ schema ∈ s.joined, ctx.registry.get schema.entity = .ok schema) :
    ∀ schema ∈ t.joined, ctx.registry.get schema.entity = .ok schema := by
  induction h with
  | done s => exact hs
  | @column s t ref owner field refs shown hstored huses ih =>
      obtain ⟨howner, -⟩ := Context.stored_eq_ok_iff.1 hstored
      refine ih fun schema hmem => ?_
      rcases Context.owner_cases howner with ⟨-, rfl⟩ | ⟨-, -, hknown⟩
      · simp [Scope.using, Scope.join] at hmem
        exact hs schema hmem
      · have hcases : schema ∈ s.joined ∨ schema = owner := by
          simp only [Scope.using, Scope.join] at hmem
          split at hmem
          · exact .inl hmem
          · simpa using hmem
        rcases hcases with hbefore | rfl
        · exact hs schema hbefore
        · exact hknown
  | parameter _ _ ih => exact ih hs
  | keyword _ _ hjoined _ ih => exact ih (hjoined ▸ hs)

end Uses

/-- The columns that a selection lists. -/
def Head.selected : Head → List Column
  | .select columns => columns
  | _ => []

/-- The columns of used fields, in the order of use. -/
def Statement.usedColumns (s : Statement) : List Column := s.operands.filterMap Operand.column?

/-- All columns in the text of a statement. -/
def Statement.columns (s : Statement) : List Column :=
  s.head.selected ++ s.joins.flatMap (·.pairs.flatMap fun pair => [pair.1, pair.2]) ++ s.usedColumns

/-- The column of a field, under the alias of the root or of the join of another owner. -/
def ReadThrough (ctx : Context) (joins : List Join) (ref : FieldRef) (c : Column) : Prop :=
  ∃ owner field, ctx.stored ref = .ok (owner, field) ∧ c.name = field.column ∧
    (owner = ctx.root ∧ c.qualifier = Aliases.primary ∨
      ∃ join ∈ joins, join.table = owner.table ∧ c.qualifier = join.qualifier)

/-- The joins of a statement are complete and minimal: one for each other entity whose fields are
used, and none besides. With them every alias in the text is known. -/
structure Statement.Joined (ctx : Context) (clauses : Clauses) (references : List String)
    (statement : Statement) : Prop where
  joins : List.Forall₂ (JoinsTo ctx references) (clauses.joinedEntities ctx.root.entity)
    statement.joins
  fields : List.Forall₂ (ReadThrough ctx statement.joins) clauses.usedFields statement.usedColumns
  table : statement.table = ctx.root.table
  qualifier : statement.qualifier = Aliases.primary
  qualifiers : ∀ c ∈ statement.columns,
    c.qualifier = Aliases.primary ∨ ∃ join ∈ statement.joins, c.qualifier = join.qualifier

section

variable {ctx : Context} {aliases : Aliases} {references : List String} {targets : List Schema}
  {joins : List Join}

theorem joinsTo_of_joinsOf
    (hknown : ∀ target ∈ targets, ctx.registry.get target.entity = .ok target)
    (h : joinsOf ctx.root aliases references targets = .ok joins) :
    List.Forall₂ (JoinsTo ctx references) (targets.map (·.entity)) joins := by
  have hjoins := joinsOf_ok h
  clear h
  induction hjoins with
  | nil => exact .nil
  | cons hjoin _ ih =>
      obtain ⟨hfirst, hrest⟩ := List.forall_mem_cons.1 hknown
      exact .cons (joinsTo_of_joinOf hfirst hjoin) (ih hrest)

theorem qualifier_of_columnOf {schema : Schema} {qualifier : String} {names : List String}
    {columns : List Column} (h : List.Forall₂ (ColumnOf schema qualifier) names columns) :
    ∀ c ∈ columns, c.qualifier = qualifier := by
  intro c hmem
  obtain ⟨name, -, field, -, rfl⟩ := forall₂_exists_left h c hmem
  rfl

/-- The columns that a join equates are under its own alias and the root's. -/
theorem qualifier_of_joinsTo {entities : List String}
    (h : List.Forall₂ (JoinsTo ctx references) entities joins) :
    ∀ join ∈ joins, ∀ pair ∈ join.pairs,
      pair.1.qualifier = join.qualifier ∧ pair.2.qualifier = Aliases.primary := by
  intro join hjoin pair hpair
  obtain ⟨entity, -, target, field, keys, -, -, -, -, -, hleft, hright⟩ :=
    forall₂_exists_left h join hjoin
  exact ⟨qualifier_of_columnOf hleft _ (List.mem_map_of_mem hpair),
    qualifier_of_columnOf hright _ (List.mem_map_of_mem hpair)⟩

theorem qualifier_of_readThrough {refs : List FieldRef} {columns : List Column}
    (h : List.Forall₂ (ReadThrough ctx joins) refs columns) :
    ∀ c ∈ columns,
      c.qualifier = Aliases.primary ∨ ∃ join ∈ joins, c.qualifier = join.qualifier := by
  intro c hmem
  obtain ⟨ref, -, owner, field, -, -, hread⟩ := forall₂_exists_left h c hmem
  rcases hread with ⟨-, hprimary⟩ | ⟨join, hjoin, -, hqualifier⟩
  · exact .inl hprimary
  · exact .inr ⟨join, hjoin, hqualifier⟩

/-- With the schemas of the registry, the owner of a column is the root or noted itself. -/
theorem owner_of_shownAs {t : Scope} {ref : FieldRef} {c : Column}
    (hknown : ∀ schema ∈ t.joined, ctx.registry.get schema.entity = .ok schema)
    (h : ShownAs ctx t ref c) :
    ∃ owner field, ctx.stored ref = .ok (owner, field) ∧ c.name = field.column ∧
      t.aliases.get? owner.table = some c.qualifier ∧ (owner = ctx.root ∨ owner ∈ t.joined) := by
  obtain ⟨owner, field, hstored, hname, halias, howned⟩ := h
  refine ⟨owner, field, hstored, hname, halias, ?_⟩
  obtain ⟨howner, -⟩ := Context.stored_eq_ok_iff.1 hstored
  rcases Context.owner_cases howner with ⟨-, hroot⟩ | ⟨-, hother, hget⟩
  · exact .inl hroot
  · obtain ⟨target, hmem, hsame⟩ := List.mem_map.1 (howned.resolve_left hother)
    have htarget := hknown target hmem
    rw [hsame, hget] at htarget
    exact .inr (Except.ok.inj htarget ▸ hmem)

/-- With the joins of all entities that are noted, a column is read through that of its owner. -/
theorem readThrough_of_shownAs {t : Scope} {ref : FieldRef} {c : Column}
    (hknown : ∀ schema ∈ t.joined, ctx.registry.get schema.entity = .ok schema)
    (hprimary : t.aliases.get? ctx.root.table = some Aliases.primary)
    (hjoins : joinsOf ctx.root t.aliases references t.joined = .ok joins)
    (h : ShownAs ctx t ref c) : ReadThrough ctx joins ref c := by
  obtain ⟨owner, field, hstored, hname, halias, howned⟩ := owner_of_shownAs hknown h
  refine ⟨owner, field, hstored, hname, ?_⟩
  rcases howned with rfl | hmem
  · exact .inl ⟨rfl, Option.some.inj (halias.symm.trans hprimary)⟩
  · obtain ⟨join, hin, hjoin⟩ := forall₂_exists_right (joinsOf_ok hjoins) owner hmem
    obtain ⟨_, _, -, -, hqualifier, -, htable⟩ := joinOf_ok hjoin
    exact .inr ⟨join, hin, htable, Option.some.inj (halias.symm.trans hqualifier)⟩

/-- A selection lists columns of the root only. -/
theorem qualifier_of_selected {clauses : Clauses} {head : Head} {s t : Scope}
    (h : (headOf ctx clauses).runOn s = (.ok head, t)) :
    ∀ c ∈ head.selected, c.qualifier = Aliases.primary := by
  cases head with
  | select columns =>
      rw [selected_of_headOf h]
      intro c hmem
      obtain ⟨field, -, rfl⟩ := List.mem_map.1 hmem
      rfl
  | count _ | update => simp [Head.selected]

/-- All columns of a statement are under the alias of the root or of a join. -/
theorem Statement.qualifier_of_mem_columns {statement : Statement} {entities : List String}
    {refs : List FieldRef}
    (hselected : ∀ c ∈ statement.head.selected, c.qualifier = Aliases.primary)
    (hjoins : List.Forall₂ (JoinsTo ctx references) entities statement.joins)
    (hfields : List.Forall₂ (ReadThrough ctx statement.joins) refs statement.usedColumns) :
    ∀ c ∈ statement.columns,
      c.qualifier = Aliases.primary ∨ ∃ join ∈ statement.joins, c.qualifier = join.qualifier := by
  intro c hmem
  rcases List.mem_append.1 hmem with hmem | hused
  · rcases List.mem_append.1 hmem with hin | hjoined
    · exact .inl (hselected c hin)
    · obtain ⟨join, hjoin, hpairs⟩ := List.mem_flatMap.1 hjoined
      obtain ⟨pair, hpair, hside⟩ := List.mem_flatMap.1 hpairs
      obtain ⟨hleft, hright⟩ := qualifier_of_joinsTo hjoins join hjoin pair hpair
      rcases List.mem_pair.1 hside with rfl | rfl
      · exact .inr ⟨join, hjoin, hleft⟩
      · exact .inl hright
  · exact qualifier_of_readThrough hfields c hused

end

/-- What is known of a statement that clauses are compiled to, and of the scope at its end. -/
structure Statement.MadeOf (ctx : Context) (clauses : Clauses) (references : List String)
    (t : Scope) (statement : Statement) : Prop where
  table : statement.table = ctx.root.table
  qualifier : statement.qualifier = Aliases.primary
  head : ∃ headed, (headOf ctx clauses).runOn ctx.scope = (.ok statement.head, headed)
  uses : Uses ctx ctx.scope clauses.usedFields statement.operands t
  referenced : referencedFields ctx.root (clauses.ofKind .reference) = .ok references
  joins : joinsOf ctx.root t.aliases references t.joined = .ok statement.joins

namespace Statement.MadeOf

variable {ctx : Context} {clauses : Clauses} {references : List String} {t : Scope}
  {statement : Statement}

theorem of_steps {headed assigned filtered ordered : Scope}
    (steps : StatementSteps ctx clauses statement references ctx.scope headed assigned filtered
      ordered t) : statement.MadeOf ctx clauses references t :=
  ⟨steps.table, steps.qualifier, ⟨headed, steps.head⟩, Uses.of_statementSteps steps,
    steps.referenced, steps.joins⟩

/-- The joined entities are those of the registry. -/
theorem known (h : statement.MadeOf ctx clauses references t) :
    ∀ schema ∈ t.joined, ctx.registry.get schema.entity = .ok schema :=
  h.uses.known_of_mem_joined (by simp [Context.scope, Scope.ofTable])

/-- The entities that are noted as joined are those whose fields the clauses use. -/
theorem joinedNames_eq (h : statement.MadeOf ctx clauses references t) :
    t.joinedNames = clauses.joinedEntities ctx.root.entity := by
  rw [h.uses.joinedNames_eq]
  simp [Scope.joinedNames, Context.scope, Scope.ofTable, List.removeAll, Clauses.joinedEntities]

/-- The table of the root has the first alias. -/
theorem primary_eq (h : statement.MadeOf ctx clauses references t) :
    t.aliases.get? ctx.root.table = some Aliases.primary := by
  refine h.uses.grows.alias_eq ?_
  simp [Context.scope, Scope.ofTable, Aliases.get?, Aliases.tables, Aliases.ofPrimary,
    Aliases.primary]

theorem joined (h : statement.MadeOf ctx clauses references t) :
    statement.Joined ctx clauses references := by
  have hjoins : List.Forall₂ (JoinsTo ctx references)
      (clauses.joinedEntities ctx.root.entity) statement.joins :=
    h.joinedNames_eq ▸ joinsTo_of_joinsOf h.known h.joins
  have hfields : List.Forall₂ (ReadThrough ctx statement.joins) clauses.usedFields
      statement.usedColumns :=
    h.uses.columns.imp fun _ _ hshown =>
      readThrough_of_shownAs h.known h.primary_eq h.joins hshown
  obtain ⟨headed, hhead⟩ := h.head
  have hqualifiers := qualifier_of_mem_columns (qualifier_of_selected hhead) hjoins hfields
  exact ⟨hjoins, hfields, h.table, h.qualifier, hqualifiers⟩

end Statement.MadeOf

/-- The query of compiled clauses is that of the statement they are made into. -/
theorem statement_of_compile {registry : Registry} {root : String} {clauses : Clauses}
    {query : SqlQuery} (h : compile registry root clauses = .ok query) :
    ∃ ctx statement references t,
      Context.of registry root = .ok ctx ∧
      plan registry root clauses = .ok (statement, query.params) ∧
      query.sql = statement.text ∧
      statement.MadeOf ctx clauses references t := by
  obtain ⟨ctx, hctx, hcompile⟩ := compile_ok h
  obtain ⟨statement, t, hrun, rfl⟩ := compileOn_ok hcompile
  obtain ⟨references, headed, assigned, filtered, ordered, steps⟩ := statementSteps_of_ok hrun
  exact ⟨ctx, statement, references, t, hctx, plan_of_statementOf hctx hrun, rfl, .of_steps steps⟩

/-- The sample schema of a line of an order. -/
def sampleLine : Schema :=
  ⟨"Line", "lines",
    [⟨"Id", "id", .int32, true, false, none⟩,
      ⟨"OrderId", "order_id", .int32, false, false, none⟩,
      .ofNavigation "Order" ⟨"Order", false, ["OrderId"], ["Id"]⟩], []⟩

def sampleLines : Registry := .ofList [sampleLine, sampleOrder]

/-- The lines of paid orders, and of order seven, by customer. -/
def sampleLineClauses : Clauses :=
  .ofList [.of .orderBy (.fieldOf "Order" "Customer"),
    .of .filter (.or (.fieldOf "Order" "Paid")
      (.compare .eq (.rootField "OrderId") (.literal (.int32 7))))]

end Sql

end EntityQuery
