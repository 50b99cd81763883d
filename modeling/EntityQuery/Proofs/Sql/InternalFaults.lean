import EntityQuery.Proofs.Schema.Registry
import EntityQuery.Proofs.Sql.Joins
import EntityQuery.Proofs.Sql.Membership

/-!
# Internal faults

Two errors of a compilation would report that its own records disagree: that the table of a known
entity is unknown, and that a joined table has no alias. In a registry made by insertions the table
of every known entity is known. So every column that is used gets its table an alias, and whatever
step has succeeded, the tables of all joined entities have one. Neither error is ever met.
-/
namespace EntityQuery

/-- The errors that report a fault of the records and not of the input. -/
def QueryError.IsInternal : QueryError → Prop
  | .schema (.unknownTable _) => True
  | .compile (.noAlias _) => True
  | _ => False

/-- The result is no internal error. -/
def Regular {α : Type} : Except QueryError α → Prop
  | .ok _ => True
  | .error e => ¬ e.IsInternal

namespace Regular

variable {α β : Type} {x : Except QueryError α}

theorem bind {f : α → Except QueryError β} (hx : Regular x) (hf : ∀ a, Regular (f a)) :
    Regular (x >>= f) := by
  cases x with
  | error e => exact hx
  | ok a => exact hf a

theorem map (hx : Regular x) (f : α → β) : Regular (x.map f) := by
  cases x with
  | error e => exact hx
  | ok a => exact trivial

end Regular

theorem Schema.regular_field (schema : Schema) (name : String) : Regular (schema.field name) := by
  unfold Schema.field
  split
  · exact trivial
  · exact id

theorem Schema.regular_navigation (schema : Schema) (name : String) :
    Regular (schema.navigation name) := by
  refine (schema.regular_field name).bind fun field => ?_
  split
  · exact trivial
  · exact id

theorem Registry.regular_get (registry : Registry) (entity : String) :
    Regular (registry.get entity) := by
  unfold Registry.get
  split
  · exact trivial
  · exact id

namespace JoinKeys

theorem regular_requireFields (schema : Schema) (names : List String) :
    Regular (requireFields schema names) := by
  induction names with
  | nil => exact trivial
  | cons name names ih => exact (schema.regular_field name).bind fun _ => ih

theorem regular_check (source : Schema) (field : String) (target : Schema) (keys : JoinKeys) :
    Regular (check source field target keys) := by
  unfold check
  by_cases hreference : keys.referenceKeys.isEmpty = true
  · rw [if_pos hreference]
    exact id
  rw [if_neg hreference]
  by_cases hforeign : keys.foreignKeys.isEmpty = true
  · rw [if_pos hforeign]
    exact id
  rw [if_neg hforeign]
  by_cases hpaired : keys.referenceKeys.length ≠ keys.foreignKeys.length
  · rw [if_pos hpaired]
    exact id
  rw [if_neg hpaired]
  exact (regular_requireFields source _).bind fun _ => regular_requireFields target _

theorem regular_choose (source : Schema) (field : String) (navigation : Navigation)
    (target : Schema) : Regular (choose source field navigation target) := by
  have hinverse : Regular (inverseKey? source field target) := by
    unfold inverseKey?
    dsimp only
    split
    · exact trivial
    · exact trivial
    · exact trivial
    · exact id
  unfold choose
  split
  · exact trivial
  · exact trivial
  · refine hinverse.bind fun key? => ?_
    cases key? with
    | none => exact trivial
    | some key => exact trivial

theorem regular_derive (source : Schema) (field : String) (target : Schema) :
    Regular (derive source field target) := by
  refine (source.regular_navigation field).bind fun navigation => ?_
  by_cases htarget : navigation.target ≠ target.entity
  · rw [if_pos htarget]
    exact id
  rw [if_neg htarget]
  refine (regular_choose source field navigation target).bind fun keys => ?_
  exact (regular_check source field target keys).bind fun _ => trivial

end JoinKeys

namespace Sql

theorem regular_memberTexts (values : List Value) : Regular (memberTexts values) := by
  rcases memberTexts_error_or_ok values with ⟨value, -, -, herror⟩ | ⟨-, items, hok, -⟩
  · rw [herror]
    exact id
  · rw [hok]
    exact trivial

theorem regular_rowLimit (e : Expr) : Regular (rowLimit e) := by
  unfold rowLimit
  split
  · exact id
  · split
    · exact trivial
    · exact id
  · exact id

theorem regular_limitPart (clauses : Clauses) : Regular (limitPart clauses) := by
  unfold limitPart
  split
  · exact trivial
  · exact (regular_rowLimit _).map _

theorem regular_checkCombination (clauses : Clauses) : Regular (checkCombination clauses) := by
  unfold checkCombination
  split
  · exact id
  split
  · exact id
  · exact trivial

theorem regular_assignedPairs (e : Expr) : Regular (assignedPairs e) := by
  unfold assignedPairs
  split
  · exact trivial
  · exact trivial
  · exact id

theorem regular_coerce (value : Value) (type : FieldType) :
    Regular ((value.coerce type).mapError .schema) := by
  unfold Value.coerce
  split
  · exact trivial
  · exact id

theorem regular_referenceField (entity : String) (e : Expr) :
    Regular (referenceField entity e) := by
  unfold referenceField
  split
  · split
    · exact id
    · exact trivial
  · exact id

theorem regular_referencedFields (root : Schema) (nodes : List Clause) :
    Regular (referencedFields root nodes) := by
  induction nodes with
  | nil => exact trivial
  | cons node nodes ih =>
    refine (regular_referenceField root.entity node.expr).bind fun field => ?_
    exact (root.regular_navigation field).bind fun _ => ih.bind fun _ => trivial

section Joins

variable {root : Schema} {references : List String}

theorem regular_navigationField (target : Schema) :
    Regular (navigationField root references target) := by
  unfold navigationField
  dsimp only
  split
  · exact trivial
  · exact trivial
  · exact id
  · exact id

theorem regular_joinPairs (target : Schema) (qualifier : String)
    (names : List (String × String)) : Regular (joinPairs root target qualifier names) := by
  induction names with
  | nil => exact trivial
  | cons name names ih =>
    exact (target.regular_field _).bind fun _ => (root.regular_field _).bind fun _ =>
      ih.bind fun _ => trivial

/-- Where the table of the target has an alias, a join is made or refused for the input. -/
theorem regular_joinOf {aliases : Aliases} {target : Schema}
    (haliased : target.table ∈ aliases.tables) :
    Regular (joinOf root aliases references target) := by
  refine (regular_navigationField target).bind fun field => ?_
  refine (JoinKeys.regular_derive root field target).bind fun keys => ?_
  rw [Aliases.get?_of_mem haliased]
  exact (regular_joinPairs target _ _).bind fun _ => trivial

theorem regular_joinsOf {aliases : Aliases} {targets : List Schema}
    (haliased : ∀ target ∈ targets, target.table ∈ aliases.tables) :
    Regular (joinsOf root aliases references targets) := by
  induction targets with
  | nil => exact trivial
  | cons target targets ih =>
    obtain ⟨hfirst, hrest⟩ := List.forall_mem_cons.1 haliased
    exact (regular_joinOf hfirst).bind fun _ => (ih hrest).bind fun _ => trivial

/-- Keys that have been checked are joined in pairs, all of them. -/
theorem exists_joinPairs {target : Schema} {foreigns reference : List String}
    (hpaired : reference.length = foreigns.length)
    (hforeigns : ∀ name ∈ foreigns, ∃ field, target.field name = .ok field)
    (hreference : ∀ name ∈ reference, ∃ field, root.field name = .ok field)
    (qualifier : String) :
    ∃ pairs, joinPairs root target qualifier (foreigns.zip reference) = .ok pairs := by
  induction foreigns generalizing reference with
  | nil => exact ⟨[], rfl⟩
  | cons foreign foreigns ih =>
    obtain ⟨name, names, rfl⟩ := List.exists_cons_of_length_eq_add_one hpaired
    obtain ⟨⟨targetField, htarget⟩, hforeigns⟩ := List.forall_mem_cons.1 hforeigns
    obtain ⟨⟨rootField, hroot⟩, hreference⟩ := List.forall_mem_cons.1 hreference
    obtain ⟨pairs, hpairs⟩ := ih (by simpa using hpaired) hforeigns hreference
    exact ⟨_, by rw [List.zip_cons_cons, joinPairs, htarget, hroot, hpairs]; rfl⟩

end Joins

namespace Build

variable {α β : Type} {P : Scope → Prop}

/-- Where the property holds, the step succeeds and keeps it, or fails with an error that is not
internal. -/
def SafeOn (P : Scope → Prop) (step : Build α) : Prop :=
  ∀ s, P s → (∃ x t, step.runOn s = (.ok x, t) ∧ P t) ∨
    ∃ e t, step.runOn s = (.error e, t) ∧ ¬ e.IsInternal

namespace SafeOn

theorem pure (x : α) : SafeOn P (Pure.pure x : Build α) := fun s hs => .inl ⟨x, s, rfl, hs⟩

theorem throw {e : QueryError} (he : ¬ e.IsInternal) :
    SafeOn P (MonadExcept.throw e : Build α) := fun s _ => .inr ⟨e, s, rfl, he⟩

theorem ofExcept {x : Except QueryError α} (hx : Regular x) : SafeOn P (Build.ofExcept x) := by
  intro s hs
  cases x with
  | error e => exact .inr ⟨e, s, rfl, hx⟩
  | ok a => exact .inl ⟨a, s, rfl, hs⟩

theorem bind {step : Build α} {next : α → Build β} (hstep : SafeOn P step)
    (hnext : ∀ x, SafeOn P (next x)) : SafeOn P (step >>= next) := by
  intro s hs
  rw [runOn_bind]
  rcases hstep s hs with ⟨x, t, hrun, ht⟩ | ⟨e, t, hrun, he⟩
  · rw [hrun]
    exact hnext x t ht
  · rw [hrun]
    exact .inr ⟨e, t, rfl, he⟩

/-- A step that reads the scope may rely on what holds of it. -/
theorem get_bind {next : Scope → Build β}
    (hnext : ∀ s, P s → (∃ y t, (next s).runOn s = (.ok y, t) ∧ P t) ∨
      ∃ e t, (next s).runOn s = (.error e, t) ∧ ¬ e.IsInternal) :
    SafeOn P ((get : Build Scope) >>= next) := by
  intro s hs
  rw [runOn_bind, runOn_get]
  exact hnext s hs

end SafeOn

end Build

/-- The table of every entity that is noted as joined has an alias. -/
def Scope.Covered (s : Scope) : Prop := ∀ schema ∈ s.joined, schema.table ∈ s.aliases.tables

theorem Scope.Covered.using {s : Scope} (hs : s.Covered) (ctx : Context) (owner : Schema) :
    (s.using ctx owner).Covered := by
  intro schema hmem
  have haliases : (s.using ctx owner).aliases = s.aliases.including owner.table := rfl
  have hjoined : schema ∈ s.joined ∨ schema = owner := by
    have hmem : schema ∈ (s.join ctx owner).joined := hmem
    unfold join at hmem
    split at hmem
    · exact .inl hmem
    · simpa using hmem
  rw [haliases]
  rcases hjoined with hold | rfl
  · have hprefix := (s.extends_using ctx owner).grows.aliases
    exact hprefix.subset (hs schema hold)
  · exact Aliases.mem_including s.aliases schema.table

/-- The table of every entity that has fields in the context is known. -/
def Context.TablesKnown (ctx : Context) : Prop :=
  ∀ ref owner, ctx.owner ref = .ok owner → (ctx.registry.byTable? owner.table).isSome = true

theorem Context.regular_stored {ctx : Context} (hknown : ctx.TablesKnown) (ref : FieldRef) :
    Regular (ctx.stored ref) := by
  unfold stored
  cases howner : ctx.owner ref with
  | error e =>
    have hregular : Regular (ctx.owner ref) := by
      unfold owner
      split
      · exact trivial
      · split
        · exact trivial
        · exact ctx.registry.regular_get _
    rwa [howner] at hregular
  | ok owner =>
    have hfield := owner.regular_field ref.name
    have htable : (ctx.registry.byTable? owner.table).isNone = false := by
      simpa using hknown ref owner howner
    cases hname : owner.field ref.name with
    | error e =>
      rw [hname] at hfield
      simp only [hname]
      exact hfield
    | ok field =>
      simp only [hname, htable]
      by_cases hvirtual : field.isVirtual = true
      · rw [if_pos hvirtual]
        exact id
      · rw [if_neg hvirtual]
        exact trivial

namespace Build.SafeOn

variable {ctx : Context}

theorem column (hknown : ctx.TablesKnown) (ref : FieldRef) :
    SafeOn Scope.Covered (Sql.column ctx ref) := by
  intro s hs
  have hregular := Context.regular_stored hknown ref
  cases hstored : ctx.stored ref with
  | error e =>
    obtain ⟨t, hrun⟩ := runOn_column_of_not_stored hstored s
    rw [hstored] at hregular
    exact .inr ⟨e, t, hrun, hregular⟩
  | ok found =>
    exact .inl ⟨_, _, runOn_column_of_stored hstored s, hs.using ctx found.1⟩

theorem bindParam (field : String) (value : Value) :
    SafeOn Scope.Covered (Sql.bindParam field value) :=
  fun _ hs => .inl ⟨_, _, rfl, hs⟩

section

variable (hknown : ctx.TablesKnown)
include hknown

theorem compareValue (negated : Bool) (ref : FieldRef) (op : CompareOp) (value : Value) :
    SafeOn Scope.Covered (Sql.compareValue ctx negated ref op value) := by
  refine .bind (.column hknown ref) fun ⟨lhs, field⟩ => ?_
  dsimp only
  split
  · cases op with
    | eq | ne => exact .pure _
    | lt | le | gt | ge => exact .throw id
  · exact .bind (.bindParam _ _) fun _ => .pure _

theorem compareExprs (negated : Bool) (op : CompareOp) (lhs rhs : Expr) :
    SafeOn Scope.Covered (Sql.compareExprs ctx negated op lhs rhs) := by
  unfold Sql.compareExprs
  split
  · exact .compareValue hknown _ _ _ _
  · exact .compareValue hknown _ _ _ _
  · exact .bind (.column hknown _) fun _ => .bind (.column hknown _) fun _ => .pure _
  · exact .throw id
  · exact .throw id

theorem truthTest (negated : Bool) (ref : FieldRef) :
    SafeOn Scope.Covered (Sql.truthTest ctx negated ref) := by
  refine .bind (.column hknown ref) fun ⟨lhs, field⟩ => ?_
  have hrest : SafeOn Scope.Covered (do
      let name ← Sql.bindParam field.column (.int32 (if negated then 0 else 1))
      return Test.compare lhs .eq (.parameter name)) :=
    .bind (.bindParam _ _) fun _ => .pure _
  dsimp only
  split
  · exact .bind (.throw id) fun _ => hrest
  · exact hrest

theorem membership (negated : Bool) (values : List Value) (ref : FieldRef) :
    SafeOn Scope.Covered (Sql.membership ctx negated values ref) :=
  .bind (.column hknown ref) fun _ => .bind (.ofExcept (regular_memberTexts values)) fun _ =>
    .bind (.bindParam _ _) fun _ => .pure _

theorem patternTest (negated : Bool) (ref : FieldRef) (pattern : String) :
    SafeOn Scope.Covered (Sql.patternTest ctx negated ref pattern) :=
  .bind (.column hknown ref) fun _ => .bind (.bindParam _ _) fun _ => .pure _

theorem missingTest (negated : Bool) (ref : FieldRef) :
    SafeOn Scope.Covered (Sql.missingTest ctx negated ref) :=
  .bind (.column hknown ref) fun _ => .pure _

theorem leafTest (negated : Bool) (e : Expr) :
    SafeOn Scope.Covered (Sql.leafTest ctx negated e) := by
  unfold Sql.leafTest
  split
  · exact .compareExprs hknown _ _ _ _
  · exact .truthTest hknown _ _
  · exact .pure _
  · unfold callTest
    split
    · exact .membership hknown _ _ _
    · exact .membership hknown _ _ _
    · exact .patternTest hknown _ _ _
    · exact .patternTest hknown _ _ _
    · exact .patternTest hknown _ _ _
    · exact .missingTest hknown _ _
    · exact .missingTest hknown _ _
    · exact .missingTest hknown _ _
    · exact .missingTest hknown _ _
    · exact .throw id
  · exact .throw id

theorem chainOf (connective : Connective) (negated : Bool) (e : Expr) :
    SafeOn Scope.Covered (Sql.chainOf ctx connective negated e) := by
  induction e using Expr.connectiveInduction generalizing connective negated with
  | and lhs rhs ihl ihr => exact .bind (ihl _ _) fun _ => .bind (ihr _ _) fun _ => .pure _
  | or lhs rhs ihl ihr => exact .bind (ihl _ _) fun _ => .bind (ihr _ _) fun _ => .pure _
  | not e ih => exact ih connective (!negated)
  | leaf e hleaf =>
    rw [chainOf_of_isLeaf hleaf]
    exact .bind (.leafTest hknown negated e) fun _ => .pure _

theorem wherePiece (e : Expr) : SafeOn Scope.Covered (Sql.wherePiece ctx e) :=
  .bind (.chainOf hknown _ _ e) fun _ => .get_bind fun _ hs => .inl ⟨_, _, rfl, hs⟩

theorem columnsOf (refs : List FieldRef) : SafeOn Scope.Covered (Sql.columnsOf ctx refs) := by
  induction refs with
  | nil => exact .pure _
  | cons ref refs ih => exact .bind (.column hknown ref) fun _ => .bind ih fun _ => .pure _

theorem listedColumns (kind : ClauseKind) (e : Expr) :
    SafeOn Scope.Covered (Sql.listedColumns ctx kind e) := by
  unfold Sql.listedColumns
  split
  · exact .columnsOf hknown _
  · exact .columnsOf hknown _
  · exact .throw id

theorem orderPiece (descending : Bool) (e : Expr) :
    SafeOn Scope.Covered (Sql.orderPiece ctx descending e) :=
  .bind (.listedColumns hknown _ e) fun _ => .get_bind fun _ hs => .inl ⟨_, _, rfl, hs⟩

theorem groupPiece (kind : ClauseKind) (e : Expr) :
    SafeOn Scope.Covered (Sql.groupPiece ctx kind e) :=
  .bind (.listedColumns hknown kind e) fun _ => .get_bind fun _ hs => .inl ⟨_, _, rfl, hs⟩

theorem headOf (clauses : Clauses) : SafeOn Scope.Covered (Sql.headOf ctx clauses) := by
  have hcounted : ∀ e, SafeOn Scope.Covered (Sql.countedColumn ctx e) := by
    intro e
    unfold Sql.countedColumn
    split
    · exact .pure _
    · exact .bind (.column hknown _) fun _ => .pure _
    · exact .throw id
  unfold Sql.headOf
  split
  · exact .pure _
  · exact .bind (hcounted _) fun _ => .pure _
  · exact .pure _

theorem assignedValue (field : Field) (e : Expr) :
    SafeOn Scope.Covered (Sql.assignedValue ctx field e) := by
  unfold Sql.assignedValue
  split
  · exact .bind (.ofExcept (regular_coerce _ _)) fun _ => .bind (.bindParam _ _) fun _ => .pure _
  · exact .bind (.column hknown _) fun _ => .pure _
  · exact .throw id

theorem assignment (target : FieldRef) (value : Expr) :
    SafeOn Scope.Covered (Sql.assignment ctx target value) := by
  unfold Sql.assignment
  split
  · exact .bind (.throw id) fun _ => .bind (.column hknown target) fun _ =>
      .bind (.assignedValue hknown _ value) fun _ => .pure _
  · exact .bind (.column hknown target) fun _ =>
      .bind (.assignedValue hknown _ value) fun _ => .pure _

theorem assignmentsOf (pairs : List (FieldRef × Expr)) :
    SafeOn Scope.Covered (Sql.assignmentsOf ctx pairs) := by
  induction pairs with
  | nil => exact .pure _
  | cons pair pairs ih => exact .bind (.assignment hknown _ _) fun _ => .bind ih fun _ => .pure _

theorem setPart (clauses : Clauses) : SafeOn Scope.Covered (Sql.setPart ctx clauses) := by
  unfold Sql.setPart
  split
  · exact .pure _
  · refine .bind (.bind (.ofExcept (regular_assignedPairs _)) fun _ => ?_) fun _ => .pure _
    exact .assignmentsOf hknown _

omit hknown in
theorem piecesOf {piece : α → Build β} (hpiece : ∀ x, SafeOn P (piece x)) (items : List α) :
    SafeOn P (Sql.piecesOf piece items) := by
  induction items with
  | nil => exact .pure _
  | cons x items ih => exact .bind (hpiece x) fun _ => .bind ih fun _ => .pure _

/-- The joins come last, when every joined table has its alias. -/
theorem statementOf (clauses : Clauses) : SafeOn Scope.Covered (Sql.statementOf ctx clauses) := by
  refine .bind (.ofExcept (regular_checkCombination clauses)) fun _ => ?_
  refine .bind (.headOf hknown clauses) fun head => .bind (.setPart hknown clauses) fun sets => ?_
  refine .bind (fun s hs => .inl ⟨_, _, rfl, hs⟩) fun _ => ?_
  refine .bind (.piecesOf (fun e => .wherePiece hknown e) _) fun wheres => ?_
  refine .bind (.piecesOf (fun _ => .orderPiece hknown _ _) _) fun orders => ?_
  refine .bind (.piecesOf (fun _ => .groupPiece hknown _ _) _) fun groups => ?_
  refine .bind (.ofExcept (regular_limitPart clauses)) fun limit => ?_
  refine .bind (.ofExcept (regular_referencedFields _ _)) fun references => ?_
  refine .get_bind fun s hs => ?_
  have hjoins : SafeOn Scope.Covered
      (Build.ofExcept (joinsOf ctx.root s.aliases references s.joined)) :=
    .ofExcept (regular_joinsOf hs)
  exact hjoins.bind (fun _ => .pure _) s hs

end

end Build.SafeOn

/-- In a registry made by insertions the table of every known entity is known. -/
theorem tablesKnown_of_insertions {inserted : List Schema} {root : String} {ctx : Context}
    (hctx : Context.of (.ofList inserted) root = .ok ctx) : ctx.TablesKnown := by
  obtain ⟨schema, hroot, rfl⟩ := except_map_eq_ok_iff.1 hctx
  have htable : ∀ entity owner, (Registry.ofList inserted).get entity = .ok owner →
      ((Registry.ofList inserted).byTable? owner.table).isSome = true := by
    intro entity owner hget
    rw [Registry.get_eq_ok_iff, Registry.get?_ofList] at hget
    exact (Registry.isSome_byTable?_ofList inserted owner.table).2
      ⟨owner, List.mem_of_find?_eq_some hget, rfl⟩
  intro ref owner howner
  rcases Context.owner_cases howner with ⟨-, rfl⟩ | ⟨-, -, hget⟩
  · exact htable root _ hroot
  · exact htable _ owner hget

theorem regular_compile (inserted : List Schema) (root : String) (clauses : Clauses) :
    Regular (compile (.ofList inserted) root clauses) := by
  refine Regular.map ?_ _
  unfold plan
  cases hctx : Context.of (.ofList inserted) root with
  | error e =>
    have hget : Regular (Context.of (.ofList inserted) root) := (Registry.regular_get _ root).map _
    rw [hctx] at hget
    exact hget
  | ok ctx =>
    have hstart : ctx.scope.Covered := by simp [Scope.Covered, Context.scope, Scope.ofTable]
    have hknown := tablesKnown_of_insertions hctx
    show Regular (planOn ctx ctx.scope clauses)
    unfold planOn
    rcases Build.SafeOn.statementOf hknown clauses ctx.scope hstart with
      ⟨statement, t, hrun, -⟩ | ⟨e, t, hrun, he⟩
    · rw [hrun]
      exact trivial
    · rw [hrun]
      exact he

/-- Over a registry made by insertions, no compilation reports that a table is unknown or that a
joined table has no alias. Once keys have been derived, they all go in pairs into a join. -/
theorem no_internal_fault (inserted : List Schema) (root : String) (clauses : Clauses) :
    (∀ table, compile (.ofList inserted) root clauses ≠ .error (.schema (.unknownTable table))) ∧
    (∀ table, compile (.ofList inserted) root clauses ≠ .error (.compile (.noAlias table))) ∧
    ∀ source field target keys, JoinKeys.derive source field target = .ok keys → ∀ qualifier,
      ∃ pairs,
        joinPairs source target qualifier (keys.foreignKeys.zip keys.referenceKeys) = .ok pairs ∧
        List.Forall₂ (ColumnOf target qualifier) keys.foreignKeys (pairs.map (·.1)) ∧
        List.Forall₂ (ColumnOf source Aliases.primary) keys.referenceKeys (pairs.map (·.2)) := by
  have hregular := regular_compile inserted root clauses
  refine ⟨fun table herror => ?_, fun table herror => ?_, ?_⟩
  · rw [herror] at hregular
    exact hregular trivial
  · rw [herror] at hregular
    exact hregular trivial
  · intro source field target keys hkeys qualifier
    obtain ⟨-, hpaired, hreferences, hforeigns⟩ := JoinKeys.checked_of_derive hkeys
    obtain ⟨pairs, hpairs⟩ := exists_joinPairs hpaired hforeigns hreferences qualifier
    exact ⟨pairs, hpairs, joinPairs_ok hpaired hpairs⟩

/-- The line is joined to its order by one pair of columns, also if orders are inserted twice. -/
theorem no_internal_fault_sample :
    (∀ table, compile (.ofList [sampleLine, sampleOrder, { sampleOrder with table := "archive" }])
      "Line" sampleLineClauses ≠ .error (.schema (.unknownTable table))) ∧
    JoinKeys.derive sampleLine "Order" sampleOrder = .ok ⟨["OrderId"], ["Id"]⟩ ∧
    ∃ pairs, joinPairs sampleLine sampleOrder "b" [("Id", "OrderId")] = .ok pairs ∧
      List.Forall₂ (ColumnOf sampleOrder "b") ["Id"] (pairs.map (·.1)) ∧
      List.Forall₂ (ColumnOf sampleLine Aliases.primary) ["OrderId"] (pairs.map (·.2)) := by
  obtain ⟨hknown, -, hjoined⟩ := no_internal_fault
    [sampleLine, sampleOrder, { sampleOrder with table := "archive" }] "Line" sampleLineClauses
  exact ⟨hknown, rfl, hjoined sampleLine "Order" sampleOrder ⟨["OrderId"], ["Id"]⟩ rfl "b"⟩

/-- A table that is not noted with its schema is reported. -/
example : compile ⟨[sampleLine], []⟩ "Line" (.ofList [.of .orderBy (.rootField "Id")]) =
    .error (.schema (.unknownTable "lines")) := by
  rfl

end Sql

end EntityQuery
