import EntityQuery.Proofs.Results
import EntityQuery.Proofs.Sql.Statement

/-!
# Uses of fields

A statement is made by using fields, one after the other. A use shows the column of the field, and
may bind a value under a name made of it. The fields that are used, and their order, are known from
the clauses alone; the columns and parameters that a part of the statement shows, in the order of
its text, are those of the uses.
-/
namespace EntityQuery

namespace Expr

/-- The field that an expression is. -/
def fieldRef? : Expr → Option FieldRef
  | .field ref => some ref
  | _ => none

/-- The fields of a predicate without connectives. A method that has a field as its argument does
not read its target. -/
def testedFields : Expr → List FieldRef
  | .field ref => [ref]
  | .compare _ lhs rhs => lhs.fieldRef?.toList ++ rhs.fieldRef?.toList
  | .call _ _ [.field ref] => [ref]
  | .call _ target _ => target.fieldRef?.toList
  | _ => []

/-- The fields of a projection. -/
def listedFields : Expr → List FieldRef
  | .field ref => [ref]
  | .fields refs => refs
  | _ => []

/-- The fields of assignments, each target before its new value. -/
def assignedFields : Expr → List FieldRef
  | .assign pairs => pairs.flatMap fun pair => pair.1 :: pair.2.fieldRef?.toList
  | .compare _ (.field target) value => target :: value.fieldRef?.toList
  | _ => []

end Expr

/-- The fields that a statement of the clauses uses: in the count, in SET, in WHERE, in ORDER BY and
in GROUP BY. -/
def Clauses.usedFields (clauses : Clauses) : List FieldRef :=
  (clauses.first? .count).toList.flatMap (·.expr.fieldRef?.toList) ++
    (clauses.first? .set).toList.flatMap (·.expr.assignedFields) ++
    (Sql.predicatesOf clauses).flatMap (·.leaves.flatMap Expr.testedFields) ++
    (Sql.orderings clauses.nodes).flatMap (·.2.listedFields) ++
    (Sql.groupings clauses.nodes).flatMap (·.2.listedFields)

namespace Sql

/-- The columns and parameters of a test, in the order of its text. -/
def Test.operands : Test → List Operand
  | .compare lhs _ rhs | .notCompare lhs _ rhs => [.column lhs, rhs]
  | .isNull c | .isNotNull c => [.column c]
  | .inList _ c name | .like _ c name => [.column c, .parameter name]
  | .constant _ => []

mutual

def Condition.operands : Condition → List Operand
  | .test test => test.operands
  | .negation chain => chainOperands chain
  | .group chain => chainOperands chain

def chainOperands : Chain → List Operand
  | [] => []
  | (_, condition) :: rest => condition.operands ++ chainOperands rest

end

def Assignment.operands (assignment : Assignment) : List Operand :=
  [.column assignment.target, assignment.value]

/-- The column that is counted. -/
def Head.counted : Head → List Column
  | .count column => column.toList
  | _ => []

/-- The columns and parameters that the uses of fields have left in a statement. -/
def Statement.operands (s : Statement) : List Operand :=
  s.head.counted.map .column ++ (s.assignments.getD []).flatMap Assignment.operands ++
    s.wherePieces.flatMap (chainOperands ·.chain) ++
    s.orderPieces.flatMap (·.columns.map .column) ++ s.groupPieces.flatMap (·.columns.map .column)

@[simp] theorem operands_comparison (negated : Bool) (lhs : Column) (op : CompareOp)
    (rhs : Operand) : (comparison negated lhs op rhs).operands = [.column lhs, rhs] := by
  cases negated <;> rfl

@[simp] theorem operands_nullTest (isNull : Bool) (c : Column) :
    (nullTest isNull c).operands = [.column c] := by
  cases isNull <;> rfl

@[simp] theorem chainOperands_append (left right : Chain) :
    chainOperands (left ++ right) = chainOperands left ++ chainOperands right := by
  induction left with
  | nil => rfl
  | cons sibling left ih => simp [chainOperands, ih]

/-- A negation closes the chains of its operands and leaves what they show as it is. -/
@[simp] theorem chainOperands_joinChains (connective : Connective) (negated : Bool)
    (left right : Chain) :
    chainOperands (joinChains connective negated left right) =
      chainOperands left ++ chainOperands right := by
  cases negated with
  | false => exact chainOperands_append left right
  | true => simp [joinChains, chainOperands, Condition.operands]

@[simp] theorem chainOperands_closeIf (closed : Bool) (chain : Chain) :
    chainOperands (closeIf closed chain) = chainOperands chain := by
  unfold closeIf
  split <;> simp [grouped, chainOperands, Condition.operands]

/-- The fields `refs` are used one after the other, from the scope `s` to the scope `t`, and leave
the columns and parameters `shown`. -/
inductive Uses (ctx : Context) : Scope → List FieldRef → List Operand → Scope → Prop
  | done (s : Scope) : Uses ctx s [] [] s
  /-- A field shows its column. -/
  | column {s t : Scope} {ref : FieldRef} {owner : Schema} {field : Field} {refs : List FieldRef}
      {shown : List Operand} :
      ctx.stored ref = .ok (owner, field) → Uses ctx (s.using ctx owner) refs shown t →
        Uses ctx s (ref :: refs) (.column (s.columnIn owner field) :: shown) t
  /-- A value is bound for a field. -/
  | parameter {s t : Scope} {ref : FieldRef} {owner : Schema} {field : Field} {value : Value}
      {refs : List FieldRef} {shown : List Operand} :
      ctx.stored ref = .ok (owner, field) →
        Uses ctx { s with params := (s.params.bind field.column value).2 } refs shown t →
          Uses ctx s refs (.parameter (s.params.bind field.column value).1 :: shown) t
  /-- A keyword is opened, or the number of predicates is noted. -/
  | keyword {s u t : Scope} {refs : List FieldRef} {shown : List Operand} :
      u.aliases = s.aliases → u.params = s.params → u.joined = s.joined →
        Uses ctx u refs shown t → Uses ctx s refs shown t

/-- An assignment uses the column of its target, which belongs to the root, and then the new
value. -/
theorem assignment_ok {ctx : Context} {target : FieldRef} {value : Expr} {assigned : Assignment}
    {s t : Scope} (h : (assignment ctx target value).runOn s = (.ok assigned, t)) :
    target.entity.any (· ≠ ctx.root.entity) = false ∧
      ∃ field u, (column ctx target).runOn s = (.ok (assigned.target, field), u) ∧
        (assignedValue ctx field value).runOn u = (.ok assigned.value, t) := by
  unfold assignment at h
  by_cases hforeign : (target.entity.any (· ≠ ctx.root.entity)) = true
  · rw [if_pos hforeign] at h
    obtain ⟨_, _, hthrow, _⟩ := Build.runOn_bind_eq_ok.1 h
    cases hthrow
  rw [if_neg hforeign] at h
  obtain ⟨⟨c, field⟩, u, hcolumn, h⟩ := Build.runOn_bind_eq_ok.1 h
  obtain ⟨operand, v, hoperand, h⟩ := Build.runOn_bind_eq_ok.1 h
  cases h
  exact ⟨Bool.eq_false_iff.2 hforeign, field, u, hcolumn, hoperand⟩

/-- A new value is a literal that is converted and bound, or the column of a field. -/
theorem assignedValue_ok {ctx : Context} {field : Field} {value : Expr} {operand : Operand}
    {s t : Scope} (h : (assignedValue ctx field value).runOn s = (.ok operand, t)) :
    (∃ v w name, value = .literal v ∧ v.coerce field.type = .ok w ∧ operand = .parameter name ∧
      (bindParam field.column w.bound).runOn s = (.ok name, t)) ∨
    ∃ ref c source, value = .field ref ∧ operand = .column c ∧
      (column ctx ref).runOn s = (.ok (c, source), t) := by
  unfold assignedValue at h
  split at h
  · next v =>
      obtain ⟨w, u, hconverted, h⟩ := Build.runOn_bind_eq_ok.1 h
      obtain ⟨hcoerce, rfl⟩ := Prod.mk.inj hconverted
      obtain ⟨name, u, hbind, h⟩ := Build.runOn_bind_eq_ok.1 h
      cases h
      exact .inl ⟨v, w, name, rfl, except_mapError_eq_ok_iff.1 hcoerce, rfl, hbind⟩
  · next ref =>
      obtain ⟨⟨c, source⟩, u, hsource, h⟩ := Build.runOn_bind_eq_ok.1 h
      cases h
      exact .inr ⟨ref, c, source, rfl, rfl, hsource⟩
  · cases h

namespace Uses

variable {ctx : Context} {s u t : Scope} {refs refs' : List FieldRef} {shown shown' : List Operand}

theorem append (h : Uses ctx s refs shown u) (h' : Uses ctx u refs' shown' t) :
    Uses ctx s (refs ++ refs') (shown ++ shown') t := by
  induction h with
  | done s => exact h'
  | column hstored _ ih => exact .column hstored (ih h')
  | parameter hstored _ ih => exact .parameter hstored (ih h')
  | keyword haliases hparams hjoined _ ih => exact .keyword haliases hparams hjoined (ih h')

/-- A keyword is opened after the uses. -/
theorem andKeyword (h : Uses ctx s refs shown u) (haliases : t.aliases = u.aliases)
    (hparams : t.params = u.params) (hjoined : t.joined = u.joined) :
    Uses ctx s refs shown t := by
  simpa using h.append (.keyword haliases hparams hjoined (.done t))

/-- Uses take back nothing. -/
theorem grows (h : Uses ctx s refs shown t) : s.Grows t := by
  induction h with
  | done s => exact refl_of Scope.Grows s
  | column _ _ ih => exact trans_of Scope.Grows (Scope.extends_using _ ctx _).grows ih
  | @parameter s _ _ _ field value _ _ _ _ ih =>
      have hbound := Build.Keeps.bindParam field.column value s
      exact trans_of Scope.Grows hbound.grows ih
  | @keyword s u _ _ _ haliases hparams hjoined _ ih =>
      have hsame : s.Grows u :=
        ⟨haliases ▸ List.prefix_rfl, hparams ▸ List.prefix_rfl, hjoined ▸ List.prefix_rfl⟩
      exact trans_of Scope.Grows hsame ih

theorem of_column {ref : FieldRef} {c : Column} {field : Field}
    (h : (Sql.column ctx ref).runOn s = (.ok (c, field), t)) :
    Uses ctx s [ref] [.column c] t := by
  obtain ⟨owner, hstored, rfl, rfl⟩ := stored_of_runOn_column h
  exact .column hstored (.done _)

/-- A value that is bound for a field, once the field has been used. -/
theorem of_bindParam {ref : FieldRef} {c : Column} {field : Field} {v : Scope} {value : Value}
    {name : String} (hcolumn : (Sql.column ctx ref).runOn v = (.ok (c, field), u))
    (h : (bindParam field.column value).runOn s = (.ok name, t)) :
    Uses ctx s [] [.parameter name] t := by
  obtain ⟨owner, hstored, -, -⟩ := stored_of_runOn_column hcolumn
  cases h
  exact .parameter hstored (.done _)

/-- The column of a field and a value bound for it. -/
theorem of_column_bindParam {ref : FieldRef} {c : Column} {field : Field} {value : Value}
    {name : String} (hcolumn : (Sql.column ctx ref).runOn s = (.ok (c, field), u))
    (h : (bindParam field.column value).runOn u = (.ok name, t)) :
    Uses ctx s [ref] [.column c, .parameter name] t :=
  (of_column hcolumn).append (of_bindParam hcolumn h)

section Tests

variable {negated : Bool} {op : CompareOp} {ref : FieldRef} {test : Test}

theorem of_compareValue {value : Value}
    (h : (compareValue ctx negated ref op value).runOn s = (.ok test, t)) :
    Uses ctx s [ref] test.operands t := by
  obtain ⟨⟨lhs, field⟩, u, hcolumn, h⟩ := Build.runOn_bind_eq_ok.1 h
  dsimp only at h
  by_cases hnull : value.isNull = true
  · rw [if_pos hnull] at h
    cases op with
    | eq | ne =>
        cases h
        simpa using of_column hcolumn
    | lt | le | gt | ge => cases h
  · rw [if_neg hnull] at h
    obtain ⟨name, w, hbind, h⟩ := Build.runOn_bind_eq_ok.1 h
    cases h
    simpa using of_column_bindParam hcolumn hbind

theorem of_compareFields {left right : FieldRef}
    (h : (compareFields ctx negated op left right).runOn s = (.ok test, t)) :
    Uses ctx s [left, right] test.operands t := by
  obtain ⟨⟨lhs, _⟩, u, hleft, h⟩ := Build.runOn_bind_eq_ok.1 h
  obtain ⟨⟨rhs, _⟩, w, hright, h⟩ := Build.runOn_bind_eq_ok.1 h
  cases h
  simpa using (of_column hleft).append (of_column hright)

theorem of_truthTest (h : (truthTest ctx negated ref).runOn s = (.ok test, t)) :
    Uses ctx s [ref] test.operands t := by
  obtain ⟨⟨lhs, field⟩, u, hcolumn, h⟩ := Build.runOn_bind_eq_ok.1 h
  dsimp only at h
  by_cases htype : field.type ≠ .bool
  · rw [if_pos htype] at h
    obtain ⟨_, _, hthrow, _⟩ := Build.runOn_bind_eq_ok.1 h
    cases hthrow
  · rw [if_neg htype] at h
    obtain ⟨name, w, hbind, h⟩ := Build.runOn_bind_eq_ok.1 h
    cases h
    exact of_column_bindParam hcolumn hbind

theorem of_membership {values : List Value}
    (h : (membership ctx negated values ref).runOn s = (.ok test, t)) :
    Uses ctx s [ref] test.operands t := by
  obtain ⟨⟨lhs, field⟩, u, hcolumn, h⟩ := Build.runOn_bind_eq_ok.1 h
  obtain ⟨items, v, hitems, h⟩ := Build.runOn_bind_eq_ok.1 h
  obtain ⟨-, rfl⟩ := Prod.mk.inj hitems
  obtain ⟨name, w, hbind, h⟩ := Build.runOn_bind_eq_ok.1 h
  cases h
  exact of_column_bindParam hcolumn hbind

theorem of_patternTest {pattern : String}
    (h : (patternTest ctx negated ref pattern).runOn s = (.ok test, t)) :
    Uses ctx s [ref] test.operands t := by
  obtain ⟨⟨lhs, field⟩, u, hcolumn, h⟩ := Build.runOn_bind_eq_ok.1 h
  obtain ⟨name, w, hbind, h⟩ := Build.runOn_bind_eq_ok.1 h
  cases h
  exact of_column_bindParam hcolumn hbind

theorem of_missingTest (h : (missingTest ctx negated ref).runOn s = (.ok test, t)) :
    Uses ctx s [ref] test.operands t := by
  obtain ⟨⟨lhs, field⟩, u, hcolumn, h⟩ := Build.runOn_bind_eq_ok.1 h
  cases h
  simpa using of_column hcolumn

theorem of_callTest {method : Method} {target : Expr} {args : List Expr}
    (h : (callTest ctx negated method target args).runOn s = (.ok test, t)) :
    Uses ctx s (Expr.call method target args).testedFields test.operands t := by
  unfold callTest at h
  split at h
  · exact of_membership h
  · exact of_membership h
  · exact of_patternTest h
  · exact of_patternTest h
  · exact of_patternTest h
  · exact of_missingTest h
  · exact of_missingTest h
  · exact of_missingTest h
  · exact of_missingTest h
  · cases h

theorem of_leafTest {e : Expr} (h : (leafTest ctx negated e).runOn s = (.ok test, t)) :
    Uses ctx s e.testedFields test.operands t := by
  unfold leafTest at h
  split at h
  · unfold compareExprs at h
    split at h
    · exact of_compareValue h
    · exact of_compareValue h
    · exact of_compareFields h
    · cases h
    · cases h
  · exact of_truthTest h
  · cases h
    exact .done _
  · exact of_callTest h
  · cases h

end Tests

/-- The chain of a predicate uses the fields of its leaves from left to right, and shows them in
this order: a negation closes what it negates, but moves nothing. -/
theorem of_chainOf {connective : Connective} {negated : Bool} {e : Expr} {chain : Chain}
    (h : (chainOf ctx connective negated e).runOn s = (.ok chain, t)) :
    Uses ctx s (e.leaves.flatMap Expr.testedFields) (chainOperands chain) t := by
  induction e using Expr.connectiveInduction generalizing connective negated s t chain with
  | and lhs rhs ihl ihr | or lhs rhs ihl ihr =>
      obtain ⟨left, right, u, hleft, hright, rfl⟩ := chainOf_operands_ok h
      simpa [Expr.leaves] using (ihl hleft).append (ihr hright)
  | not e ih => exact ih h
  | leaf e hleaf =>
      obtain ⟨test, htest, rfl⟩ := chainOf_leaf_ok hleaf h
      simpa [Expr.leaves_of_isLeaf hleaf, chainOperands, Condition.operands] using of_leafTest htest

theorem of_wherePiece {predicate : Expr} {piece : WherePiece}
    (h : (wherePiece ctx predicate).runOn s = (.ok piece, t)) :
    Uses ctx s (predicate.leaves.flatMap Expr.testedFields) (chainOperands piece.chain) t := by
  obtain ⟨chain, u, hchain, rfl, rfl⟩ := wherePiece_ok h
  rw [chainOperands_closeIf]
  exact (of_chainOf hchain).andKeyword rfl rfl rfl

/-- The pieces for several items use what each of them uses. -/
theorem of_piecesOf {α β : Type} {piece : α → Build β} {fields : α → List FieldRef}
    {operands : β → List Operand}
    (hpiece : ∀ ⦃x s t y⦄, (piece x).runOn s = (.ok y, t) → Uses ctx s (fields x) (operands y) t)
    {items : List α} {pieces : List β} (h : (piecesOf piece items).runOn s = (.ok pieces, t)) :
    Uses ctx s (items.flatMap fields) (pieces.flatMap operands) t := by
  induction items generalizing s pieces with
  | nil =>
      cases h
      exact .done _
  | cons x items ih =>
      obtain ⟨y, u, hy, h⟩ := Build.runOn_bind_eq_ok.1 h
      obtain ⟨rest, v, hrest, h⟩ := Build.runOn_bind_eq_ok.1 h
      cases h
      exact (hpiece hy).append (ih hrest)

theorem of_columnsOf {columns : List Column}
    (h : (columnsOf ctx refs).runOn s = (.ok columns, t)) :
    Uses ctx s refs (columns.map .column) t := by
  induction refs generalizing s columns with
  | nil =>
      cases h
      exact .done _
  | cons ref refs ih =>
      obtain ⟨⟨c, field⟩, u, hcolumn, h⟩ := Build.runOn_bind_eq_ok.1 h
      obtain ⟨cs, v, hcs, h⟩ := Build.runOn_bind_eq_ok.1 h
      cases h
      exact (of_column hcolumn).append (ih hcs)

theorem of_listedColumns {kind : ClauseKind} {e : Expr} {columns : List Column}
    (h : (listedColumns ctx kind e).runOn s = (.ok columns, t)) :
    Uses ctx s e.listedFields (columns.map .column) t := by
  unfold listedColumns at h
  split at h
  · exact of_columnsOf h
  · exact of_columnsOf h
  · cases h

theorem of_orderPiece {descending : Bool} {e : Expr} {piece : OrderPiece}
    (h : (orderPiece ctx descending e).runOn s = (.ok piece, t)) :
    Uses ctx s e.listedFields (piece.columns.map .column) t := by
  obtain ⟨columns, u, hcolumns, h⟩ := Build.runOn_bind_eq_ok.1 h
  cases h
  exact (of_listedColumns hcolumns).andKeyword rfl rfl rfl

theorem of_groupPiece {kind : ClauseKind} {e : Expr} {piece : GroupPiece}
    (h : (groupPiece ctx kind e).runOn s = (.ok piece, t)) :
    Uses ctx s e.listedFields (piece.columns.map .column) t := by
  obtain ⟨columns, u, hcolumns, h⟩ := Build.runOn_bind_eq_ok.1 h
  cases h
  exact (of_listedColumns hcolumns).andKeyword rfl rfl rfl

theorem of_countedColumn {e : Expr} {counted : Option Column}
    (h : (countedColumn ctx e).runOn s = (.ok counted, t)) :
    Uses ctx s e.fieldRef?.toList (counted.toList.map .column) t := by
  unfold countedColumn at h
  split at h
  · cases h
    exact .done _
  · obtain ⟨⟨c, field⟩, u, hcolumn, h⟩ := Build.runOn_bind_eq_ok.1 h
    cases h
    exact of_column hcolumn
  · cases h

/-- Only a count uses a field in the head, and then there is no assignment. -/
theorem of_headOf {clauses : Clauses} {head : Head}
    (hcombination : checkCombination clauses = .ok ())
    (h : (headOf ctx clauses).runOn s = (.ok head, t)) :
    Uses ctx s ((clauses.first? .count).toList.flatMap (·.expr.fieldRef?.toList))
      (head.counted.map .column) t := by
  unfold headOf at h
  split at h
  · next node hset =>
      cases h
      have hcount : clauses.first? .count = none := by
        by_contra hsome
        simp [checkCombination, Clauses.has, hset, Option.isSome_iff_ne_none.2 hsome]
          at hcombination
      rw [hcount]
      exact .done _
  · next node hset hcount =>
      obtain ⟨counted, u, hcounted, h⟩ := Build.runOn_bind_eq_ok.1 h
      cases h
      simpa [hcount, Head.counted] using of_countedColumn hcounted
  · next hset hcount =>
      cases h
      rw [hcount]
      exact .done _

theorem of_assignment {target : FieldRef} {value : Expr} {assigned : Assignment}
    (h : (assignment ctx target value).runOn s = (.ok assigned, t)) :
    Uses ctx s (target :: value.fieldRef?.toList) assigned.operands t := by
  obtain ⟨-, field, u, hcolumn, hvalue⟩ := assignment_ok h
  refine (of_column hcolumn).append ?_
  rcases assignedValue_ok hvalue with
    ⟨v, w, name, rfl, -, hoperand, hbind⟩ | ⟨ref, c, source, rfl, hoperand, hsource⟩
  · rw [hoperand]
    exact of_bindParam hcolumn hbind
  · rw [hoperand]
    exact of_column hsource

theorem of_assignmentsOf {pairs : List (FieldRef × Expr)} {assigned : List Assignment}
    (h : (assignmentsOf ctx pairs).runOn s = (.ok assigned, t)) :
    Uses ctx s (pairs.flatMap fun pair => pair.1 :: pair.2.fieldRef?.toList)
      (assigned.flatMap Assignment.operands) t := by
  induction pairs generalizing s assigned with
  | nil =>
      cases h
      exact .done _
  | cons pair pairs ih =>
      obtain ⟨first, u, hfirst, h⟩ := Build.runOn_bind_eq_ok.1 h
      obtain ⟨rest, v, hrest, h⟩ := Build.runOn_bind_eq_ok.1 h
      cases h
      exact (of_assignment hfirst).append (ih hrest)

theorem assignedFields_of_pairs {e : Expr} {pairs : List (FieldRef × Expr)}
    (h : assignedPairs e = .ok pairs) :
    e.assignedFields = pairs.flatMap fun pair => pair.1 :: pair.2.fieldRef?.toList := by
  unfold assignedPairs at h
  split at h
  · cases h
    rfl
  · cases h
    simp [Expr.assignedFields]
  · cases h

theorem of_setPart {clauses : Clauses} {assigned : Option (List Assignment)}
    (h : (setPart ctx clauses).runOn s = (.ok assigned, t)) :
    Uses ctx s ((clauses.first? .set).toList.flatMap (·.expr.assignedFields))
      ((assigned.getD []).flatMap Assignment.operands) t := by
  unfold setPart at h
  split at h
  · next hset =>
      cases h
      rw [hset]
      exact .done _
  · next node hset =>
      obtain ⟨made, u, hmade, h⟩ := Build.runOn_bind_eq_ok.1 h
      cases h
      obtain ⟨pairs, v, hpairs, hmade⟩ := Build.runOn_bind_eq_ok.1 hmade
      obtain ⟨hok, rfl⟩ := Prod.mk.inj hpairs
      simpa [hset, assignedFields_of_pairs hok] using of_assignmentsOf hmade

/-- The making of a statement uses the fields of its clauses, in the order of its text. -/
theorem of_statementSteps {clauses : Clauses} {statement : Statement} {references : List String}
    {headed assigned filtered ordered : Scope}
    (h : StatementSteps ctx clauses statement references s headed assigned filtered ordered t) :
    Uses ctx s clauses.usedFields statement.operands t := by
  have hpieces := of_piecesOf (fun _ _ _ _ => of_wherePiece) h.wheres
  have hwheres : Uses ctx assigned
      ((predicatesOf clauses).flatMap (·.leaves.flatMap Expr.testedFields))
      (statement.wherePieces.flatMap (chainOperands ·.chain)) filtered := by
    refine .keyword ?_ ?_ ?_ hpieces <;> rfl
  exact ((((of_headOf h.combination h.head).append (of_setPart h.assignments)).append
    hwheres).append (of_piecesOf (fun _ _ _ _ => of_orderPiece) h.orders)).append
      (of_piecesOf (fun _ _ _ _ => of_groupPiece) h.groups)

end Uses

end Sql

end EntityQuery
