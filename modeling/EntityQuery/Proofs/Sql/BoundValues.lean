import EntityQuery.Proofs.Sql.Membership
import EntityQuery.Proofs.Sql.Placeholders

/-!
# Bound values

The values that a predicate binds are known from the predicate alone, without running the
construction. They are added to the parameters in the order of its leaves, under the names that its
piece shows; listings bind nothing.
-/
namespace EntityQuery

namespace Expr

/-- The values that a comparison with a value binds: null is tested for without a parameter. -/
def comparedValues (value : Value) : List Value := if value.isNull then [] else [value.bound]

/-- The text that a membership test binds for a list. -/
def memberList (values : List Value) : Value :=
  .text (",".intercalate (values.filterMap Value.listItem?))

/-- The values that a predicate without connectives binds. Under a negation a bare field is compared
with the other truth value. -/
def leafValues (negated : Bool) : Expr → List Value
  | .compare _ (.field _) (.literal value) => comparedValues value
  | .compare _ (.literal value) (.field _) => comparedValues value
  | .field _ => [.int32 (if negated then 0 else 1)]
  | .call .contains (.list values) [.field _] => [memberList values]
  | .call .any (.list values) [.field _] => [memberList values]
  | .call .contains (.field _) [.literal (.text s)] => [.text ("%" ++ s ++ "%")]
  | .call .startsWith (.field _) [.literal (.text s)] => [.text (s ++ "%")]
  | .call .endsWith (.field _) [.literal (.text s)] => [.text ("%" ++ s)]
  | _ => []

/-- The values that a predicate binds, from left to right. -/
def boundValues (negated : Bool) : Expr → List Value
  | .and lhs rhs => lhs.boundValues false ++ rhs.boundValues false
  | .or lhs rhs => lhs.boundValues false ++ rhs.boundValues false
  | .not e => e.boundValues (!negated)
  | e => e.leafValues negated

theorem boundValues_of_isLeaf {e : Expr} (h : e.isLeaf = true) (negated : Bool) :
    e.boundValues negated = e.leafValues negated := by
  cases e <;> first | rfl | cases h

end Expr

namespace Sql

/-- The parameters of the second scope are those of the first, followed by others with the given
values. -/
def Scope.Adds (s t : Scope) (values : List Value) : Prop :=
  ∃ added, t.params.entries = s.params.entries ++ added ∧ added.map (·.2) = values

namespace Scope.Adds

variable {s t u : Scope} {values later : List Value}

theorem nothing (h : t.params = s.params) : s.Adds t [] := ⟨[], by simp [h], rfl⟩

theorem append (h : s.Adds u values) (h' : u.Adds t later) : s.Adds t (values ++ later) := by
  obtain ⟨added, hadded, rfl⟩ := h
  obtain ⟨more, hmore, rfl⟩ := h'
  exact ⟨added ++ more, by rw [hmore, hadded, List.append_assoc], List.map_append⟩

/-- What changes no parameters adds nothing. -/
theorem andKeyword (h : s.Adds u values) (hparams : t.params = u.params) : s.Adds t values := by
  simpa using h.append (nothing hparams)

end Scope.Adds

theorem filterMap_of_memberTexts {values : List Value} {items : List String}
    (h : memberTexts values = .ok items) : values.filterMap Value.listItem? = items := by
  rcases memberTexts_error_or_ok values with ⟨_, -, -, herror⟩ | ⟨-, found, hok, htexts, -⟩
  · rw [herror] at h
    cases h
  · obtain rfl : found = items := Except.ok.inj (hok.symm.trans h)
    simpa using congrArg (List.filterMap id) htexts

namespace Build

variable {α β : Type} {values later : List Value} {ctx : Context} {negated : Bool}

/-- If the step succeeds, it has bound the values, in order. -/
def Binds (values : List Value) (step : Build α) : Prop :=
  ∀ ⦃s t x⦄, step.runOn s = (.ok x, t) → s.Adds t values

namespace Binds

theorem pure (x : α) : Binds [] (Pure.pure x : Build α) := by
  intro s t y h
  cases h
  exact .nothing rfl

theorem throw (e : QueryError) : Binds values (MonadExcept.throw e : Build α) := by
  intro s t x h
  cases h

theorem throw_bind (e : QueryError) (next : α → Build β) :
    Binds values ((MonadExcept.throw e : Build α) >>= next) := by
  intro s t y h
  obtain ⟨_, _, hthrow, -⟩ := runOn_bind_eq_ok.1 h
  cases hthrow

theorem bind {step : Build α} {next : α → Build β} (hstep : Binds values step)
    (hnext : ∀ x, Binds later (next x)) : Binds (values ++ later) (step >>= next) := by
  intro s t y h
  obtain ⟨x, u, hx, hy⟩ := runOn_bind_eq_ok.1 h
  exact (hstep hx).append (hnext x hy)

theorem ofExcept_bind {x : Except QueryError α} {next : α → Build β}
    (h : ∀ a, x = .ok a → Binds values (next a)) : Binds values (Build.ofExcept x >>= next) := by
  intro s t y hrun
  obtain ⟨a, u, ha, hy⟩ := runOn_bind_eq_ok.1 hrun
  obtain ⟨hok, rfl⟩ := Prod.mk.inj ha
  exact h a hok hy

theorem column (ctx : Context) (ref : FieldRef) : Binds [] (Sql.column ctx ref) := by
  rintro s t ⟨c, field⟩ h
  obtain ⟨owner, -, -, rfl⟩ := stored_of_runOn_column h
  exact .nothing (s.params_using ctx owner)

theorem bindParam (field : String) (value : Value) : Binds [value] (Sql.bindParam field value) := by
  intro s t name h
  rw [runOn_bindParam] at h
  cases h
  exact ⟨[_], Params.entries_bind s.params field value, rfl⟩

/-- A column, and then a value for its field. -/
theorem column_bind {ref : FieldRef} {next : Column × Field → Build β}
    (h : ∀ pair, Binds values (next pair)) : Binds values (Sql.column ctx ref >>= next) :=
  (column ctx ref).bind h

theorem bindParam_bind {field : String} {value : Value} {next : String → Build β}
    (h : ∀ name, Binds [] (next name)) : Binds [value] (Sql.bindParam field value >>= next) :=
  (bindParam field value).bind h

theorem compareValue (ref : FieldRef) (op : CompareOp) (value : Value) :
    Binds (Expr.comparedValues value) (Sql.compareValue ctx negated ref op value) := by
  refine column_bind fun ⟨lhs, field⟩ => ?_
  unfold Expr.comparedValues
  dsimp only
  by_cases hnull : value.isNull = true
  · rw [if_pos hnull, if_pos hnull]
    cases op with
    | eq | ne => exact .pure _
    | lt | le | gt | ge => exact .throw _
  · rw [if_neg hnull, if_neg hnull]
    exact bindParam_bind fun _ => .pure _

theorem compareFields (op : CompareOp) (left right : FieldRef) :
    Binds [] (Sql.compareFields ctx negated op left right) :=
  column_bind fun _ => column_bind fun _ => .pure _

theorem truthTest (ref : FieldRef) :
    Binds [.int32 (if negated then 0 else 1)] (Sql.truthTest ctx negated ref) := by
  refine column_bind fun ⟨lhs, field⟩ => ?_
  dsimp only
  by_cases htype : field.type ≠ .bool
  · rw [if_pos htype]
    exact throw_bind _ _
  · rw [if_neg htype]
    exact bindParam_bind fun _ => .pure _

theorem membership (members : List Value) (ref : FieldRef) :
    Binds [Expr.memberList members] (Sql.membership ctx negated members ref) := by
  refine column_bind fun ⟨lhs, field⟩ => ofExcept_bind fun items hitems => ?_
  rw [Expr.memberList, filterMap_of_memberTexts hitems]
  exact bindParam_bind fun _ => .pure _

theorem patternTest (ref : FieldRef) (pattern : String) :
    Binds [.text pattern] (Sql.patternTest ctx negated ref pattern) :=
  column_bind fun _ => bindParam_bind fun _ => .pure _

theorem missingTest (ref : FieldRef) : Binds [] (Sql.missingTest ctx negated ref) :=
  column_bind fun _ => .pure _

theorem callTest (method : Method) (target : Expr) (args : List Expr) :
    Binds ((Expr.call method target args).leafValues negated)
      (Sql.callTest ctx negated method target args) := by
  unfold Sql.callTest
  split
  · exact membership _ _
  · exact membership _ _
  · exact patternTest _ _
  · exact patternTest _ _
  · exact patternTest _ _
  · exact missingTest _
  · exact missingTest _
  · exact missingTest _
  · exact missingTest _
  · exact throw _

/-- The test of a leaf binds the values of the leaf. -/
theorem leafTest (e : Expr) : Binds (e.leafValues negated) (Sql.leafTest ctx negated e) := by
  unfold Sql.leafTest
  split
  · unfold compareExprs
    split
    · exact compareValue _ _ _
    · exact compareValue _ _ _
    · exact compareFields _ _ _
    · exact throw _
    · exact throw _
  · exact truthTest _
  · exact pure _
  · exact callTest _ _ _
  · exact throw _

/-- The chain of a predicate binds the values of its leaves, from left to right. -/
theorem chainOf (connective : Connective) (e : Expr) :
    Binds (e.boundValues negated) (Sql.chainOf ctx connective negated e) := by
  induction e using Expr.connectiveInduction generalizing connective negated with
  | and lhs rhs ihl ihr | or lhs rhs ihl ihr =>
      intro s t chain h
      obtain ⟨left, right, u, hleft, hright, -⟩ := chainOf_operands_ok h
      exact (ihl _ hleft).append (ihr _ hright)
  | not e ih => exact ih connective
  | leaf e hleaf =>
      intro s t chain h
      obtain ⟨test, htest, -⟩ := chainOf_leaf_ok hleaf h
      rw [Expr.boundValues_of_isLeaf hleaf]
      exact leafTest e htest

theorem wherePiece (predicate : Expr) :
    Binds (predicate.boundValues false) (Sql.wherePiece ctx predicate) := by
  intro s t piece h
  obtain ⟨chain, u, hchain, -, rfl⟩ := wherePiece_ok h
  exact (chainOf _ _ hchain).andKeyword rfl

/-- The pieces for several items bind what each of them binds. -/
theorem piecesOf {piece : α → Build β} {valuesOf : α → List Value}
    (h : ∀ x, Binds (valuesOf x) (piece x)) (items : List α) :
    Binds (items.flatMap valuesOf) (Sql.piecesOf piece items) := by
  induction items with
  | nil => exact .pure _
  | cons x items ih =>
      intro s t pieces hrun
      obtain ⟨y, u, hy, hrun⟩ := runOn_bind_eq_ok.1 hrun
      obtain ⟨rest, v, hrest, hrun⟩ := runOn_bind_eq_ok.1 hrun
      cases hrun
      exact (h x hy).append (ih hrest)

theorem columnsOf (refs : List FieldRef) : Binds [] (Sql.columnsOf ctx refs) := by
  induction refs with
  | nil => exact .pure _
  | cons ref refs ih => exact column_bind fun _ => ih.bind fun _ => .pure _

theorem listedColumns (kind : ClauseKind) (e : Expr) :
    Binds [] (Sql.listedColumns ctx kind e) := by
  unfold Sql.listedColumns
  split
  · exact columnsOf _
  · exact columnsOf _
  · exact throw _

theorem orderPiece (descending : Bool) (e : Expr) :
    Binds [] (Sql.orderPiece ctx descending e) := by
  intro s t piece h
  obtain ⟨columns, u, hcolumns, h⟩ := runOn_bind_eq_ok.1 h
  cases h
  exact (listedColumns _ e hcolumns).andKeyword rfl

theorem groupPiece (kind : ClauseKind) (e : Expr) : Binds [] (Sql.groupPiece ctx kind e) := by
  intro s t piece h
  obtain ⟨columns, u, hcolumns, h⟩ := runOn_bind_eq_ok.1 h
  cases h
  exact (listedColumns kind e hcolumns).andKeyword rfl

end Binds

end Build

/-! ### Parameters of pieces -/

/-- The names of the parameters that a piece shows. -/
def WherePiece.placeholders (piece : WherePiece) : List String :=
  (chainOperands piece.chain).filterMap Operand.name?

/-- The piece is made of the predicate. -/
def MakesPiece (ctx : Context) (predicate : Expr) (piece : WherePiece) : Prop :=
  ∃ s t, (wherePiece ctx predicate).runOn s = (.ok piece, t)

/-- The entries are the parameters of the pieces, in order: those that the pieces show, with the
values. -/
structure ParamsOf (pieces : List WherePiece) (values : List Value)
    (entries : List (String × Value)) : Prop where
  names : entries.map (·.1) = pieces.flatMap WherePiece.placeholders
  values : entries.map (·.2) = values

section

variable {ctx : Context} {s t : Scope}

/-- Values that are added are added under the names that are. -/
theorem Scope.Adds.entries {values : List Value} {names : List String} (h : s.Adds t values)
    (hnames : t.params.names = s.params.names ++ names) :
    ∃ added, t.params.entries = s.params.entries ++ added ∧ added.map (·.1) = names ∧
      added.map (·.2) = values := by
  obtain ⟨added, hadded, hvalues⟩ := h
  refine ⟨added, hadded, ?_, hvalues⟩
  simpa [Params.names, hadded] using hnames

theorem paramsOf_wherePiece {predicate : Expr} {piece : WherePiece}
    (h : (wherePiece ctx predicate).runOn s = (.ok piece, t)) :
    ∃ added, t.params.entries = s.params.entries ++ added ∧
      ParamsOf [piece] (predicate.boundValues false) added := by
  obtain ⟨added, hadded, hshown, hvalues⟩ :=
    (Build.Binds.wherePiece predicate h).entries (Uses.of_wherePiece h).names_eq
  exact ⟨added, hadded, by simpa [WherePiece.placeholders] using hshown, hvalues⟩

theorem paramsOf_wherePieces {predicates : List Expr} {pieces : List WherePiece}
    (h : (piecesOf (wherePiece ctx) predicates).runOn s = (.ok pieces, t)) :
    ∃ added, t.params.entries = s.params.entries ++ added ∧
      ParamsOf pieces (predicates.flatMap (Expr.boundValues false)) added := by
  have hnames := (Uses.of_piecesOf (fun _ _ _ _ => Uses.of_wherePiece) h).names_eq
  rw [List.filterMap_flatMap] at hnames
  obtain ⟨added, hadded, hshown, hvalues⟩ :=
    (Build.Binds.piecesOf Build.Binds.wherePiece _ h).entries hnames
  exact ⟨added, hadded, hshown, hvalues⟩

/-- Listings leave the parameters as they are. -/
theorem entries_of_listings {clauses : Clauses} {orders : List OrderPiece}
    {groups : List GroupPiece} {u : Scope}
    (horders : (piecesOf (fun o => orderPiece ctx o.1 o.2) (orderings clauses.nodes)).runOn s =
      (.ok orders, u))
    (hgroups : (piecesOf (fun g => groupPiece ctx g.1 g.2) (groupings clauses.nodes)).runOn u =
      (.ok groups, t)) : t.params.entries = s.params.entries := by
  have hordered := Build.Binds.piecesOf (fun _ => .orderPiece _ _) _ horders
  have hgrouped := Build.Binds.piecesOf (fun _ => .groupPiece _ _) _ hgroups
  obtain ⟨added, hadded, hnone⟩ := hordered.append hgrouped
  obtain rfl : added = [] := by simpa [List.flatMap_def] using hnone
  simpa using hadded

end

end Sql

end EntityQuery
