import EntityQuery.Proofs.Sql.Predicate
import EntityQuery.Sql.Compile
import Mathlib.Data.List.Forall2

/-!
# Runs of statements

The parts of a statement are made one after the other on one scope. No part takes back what an
earlier one has given out, and only the WHERE part opens its keyword. A statement that is made has
all its parts made.
-/
namespace EntityQuery.Sql

namespace Build

/-- The pieces for several items keep what each piece keeps. -/
theorem Keeps.piecesOf {α β : Type} {R : Scope → Scope → Prop} [IsPreorder Scope R]
    {piece : α → Build β} (h : ∀ x, Keeps R (piece x)) (items : List α) :
    Keeps R (Sql.piecesOf piece items) := by
  induction items with
  | nil => exact .pure _
  | cons x items ih => exact .bind (h x) fun _ => .bind ih fun _ => .pure _

section Keeps

variable {R : Scope → Scope → Prop} {ctx : Context} [KeptByUses ctx R]

theorem Keeps.countedColumn (e : Expr) : Keeps R (Sql.countedColumn ctx e) := by
  unfold Sql.countedColumn
  split
  · exact .pure _
  · exact .bind (KeptByUses.column _) fun _ => .pure _
  · exact .throw _

theorem Keeps.headOf (clauses : Clauses) : Keeps R (Sql.headOf ctx clauses) := by
  unfold Sql.headOf
  split
  · exact .pure _
  · exact .bind (.countedColumn _) fun _ => .pure _
  · exact .pure _

theorem Keeps.assignedValue (field : Field) (e : Expr) :
    Keeps R (Sql.assignedValue ctx field e) := by
  unfold Sql.assignedValue
  split
  · exact .bind (.ofExcept _) fun _ => .bind (KeptByUses.bindParam ctx _ _) fun _ => .pure _
  · exact .bind (KeptByUses.column _) fun _ => .pure _
  · exact .throw _

theorem Keeps.assignment (target : FieldRef) (value : Expr) :
    Keeps R (Sql.assignment ctx target value) := by
  have hrest : Keeps R (do
      let found ← Sql.column ctx target
      let operand ← Sql.assignedValue ctx found.2 value
      return (⟨found.1, operand⟩ : Assignment)) :=
    .bind (KeptByUses.column target) fun _ => .bind (.assignedValue _ value) fun _ => .pure _
  unfold Sql.assignment
  split
  · exact .bind (.throw _) fun _ => hrest
  · exact hrest

theorem Keeps.assignmentsOf (pairs : List (FieldRef × Expr)) :
    Keeps R (Sql.assignmentsOf ctx pairs) := by
  induction pairs with
  | nil => exact .pure _
  | cons pair pairs ih => exact .bind (.assignment _ _) fun _ => .bind ih fun _ => .pure _

theorem Keeps.assignments (e : Expr) : Keeps R (Sql.assignments ctx e) :=
  .bind (.ofExcept _) fun _ => .assignmentsOf _

theorem Keeps.setPart (clauses : Clauses) : Keeps R (Sql.setPart ctx clauses) := by
  unfold Sql.setPart
  split
  · exact .pure _
  · exact .bind (.assignments _) fun _ => .pure _

theorem Keeps.columnsOf (refs : List FieldRef) : Keeps R (Sql.columnsOf ctx refs) := by
  induction refs with
  | nil => exact .pure _
  | cons ref refs ih => exact .bind (KeptByUses.column ref) fun _ => .bind ih fun _ => .pure _

theorem Keeps.listedColumns (kind : ClauseKind) (e : Expr) :
    Keeps R (Sql.listedColumns ctx kind e) := by
  unfold Sql.listedColumns
  split
  · exact .columnsOf _
  · exact .columnsOf _
  · exact .throw _

end Keeps

section Pieces

variable {R : Scope → Scope → Prop} {ctx : Context} [KeptByPieces ctx R]

/-- A piece opens its keyword after its columns have been used. -/
theorem Keeps.orderPiece (descending : Bool) (e : Expr) :
    Keeps R (Sql.orderPiece ctx descending e) :=
  .bind (.listedColumns _ e) fun _ => .get_bind fun _ => KeptByPieces.keyword ctx rfl rfl rfl

theorem Keeps.groupPiece (kind : ClauseKind) (e : Expr) :
    Keeps R (Sql.groupPiece ctx kind e) :=
  .bind (.listedColumns kind e) fun _ => .get_bind fun _ => KeptByPieces.keyword ctx rfl rfl rfl

theorem Keeps.wherePiece (e : Expr) : Keeps R (Sql.wherePiece ctx e) :=
  .bind (.chainOf (fun leaf _ negated => .leafTest negated leaf) _ _) fun _ =>
    .get_bind fun _ => KeptByPieces.keyword ctx rfl rfl rfl

end Pieces

/-- The step adds to the scope and then, unless it has failed, opens keywords. -/
def Opens {α : Type} (opened : Scope → Scope) (step : Build α) : Prop :=
  ∀ s, ∃ u, s.Extends u ∧
    ((∃ x, step.runOn s = (.ok x, opened u)) ∨ ∃ e, step.runOn s = (.error e, u))

namespace Opens

variable {α β : Type} {opened : Scope → Scope} {step : Build α} {s t : Scope}

theorem extends_of_error (h : Opens opened step) {e : QueryError}
    (hrun : step.runOn s = (.error e, t)) : s.Extends t := by
  obtain ⟨u, hextends, ⟨x, hok⟩ | ⟨e', herror⟩⟩ := h s
  · rw [hrun] at hok
    cases hok
  · rw [hrun] at herror
    cases herror
    exact hextends

/-- A flag that is not that of the keyword stays as it is. -/
theorem flag_eq (h : Opens opened step) {flag : Scope → Bool}
    (hextends : ∀ {s t : Scope}, s.Extends t → flag t = flag s)
    (hopened : ∀ u, flag (opened u) = flag u) (s : Scope) : flag (step.runOn s).2 = flag s := by
  obtain ⟨u, hu, ⟨x, hok⟩ | ⟨e, herror⟩⟩ := h s
  · rw [hok, hopened, hextends hu]
  · rw [herror, hextends hu]

/-- Only the first part of the step can fail, and the second one opens the keywords. -/
theorem of_bind (hstep : Keeps Scope.Extends step) {next : α → Build β}
    (hnext : ∀ x u, ∃ y, (next x).runOn u = (.ok y, opened u)) :
    Opens opened (step >>= next) := by
  intro s
  rw [runOn_bind]
  rcases hrun : step.runOn s with ⟨e | x, u⟩
  · exact ⟨u, hstep.of_eq hrun, .inr ⟨e, rfl⟩⟩
  · exact ⟨u, hstep.of_eq hrun, .inl (hnext x u)⟩

theorem of_keeps (hstep : Keeps Scope.Extends step) : Opens id step := by
  intro s
  rcases hrun : step.runOn s with ⟨e | x, u⟩
  · exact ⟨u, hstep.of_eq hrun, .inr ⟨e, rfl⟩⟩
  · exact ⟨u, hstep.of_eq hrun, .inl ⟨x, rfl⟩⟩

theorem map (h : Opens opened step) (f : α → β) : Opens opened (f <$> step) := by
  intro s
  obtain ⟨u, hu, ⟨x, hok⟩ | ⟨e, herror⟩⟩ := h s
  · exact ⟨u, hu, .inl ⟨f x, by rw [runOn_map, hok]; rfl⟩⟩
  · exact ⟨u, hu, .inr ⟨e, by rw [runOn_map, herror]; rfl⟩⟩

variable (ctx : Context)

theorem wherePiece (e : Expr) :
    Opens (fun s => { s with whereOpen := true }) (Sql.wherePiece ctx e) :=
  .of_bind (.chainOf (fun leaf _ negated => .leafTest negated leaf) _ _) fun _ _ => ⟨_, rfl⟩

theorem orderPiece (descending : Bool) (e : Expr) :
    Opens (fun s => { s with orderOpen := true }) (Sql.orderPiece ctx descending e) :=
  .of_bind (.listedColumns _ e) fun _ _ => ⟨_, rfl⟩

theorem groupPiece (kind : ClauseKind) (e : Expr) :
    Opens (fun s => { s with groupOpen := true }) (Sql.groupPiece ctx kind e) :=
  .of_bind (.listedColumns kind e) fun _ _ => ⟨_, rfl⟩

end Opens

end Build

/-- Listing columns only adds to the scope. -/
theorem extends_of_listedColumns {ctx : Context} {kind : ClauseKind} {e : Expr} {s t : Scope}
    {x : Except QueryError (List Column)} (h : (listedColumns ctx kind e).runOn s = (x, t)) :
    s.Extends t :=
  (Build.Keeps.listedColumns kind e).of_eq h

/-- Every piece is made of its item. -/
theorem forall₂_piecesOf {α β : Type} {piece : α → Build β} {items : List α} {pieces : List β}
    {s t : Scope} (h : (piecesOf piece items).runOn s = (.ok pieces, t)) :
    List.Forall₂ (fun item made => ∃ u v, (piece item).runOn u = (.ok made, v)) items pieces := by
  induction items generalizing s pieces with
  | nil =>
      cases h
      exact .nil
  | cons item items ih =>
      obtain ⟨first, u, hfirst, h⟩ := Build.runOn_bind_eq_ok.1 h
      obtain ⟨rest, v, hrest, h⟩ := Build.runOn_bind_eq_ok.1 h
      cases h
      exact .cons ⟨s, u, hfirst⟩ (ih hrest)

/-- The predicates of the filters among some clauses. -/
def predicatesOf (clauses : Clauses) : List Expr := (clauses.ofKind .filter).map (·.expr)

/-- A selection takes every stored field of the root. -/
theorem selected_of_headOf {ctx : Context} {clauses : Clauses} {s t : Scope}
    {columns : List Column}
    (h : (headOf ctx clauses).runOn s = (.ok (.select columns), t)) :
    columns = selectedColumns ctx.root := by
  unfold headOf at h
  split at h
  · cases h
  · obtain ⟨counted, u, hcounted, h⟩ := Build.runOn_bind_eq_ok.1 h
    cases h
  · cases h
    rfl

/-- The parts that follow the joins. -/
def Statement.laterParts (s : Statement) : List String :=
  (s.assignments.map assignmentsText).toList ++ [s.whereText, s.orderText, s.groupText] ++
    (s.limit.map limitText).toList

/-- The parts that are not empty, each after a space. -/
def spaced (parts : List String) : String :=
  String.join ((parts.filter (!·.isEmpty)).map (" " ++ ·))

/-- The joins stand between the head and all other parts. -/
theorem Statement.text_eq (s : Statement) :
    s.text = s.headText ++ String.join (s.joins.map (" " ++ ·.text)) ++ spaced s.laterParts := by
  have hjoins : (s.joins.map Join.text).filter (!·.isEmpty) = s.joins.map Join.text := by
    refine List.filter_eq_self.2 fun text hmem => ?_
    obtain ⟨join, -, rfl⟩ := List.mem_map.1 hmem
    simp [Join.text]
  have hparts : s.parts = s.joins.map Join.text ++ s.laterParts := by
    simp [parts, laterParts]
  rw [text, hparts, List.filter_append, hjoins, List.map_append, String.join_append,
    List.map_map, ← String.append_assoc]
  rfl

/-- What is known of the making of a statement on the scope `s`. -/
structure StatementRun (ctx : Context) (clauses : Clauses) (s : Scope) (statement : Statement)
    (t : Scope) : Prop where
  table : statement.table = ctx.root.table
  qualifier : statement.qualifier = Aliases.primary
  head : ∃ u, (headOf ctx clauses).runOn s = (.ok statement.head, u)
  /-- The WHERE part is made on a scope that knows whether there are several predicates. -/
  wheres : ∃ u v, s.Extends u ∧
    (piecesOf (wherePiece ctx) (predicatesOf clauses)).runOn
      { u with conjoined := 1 < (predicatesOf clauses).length } =
        (.ok statement.wherePieces, v) ∧
    v.Grows t

/-- The steps that make a statement on the scope `s`, with the scopes between them. -/
structure StatementSteps (ctx : Context) (clauses : Clauses) (statement : Statement)
    (references : List String) (s headed assigned filtered ordered t : Scope) : Prop where
  table : statement.table = ctx.root.table
  qualifier : statement.qualifier = Aliases.primary
  combination : checkCombination clauses = .ok ()
  head : (headOf ctx clauses).runOn s = (.ok statement.head, headed)
  assignments : (setPart ctx clauses).runOn headed = (.ok statement.assignments, assigned)
  wheres : (piecesOf (wherePiece ctx) (predicatesOf clauses)).runOn
    { assigned with conjoined := 1 < (predicatesOf clauses).length } =
      (.ok statement.wherePieces, filtered)
  orders : (piecesOf (fun o => orderPiece ctx o.1 o.2) (orderings clauses.nodes)).runOn filtered =
    (.ok statement.orderPieces, ordered)
  groups : (piecesOf (fun g => groupPiece ctx g.1 g.2) (groupings clauses.nodes)).runOn ordered =
    (.ok statement.groupPieces, t)
  limit : limitPart clauses = .ok statement.limit
  referenced : referencedFields ctx.root (clauses.ofKind .reference) = .ok references
  /-- The joins are made last, of all entities that have been used. -/
  joins : joinsOf ctx.root t.aliases references t.joined = .ok statement.joins

theorem statementSteps_of_ok {ctx : Context} {clauses : Clauses} {s t : Scope}
    {statement : Statement}
    (h : (statementOf ctx clauses).runOn s = (.ok statement, t)) :
    ∃ references headed assigned filtered ordered,
      StatementSteps ctx clauses statement references s headed assigned filtered ordered t := by
  obtain ⟨_, s₀, hcheck, h⟩ := Build.runOn_bind_eq_ok.1 h
  obtain ⟨hcombination, rfl⟩ := Prod.mk.inj hcheck
  obtain ⟨head, s₁, hhead, h⟩ := Build.runOn_bind_eq_ok.1 h
  obtain ⟨sets, s₂, hsets, h⟩ := Build.runOn_bind_eq_ok.1 h
  obtain ⟨_, s₃, hmodify, h⟩ := Build.runOn_bind_eq_ok.1 h
  obtain ⟨-, rfl⟩ := Prod.mk.inj hmodify
  obtain ⟨wheres, s₄, hwheres, h⟩ := Build.runOn_bind_eq_ok.1 h
  obtain ⟨orders, s₅, horders, h⟩ := Build.runOn_bind_eq_ok.1 h
  obtain ⟨groups, s₆, hgroups, h⟩ := Build.runOn_bind_eq_ok.1 h
  obtain ⟨limit, s₇, hlimit, h⟩ := Build.runOn_bind_eq_ok.1 h
  obtain ⟨hlimited, rfl⟩ := Prod.mk.inj hlimit
  obtain ⟨references, s₈, hreferences, h⟩ := Build.runOn_bind_eq_ok.1 h
  obtain ⟨hreferenced, rfl⟩ := Prod.mk.inj hreferences
  obtain ⟨_, s₉, hget, h⟩ := Build.runOn_bind_eq_ok.1 h
  obtain ⟨hsame, rfl⟩ := Prod.mk.inj hget
  cases hsame
  obtain ⟨joins, s₁₀, hjoins, h⟩ := Build.runOn_bind_eq_ok.1 h
  obtain ⟨hjoined, rfl⟩ := Prod.mk.inj hjoins
  cases h
  exact ⟨references, s₁, s₂, s₄, s₅, rfl, rfl, hcombination, hhead, hsets, hwheres,
    horders, hgroups, hlimited, hreferenced, hjoined⟩

theorem statementRun_of_ok {ctx : Context} {clauses : Clauses} {s t : Scope}
    {statement : Statement}
    (h : (statementOf ctx clauses).runOn s = (.ok statement, t)) :
    StatementRun ctx clauses s statement t := by
  obtain ⟨_, headed, assigned, filtered, ordered, steps⟩ := statementSteps_of_ok h
  have hbefore : s.Extends assigned :=
    .trans ((Build.Keeps.headOf clauses).of_eq steps.head)
      ((Build.Keeps.setPart clauses).of_eq steps.assignments)
  have hordered : filtered.Grows ordered :=
    (Build.Keeps.piecesOf (fun _ => .orderPiece _ _) _).of_eq steps.orders
  have hgrouped : ordered.Grows t :=
    (Build.Keeps.piecesOf (fun _ => .groupPiece _ _) _).of_eq steps.groups
  exact ⟨steps.table, steps.qualifier, ⟨headed, steps.head⟩, assigned, filtered, hbefore,
    steps.wheres, trans_of Scope.Grows hordered hgrouped⟩

/-- The making of a statement takes back nothing. -/
theorem StatementRun.grows {ctx : Context} {clauses : Clauses} {s t : Scope}
    {statement : Statement} (h : StatementRun ctx clauses s statement t) : s.Grows t := by
  obtain ⟨u, v, hbefore, hwheres, hafter⟩ := h.wheres
  have hpieces : Scope.Grows _ v := (Build.Keeps.piecesOf Build.Keeps.wherePiece _).of_eq hwheres
  have hwheres : u.Grows v := ⟨hpieces.aliases, hpieces.params, hpieces.joined⟩
  exact trans_of Scope.Grows hbefore.grows (trans_of Scope.Grows hwheres hafter)

/-- A query is that of a statement that was made. -/
theorem compileOn_ok {ctx : Context} {scope : Scope} {clauses : Clauses} {query : SqlQuery}
    (h : compileOn ctx scope clauses = .ok query) :
    ∃ statement t, (statementOf ctx clauses).runOn scope = (.ok statement, t) ∧
      query = queryOf statement t.params := by
  unfold compileOn planOn at h
  rcases hrun : (statementOf ctx clauses).runOn scope with ⟨e | statement, t⟩
  · rw [hrun] at h
    cases h
  · rw [hrun] at h
    cases h
    exact ⟨statement, t, rfl, rfl⟩

theorem compile_ok {registry : Registry} {root : String} {clauses : Clauses} {query : SqlQuery}
    (h : compile registry root clauses = .ok query) :
    ∃ ctx, Context.of registry root = .ok ctx ∧ compileOn ctx ctx.scope clauses = .ok query := by
  unfold compile plan at h
  rcases hctx : Context.of registry root with e | ctx
  · rw [hctx] at h
    cases h
  · rw [hctx] at h
    exact ⟨ctx, rfl, h⟩

/-- The root of a context is one of the known schemas. -/
theorem Context.of_ok {registry : Registry} {root : String} {ctx : Context}
    (h : Context.of registry root = .ok ctx) :
    ctx.registry = registry ∧ ctx.root ∈ ctx.registry.schemas := by
  unfold Context.of at h
  rcases hget : registry.get root with e | schema
  · rw [hget] at h
    cases h
  · rw [hget] at h
    cases h
    exact ⟨rfl, List.mem_of_find?_eq_some (Registry.get_eq_ok_iff.1 hget)⟩

theorem plan_of_statementOf {registry : Registry} {root : String} {clauses : Clauses}
    {ctx : Context} {statement : Statement} {t : Scope}
    (hctx : Context.of registry root = .ok ctx)
    (h : (statementOf ctx clauses).runOn ctx.scope = (.ok statement, t)) :
    plan registry root clauses = .ok (statement, t.params) := by
  have hplan : planOn ctx ctx.scope clauses = .ok (statement, t.params) := by
    unfold planOn
    rw [h]
  rw [plan, hctx]
  exact hplan

/-- Clauses whose statement is made compile to its query. -/
theorem compile_of_statementOf {registry : Registry} {root : String} {clauses : Clauses}
    {ctx : Context} {statement : Statement} {t : Scope}
    (hctx : Context.of registry root = .ok ctx)
    (h : (statementOf ctx clauses).runOn ctx.scope = (.ok statement, t)) :
    compile registry root clauses = .ok (queryOf statement t.params) := by
  rw [compile, plan_of_statementOf hctx h]
  rfl

end EntityQuery.Sql
