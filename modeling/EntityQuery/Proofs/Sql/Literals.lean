import EntityQuery.Proofs.Results
import EntityQuery.Proofs.Sql.Meaning
import EntityQuery.Proofs.Sql.Statement

/-!
# Literals stay out of the text

Two collections of clauses that differ in the values of their literals only have the same text and
the same names of parameters. The two constructions are followed side by side: they keep scopes that
differ in bound values only, and no step but the binding of a value looks at a literal, apart from
whether a compared one is null, from a truth value that stands alone, and from a row limit.
-/
namespace EntityQuery

namespace Expr

/-- The same expression but for the values in it: a literal stands for any literal, and a list for
any list. -/
inductive SameShape : Expr → Expr → Prop
  | field (ref : FieldRef) : SameShape (.field ref) (.field ref)
  | literal (v w : Value) : SameShape (.literal v) (.literal w)
  | list (vs ws : List Value) : SameShape (.list vs) (.list ws)
  | fields (refs : List FieldRef) : SameShape (.fields refs) (.fields refs)
  | compare (op : CompareOp) {lhs lhs' rhs rhs' : Expr} :
      SameShape lhs lhs' → SameShape rhs rhs' →
        SameShape (.compare op lhs rhs) (.compare op lhs' rhs')
  | and {lhs lhs' rhs rhs' : Expr} :
      SameShape lhs lhs' → SameShape rhs rhs' → SameShape (.and lhs rhs) (.and lhs' rhs')
  | or {lhs lhs' rhs rhs' : Expr} :
      SameShape lhs lhs' → SameShape rhs rhs' → SameShape (.or lhs rhs) (.or lhs' rhs')
  | not {e e' : Expr} : SameShape e e' → SameShape (.not e) (.not e')
  | call (method : Method) {target target' : Expr} {args args' : List Expr} :
      SameShape target target' → List.Forall₂ SameShape args args' →
        SameShape (.call method target args) (.call method target' args')
  | assign {pairs pairs' : List (FieldRef × Expr)} :
      pairs.map (·.1) = pairs'.map (·.1) →
        List.Forall₂ SameShape (pairs.map (·.2)) (pairs'.map (·.2)) →
          SameShape (.assign pairs) (.assign pairs')
  | all : SameShape .all .all

/-- Whether an expression is the literal null. -/
def isNull : Expr → Bool
  | .literal value => value.isNull
  | _ => false

/-- What the literals of a test decide besides values: the truth of one that stands alone, and
whether a compared one is null. -/
def decided : Expr → List Bool
  | .literal (.bool b) => [b]
  | .compare _ lhs rhs => [lhs.isNull, rhs.isNull]
  | _ => []

/-- The same predicate but for the values of its literals. -/
inductive AlikePredicate : Expr → Expr → Prop
  | and {lhs lhs' rhs rhs' : Expr} :
      AlikePredicate lhs lhs' → AlikePredicate rhs rhs' →
        AlikePredicate (.and lhs rhs) (.and lhs' rhs')
  | or {lhs lhs' rhs rhs' : Expr} :
      AlikePredicate lhs lhs' → AlikePredicate rhs rhs' →
        AlikePredicate (.or lhs rhs) (.or lhs' rhs')
  | not {e e' : Expr} : AlikePredicate e e' → AlikePredicate (.not e) (.not e')
  | leaf {e e' : Expr} :
      e.isLeaf = true → SameShape e e' → e.decided = e'.decided → AlikePredicate e e'

end Expr

/-- The same clause but for the values of its literals; a row limit is kept. The children of a
clause are no part of its statement. -/
def Clause.Alike (node node' : Clause) : Prop :=
  node.kind = node'.kind ∧
    match node.kind with
    | .filter => node.expr.AlikePredicate node'.expr
    | .limit => node.expr = node'.expr
    | _ => node.expr.SameShape node'.expr

/-- The same clauses, in the same order, but for the values of their literals. -/
def Clauses.Alike (clauses clauses' : Clauses) : Prop :=
  List.Forall₂ Clause.Alike clauses.nodes clauses'.nodes

theorem Clause.Alike.predicate {node node' : Clause} (h : node.Alike node')
    (hkind : node.kind = .filter) : node.expr.AlikePredicate node'.expr := by
  simpa [Clause.Alike, hkind] using h.2

theorem Clause.Alike.limit {node node' : Clause} (h : node.Alike node')
    (hkind : node.kind = .limit) : node.expr = node'.expr := by
  simpa [Clause.Alike, hkind] using h.2

theorem Clause.Alike.sameShape {node node' : Clause} (h : node.Alike node')
    (hfilter : node.kind ≠ .filter) (hlimit : node.kind ≠ .limit) :
    node.expr.SameShape node'.expr := by
  obtain ⟨-, hexpr⟩ := h
  split at hexpr
  · contradiction
  · contradiction
  · exact hexpr

namespace Clauses.Alike

variable {clauses clauses' : Clauses}

/-- The clauses of one kind are alike as well. -/
theorem ofKind (h : clauses.Alike clauses') (kind : ClauseKind) :
    List.Forall₂ (fun node node' => node.Alike node' ∧ node.kind = kind) (clauses.ofKind kind)
      (clauses'.ofKind kind) := by
  unfold Clauses.Alike at h
  unfold Clauses.ofKind
  generalize clauses.nodes = nodes, clauses'.nodes = nodes' at h ⊢
  induction h with
  | nil => exact .nil
  | @cons node node' nodes nodes' hnode _ ih =>
      rw [List.filter_cons, List.filter_cons, ← hnode.1]
      by_cases hkind : node.kind = kind
      · simpa [hkind] using List.Forall₂.cons ⟨hnode, hkind⟩ ih
      · simpa [hkind] using ih

theorem first? (h : clauses.Alike clauses') (kind : ClauseKind) :
    Option.Rel (fun node node' => node.Alike node' ∧ node.kind = kind) (clauses.first? kind)
      (clauses'.first? kind) := by
  have hkinds := h.ofKind kind
  unfold Clauses.ofKind at hkinds
  rw [Clauses.first?, Clauses.first?, ← List.head?_filter, ← List.head?_filter]
  generalize clauses.nodes.filter (·.kind = kind) = nodes,
    clauses'.nodes.filter (·.kind = kind) = nodes' at hkinds ⊢
  cases hkinds with
  | nil => exact .none
  | cons hnode _ => exact .some hnode

theorem predicates (h : clauses.Alike clauses') :
    List.Forall₂ Expr.AlikePredicate ((clauses.ofKind .filter).map (·.expr))
      ((clauses'.ofKind .filter).map (·.expr)) := by
  rw [List.forall₂_map_left_iff, List.forall₂_map_right_iff]
  exact (h.ofKind .filter).imp fun node node' hnode => hnode.1.predicate hnode.2

theorem orderings (h : clauses.Alike clauses') :
    List.Forall₂ (fun o o' => o.1 = o'.1 ∧ o.2.SameShape o'.2) (Sql.orderings clauses.nodes)
      (Sql.orderings clauses'.nodes) := by
  refine List.rel_filterMap (fun node node' hnode => ?_) h
  rw [← hnode.1]
  cases hkind : node.kind with
  | orderBy | orderByDescending =>
      exact .some ⟨rfl, hnode.sameShape (by simp [hkind]) (by simp [hkind])⟩
  | _ => exact .none

theorem groupings (h : clauses.Alike clauses') :
    List.Forall₂ (fun g g' => g.1 = g'.1 ∧ g.2.SameShape g'.2) (Sql.groupings clauses.nodes)
      (Sql.groupings clauses'.nodes) := by
  refine List.rel_filterMap (fun node node' hnode => ?_) h
  rw [← hnode.1]
  cases hkind : node.kind with
  | groupBy | distinctBy =>
      exact .some ⟨rfl, hnode.sameShape (by simp [hkind]) (by simp [hkind])⟩
  | _ => exact .none

theorem limitPart_eq (h : clauses.Alike clauses') :
    Sql.limitPart clauses = Sql.limitPart clauses' := by
  have hlimit := h.first? .limit
  unfold Sql.limitPart
  revert hlimit
  generalize clauses.first? .limit = node, clauses'.first? .limit = node'
  rintro (⟨hnode, hkind⟩ | _)
  · simp only [hnode.limit hkind]
  · rfl

/-- A reference names a field, in which there is no literal. -/
theorem referencedFields_eq {root : Schema} {fields fields' : List String}
    (h : clauses.Alike clauses')
    (hfields : Sql.referencedFields root (clauses.ofKind .reference) = .ok fields)
    (hfields' : Sql.referencedFields root (clauses'.ofKind .reference) = .ok fields') :
    fields = fields' := by
  have hreferences := h.ofKind .reference
  generalize clauses.ofKind .reference = nodes, clauses'.ofKind .reference = nodes'
    at hreferences hfields hfields'
  induction hreferences generalizing fields fields' with
  | nil =>
      cases hfields
      cases hfields'
      rfl
  | @cons node node' nodes nodes' hnode _ ih =>
      have hshape := hnode.1.sameShape (by simp [hnode.2]) (by simp [hnode.2])
      obtain ⟨first, hfirst, hfields⟩ := except_bind_eq_ok_iff.1 hfields
      obtain ⟨first', hfirst', hfields'⟩ := except_bind_eq_ok_iff.1 hfields'
      obtain ⟨_, -, hfields⟩ := except_bind_eq_ok_iff.1 hfields
      obtain ⟨_, -, hfields'⟩ := except_bind_eq_ok_iff.1 hfields'
      obtain ⟨rest, hrest, hfields⟩ := except_bind_eq_ok_iff.1 hfields
      obtain ⟨rest', hrest', hfields'⟩ := except_bind_eq_ok_iff.1 hfields'
      cases hfields
      cases hfields'
      have hsame : first = first' := by
        generalize node.expr = e, node'.expr = e' at hshape hfirst hfirst'
        cases hshape with
        | field ref => exact Except.ok.inj (hfirst.symm.trans hfirst')
        | _ => cases hfirst
      rw [hsame, ih hrest hrest']

end Clauses.Alike

namespace Sql

/-- The free number of a field depends on the names in use only. -/
theorem Params.freeNumber_congr {params params' : Params} (h : params.names = params'.names)
    (field : String) : params.freeNumber field = params'.freeNumber field := by
  have hlength : params.entries.length = params'.entries.length := by
    simpa [names] using congrArg List.length h
  simp only [freeNumber, usedBelow, contains, h, hlength]

/-- Scopes that differ in the values of parameters only. -/
structure Scope.Alike (s s' : Scope) : Prop where
  aliases : s.aliases = s'.aliases
  names : s.params.names = s'.params.names
  joined : s.joined = s'.joined
  conjoined : s.conjoined = s'.conjoined
  whereOpen : s.whereOpen = s'.whereOpen
  orderOpen : s.orderOpen = s'.orderOpen
  groupOpen : s.groupOpen = s'.groupOpen

theorem Scope.Alike.refl (s : Scope) : s.Alike s := ⟨rfl, rfl, rfl, rfl, rfl, rfl, rfl⟩

theorem Scope.Alike.using {s s' : Scope} (h : s.Alike s') (ctx : Context) (owner : Schema) :
    (s.using ctx owner).Alike (s'.using ctx owner) := by
  have hjoin : (s.join ctx owner).Alike (s'.join ctx owner) := by
    unfold Scope.join
    rw [h.joined]
    split
    · exact h
    · exact { h with joined := rfl }
  exact { hjoin with aliases := congrArg (Aliases.including · owner.table) h.aliases }

namespace Build

variable {α β γ δ : Type}

/-- On scopes that differ in the values of parameters only, the two steps give the same and leave
such scopes, if both succeed. -/
def Agree (step step' : Build α) : Prop :=
  ∀ ⦃s s' x x' t t'⦄, s.Alike s' → step.runOn s = (.ok x, t) → step'.runOn s' = (.ok x', t') →
    x = x' ∧ t.Alike t'

namespace Agree

theorem pure (x : α) : Agree (Pure.pure x) (Pure.pure x) := by
  intro s s' y y' t t' hs h h'
  cases h
  cases h'
  exact ⟨rfl, hs⟩

theorem throw (e : QueryError) (step : Build α) : Agree (MonadExcept.throw e) step := by
  intro s s' y y' t t' hs h h'
  cases h

theorem throw_right (step : Build α) (e : QueryError) : Agree step (MonadExcept.throw e) := by
  intro s s' y y' t t' hs h h'
  cases h'

theorem bind {step step' : Build α} {next next' : α → Build β} (hstep : Agree step step')
    (hnext : ∀ x, Agree (next x) (next' x)) : Agree (step >>= next) (step' >>= next') := by
  intro s s' y y' t t' hs h h'
  obtain ⟨x, u, hx, hy⟩ := runOn_bind_eq_ok.1 h
  obtain ⟨x', u', hx', hy'⟩ := runOn_bind_eq_ok.1 h'
  obtain ⟨rfl, hu⟩ := hstep hs hx hx'
  exact hnext x hu hy hy'

/-- Steps that read no scope may give different results, as long as what follows agrees on them. -/
theorem ofExcept_bind {R : γ → δ → Prop} {x : Except QueryError γ} {x' : Except QueryError δ}
    {next : γ → Build β} {next' : δ → Build β}
    (hx : ∀ a a', x = .ok a → x' = .ok a' → R a a')
    (hnext : ∀ a a', R a a' → Agree (next a) (next' a')) :
    Agree (Build.ofExcept x >>= next) (Build.ofExcept x' >>= next') := by
  intro s s' y y' t t' hs h h'
  obtain ⟨a, u, ha, hy⟩ := runOn_bind_eq_ok.1 h
  obtain ⟨a', u', ha', hy'⟩ := runOn_bind_eq_ok.1 h'
  obtain ⟨hok, rfl⟩ := Prod.mk.inj ha
  obtain ⟨hok', rfl⟩ := Prod.mk.inj ha'
  exact hnext a a' (hx a a' hok hok') hs hy hy'

theorem get_bind {next next' : Scope → Build β}
    (h : ∀ ⦃s s' y y' t t'⦄, s.Alike s' → (next s).runOn s = (.ok y, t) →
      (next' s').runOn s' = (.ok y', t') → y = y' ∧ t.Alike t') :
    Agree ((get : Build Scope) >>= next) ((get : Build Scope) >>= next') := by
  intro s s' y y' t t' hs hy hy'
  obtain ⟨u, v, hu, hy⟩ := runOn_bind_eq_ok.1 hy
  obtain ⟨u', v', hu', hy'⟩ := runOn_bind_eq_ok.1 hy'
  cases hu
  cases hu'
  exact h hs hy hy'

/-- A value is bound under the same name, whatever it is. -/
theorem bindParam (field : String) (v w : Value) :
    Agree (Sql.bindParam field v) (Sql.bindParam field w) := by
  intro s s' y y' t t' hs h h'
  cases h
  cases h'
  have hname : (s.params.bind field v).1 = (s'.params.bind field w).1 :=
    congrArg (Params.fieldName field) (Params.freeNumber_congr hs.names field)
  have hnames : (s.params.bind field v).2.names = (s'.params.bind field w).2.names := by
    have happend := congrArg₂ (fun names name => names ++ [name]) hs.names hname
    simpa [Params.names, Params.bind] using happend
  exact ⟨hname, { hs with names := hnames }⟩

theorem column (ctx : Context) (ref : FieldRef) :
    Agree (Sql.column ctx ref) (Sql.column ctx ref) := by
  rintro s s' ⟨c, field⟩ ⟨c', field'⟩ t t' hs h h'
  obtain ⟨owner, hstored, rfl, rfl⟩ := stored_of_runOn_column h
  obtain ⟨owner', hstored', rfl, rfl⟩ := stored_of_runOn_column h'
  rw [hstored] at hstored'
  cases hstored'
  exact ⟨by rw [Scope.columnIn, Scope.columnIn, hs.aliases], hs.using ctx owner⟩

section Tests

variable (ctx : Context) (negated : Bool)

theorem compareValue (ref : FieldRef) (op : CompareOp) {v w : Value} (h : v.isNull = w.isNull) :
    Agree (Sql.compareValue ctx negated ref op v) (Sql.compareValue ctx negated ref op w) := by
  refine .bind (.column ctx ref) fun ⟨lhs, field⟩ => ?_
  dsimp only
  rw [h]
  split
  · cases op with
    | eq | ne => exact .pure _
    | lt | le | gt | ge => exact .throw _ _
  · exact .bind (.bindParam _ _ _) fun _ => .pure _

theorem compareFields (op : CompareOp) (left right : FieldRef) :
    Agree (Sql.compareFields ctx negated op left right)
      (Sql.compareFields ctx negated op left right) :=
  .bind (.column ctx left) fun _ => .bind (.column ctx right) fun _ => .pure _

theorem compareExprs (op : CompareOp) {lhs lhs' rhs rhs' : Expr} (hl : lhs.SameShape lhs')
    (hr : rhs.SameShape rhs') (hlnull : lhs.isNull = lhs'.isNull)
    (hrnull : rhs.isNull = rhs'.isNull) :
    Agree (Sql.compareExprs ctx negated op lhs rhs)
      (Sql.compareExprs ctx negated op lhs' rhs') := by
  unfold Sql.compareExprs
  split
  · cases hl
    cases hr
    exact compareValue ctx negated _ _ hrnull
  · cases hl
    cases hr
    exact compareValue ctx negated _ _ hlnull
  · cases hl
    cases hr
    exact compareFields ctx negated _ _ _
  · exact .throw _ _
  · exact .throw _ _

theorem truthTest (ref : FieldRef) :
    Agree (Sql.truthTest ctx negated ref) (Sql.truthTest ctx negated ref) := by
  refine .bind (.column ctx ref) fun ⟨lhs, field⟩ => ?_
  dsimp only
  split
  · exact .bind (.throw _ _) fun _ => .bind (.bindParam _ _ _) fun _ => .pure _
  · exact .bind (.bindParam _ _ _) fun _ => .pure _

theorem membership (vs ws : List Value) (ref : FieldRef) :
    Agree (Sql.membership ctx negated vs ref) (Sql.membership ctx negated ws ref) :=
  .bind (.column ctx ref) fun _ => .ofExcept_bind (fun _ _ _ _ => trivial) fun _ _ _ =>
    .bind (.bindParam _ _ _) fun _ => .pure _

theorem patternTest (ref : FieldRef) (pattern pattern' : String) :
    Agree (Sql.patternTest ctx negated ref pattern) (Sql.patternTest ctx negated ref pattern') :=
  .bind (.column ctx ref) fun _ => .bind (.bindParam _ _ _) fun _ => .pure _

theorem missingTest (ref : FieldRef) :
    Agree (Sql.missingTest ctx negated ref) (Sql.missingTest ctx negated ref) :=
  .bind (.column ctx ref) fun _ => .pure _

/-- A pattern is made of a text; with any other literal a method has no test. -/
theorem callTest (method : Method) {target target' : Expr} {args args' : List Expr}
    (htarget : target.SameShape target') (hargs : List.Forall₂ Expr.SameShape args args') :
    Agree (Sql.callTest ctx negated method target args)
      (Sql.callTest ctx negated method target' args') := by
  unfold Sql.callTest
  split
  -- the two names of membership
  iterate 2
    · cases htarget
      obtain ⟨_, _, harg, hnil, rfl⟩ := List.forall₂_cons_left_iff.1 hargs
      cases harg
      cases hnil
      exact membership ctx negated _ _ _
  -- the three kinds of patterns
  iterate 3
    · cases htarget
      obtain ⟨_, _, harg, hnil, rfl⟩ := List.forall₂_cons_left_iff.1 hargs
      cases hnil
      cases harg with
      | literal _ w =>
          cases w with
          | text pattern => exact patternTest ctx negated _ _ _
          | _ => exact .throw_right _ _
  -- the two names of the test for null on a target
  iterate 2
    · cases htarget
      cases hargs
      exact missingTest ctx negated _
  -- and on an argument, whatever the target is
  iterate 2
    · obtain ⟨_, _, harg, hnil, rfl⟩ := List.forall₂_cons_left_iff.1 hargs
      cases harg
      cases hnil
      cases htarget <;> exact missingTest ctx negated _
  · exact .throw _ _

/-- A test decides no more of its literals than what must be the same. -/
theorem leafTest {e e' : Expr} (hshape : e.SameShape e') (hdecided : e.decided = e'.decided) :
    Agree (Sql.leafTest ctx negated e) (Sql.leafTest ctx negated e') := by
  unfold Sql.leafTest
  split
  · cases hshape with
    | compare _ hl hr =>
        obtain ⟨hlnull, hrnull⟩ : _ ∧ _ := by simpa [Expr.decided] using hdecided
        exact compareExprs ctx negated _ hl hr hlnull hrnull
  · cases hshape
    exact truthTest ctx negated _
  · next b =>
      cases hshape with
      | literal _ w =>
          obtain rfl : w = .bool b := by
            cases w <;> simp_all [Expr.decided]
          exact .pure _
  · cases hshape with
    | call _ htarget hargs => exact callTest ctx negated _ htarget hargs
  · exact .throw _ _

/-- The chains of two predicates that differ in literals: the connectives are the same, so they
stand between the same tests. -/
theorem chainOf {e e' : Expr} (h : e.AlikePredicate e') (connective : Connective) :
    Agree (Sql.chainOf ctx connective negated e) (Sql.chainOf ctx connective negated e') := by
  induction h generalizing connective negated with
  | and _ _ ihl ihr | or _ _ ihl ihr =>
      exact .bind (ihl _ _) fun _ => .bind (ihr _ _) fun _ => .pure _
  | not _ ih => exact ih (!negated) connective
  | @leaf e e' hleaf hshape hdecided =>
      have hleaf' : e'.isLeaf = true := by
        cases hshape <;> first | rfl | cases hleaf
      rw [chainOf_of_isLeaf hleaf, chainOf_of_isLeaf hleaf']
      exact .bind (leafTest ctx negated hshape hdecided) fun _ => .pure _

end Tests

section Parts

variable (ctx : Context)

theorem wherePiece {e e' : Expr} (h : e.AlikePredicate e') :
    Agree (Sql.wherePiece ctx e) (Sql.wherePiece ctx e') := by
  refine .bind (chainOf ctx false h .and) fun chain => .get_bind fun s s' y y' t t' hs hy hy' => ?_
  cases hy
  cases hy'
  exact ⟨by rw [hs.conjoined, hs.whereOpen], { hs with whereOpen := rfl }⟩

theorem piecesOf {α β : Type} {R : α → α → Prop} {piece : α → Build β}
    (hpiece : ∀ x x', R x x' → Agree (piece x) (piece x')) {items items' : List α}
    (h : List.Forall₂ R items items') :
    Agree (Sql.piecesOf piece items) (Sql.piecesOf piece items') := by
  induction h with
  | nil => exact .pure _
  | cons hfirst _ ih => exact .bind (hpiece _ _ hfirst) fun _ => .bind ih fun _ => .pure _

theorem columnsOf (refs : List FieldRef) :
    Agree (Sql.columnsOf ctx refs) (Sql.columnsOf ctx refs) := by
  induction refs with
  | nil => exact .pure _
  | cons ref refs ih => exact .bind (.column ctx ref) fun _ => .bind ih fun _ => .pure _

theorem listedColumns (kind : ClauseKind) {e e' : Expr} (h : e.SameShape e') :
    Agree (Sql.listedColumns ctx kind e) (Sql.listedColumns ctx kind e') := by
  unfold Sql.listedColumns
  split
  · cases h
    exact columnsOf ctx _
  · cases h
    exact columnsOf ctx _
  · exact .throw _ _

theorem orderPiece (descending : Bool) {e e' : Expr} (h : e.SameShape e') :
    Agree (Sql.orderPiece ctx descending e) (Sql.orderPiece ctx descending e') := by
  refine .bind (listedColumns ctx _ h) fun columns => .get_bind fun s s' y y' t t' hs hy hy' => ?_
  cases hy
  cases hy'
  exact ⟨by rw [hs.orderOpen], { hs with orderOpen := rfl }⟩

theorem groupPiece (kind : ClauseKind) {e e' : Expr} (h : e.SameShape e') :
    Agree (Sql.groupPiece ctx kind e) (Sql.groupPiece ctx kind e') := by
  refine .bind (listedColumns ctx kind h) fun columns =>
    .get_bind fun s s' y y' t t' hs hy hy' => ?_
  cases hy
  cases hy'
  exact ⟨by rw [hs.groupOpen], { hs with groupOpen := rfl }⟩

theorem countedColumn {e e' : Expr} (h : e.SameShape e') :
    Agree (Sql.countedColumn ctx e) (Sql.countedColumn ctx e') := by
  unfold Sql.countedColumn
  split
  · cases h
    exact .pure _
  · cases h
    exact .bind (.column ctx _) fun _ => .pure _
  · exact .throw _ _

/-- A literal is converted before it is bound, and neither shows. -/
theorem assignedValue (field : Field) {e e' : Expr} (h : e.SameShape e') :
    Agree (Sql.assignedValue ctx field e) (Sql.assignedValue ctx field e') := by
  unfold Sql.assignedValue
  split
  · cases h
    exact .ofExcept_bind (fun _ _ _ _ => trivial) fun _ _ _ =>
      .bind (.bindParam _ _ _) fun _ => .pure _
  · cases h
    exact .bind (.column ctx _) fun _ => .pure _
  · exact .throw _ _

theorem assignment (target : FieldRef) {value value' : Expr} (h : value.SameShape value') :
    Agree (Sql.assignment ctx target value) (Sql.assignment ctx target value') := by
  unfold Sql.assignment
  split
  · exact .bind (.throw _ _) fun _ => .bind (.column ctx target) fun _ =>
      .bind (assignedValue ctx _ h) fun _ => .pure _
  · exact .bind (.column ctx target) fun _ => .bind (assignedValue ctx _ h) fun _ => .pure _

theorem assignmentsOf {pairs pairs' : List (FieldRef × Expr)}
    (htargets : pairs.map (·.1) = pairs'.map (·.1))
    (hvalues : List.Forall₂ Expr.SameShape (pairs.map (·.2)) (pairs'.map (·.2))) :
    Agree (Sql.assignmentsOf ctx pairs) (Sql.assignmentsOf ctx pairs') := by
  induction pairs generalizing pairs' with
  | nil =>
      obtain rfl : pairs' = [] := by simpa using htargets.symm
      exact .pure _
  | cons pair pairs ih =>
      obtain ⟨target, value⟩ := pair
      obtain _ | ⟨⟨target', value'⟩, pairs'⟩ := pairs'
      · simp at htargets
      · obtain ⟨rfl, hrest⟩ := List.cons.inj htargets
        obtain ⟨hvalue, hrestValues⟩ := List.forall₂_cons.1 hvalues
        exact .bind (assignment ctx target hvalue) fun _ =>
          .bind (ih hrest hrestValues) fun _ => .pure _

end Parts

theorem modifyBoth {f f' : Scope → Scope} (h : ∀ ⦃s s'⦄, s.Alike s' → (f s).Alike (f' s')) :
    Agree (modify f) (modify f') := by
  intro s s' y y' t t' hs hy hy'
  cases hy
  cases hy'
  exact ⟨rfl, h hs⟩

/-- The same fields are assigned, in the same order. -/
theorem assignedPairs_alike {e e' : Expr} (h : e.SameShape e')
    (pairs pairs' : List (FieldRef × Expr))
    (hpairs : assignedPairs e = .ok pairs) (hpairs' : assignedPairs e' = .ok pairs') :
    pairs.map (·.1) = pairs'.map (·.1) ∧
      List.Forall₂ Expr.SameShape (pairs.map (·.2)) (pairs'.map (·.2)) := by
  unfold assignedPairs at hpairs
  split at hpairs
  · cases hpairs
    cases h with
    | @assign _ rows hfields hvalues =>
        cases rows with
        | nil => simp at hfields
        | cons row rows =>
            cases hpairs'
            exact ⟨hfields, hvalues⟩
  · cases hpairs
    cases h with
    | compare _ htarget hvalue =>
        cases htarget
        cases hpairs'
        exact ⟨rfl, .cons hvalue .nil⟩
  · cases hpairs

section Statements

variable (ctx : Context) {clauses clauses' : Clauses} (h : clauses.Alike clauses')

include h

theorem headOf : Agree (Sql.headOf ctx clauses) (Sql.headOf ctx clauses') := by
  have hset := h.first? .set
  have hcount := h.first? .count
  unfold Sql.headOf
  revert hset hcount
  generalize clauses.first? .set = s, clauses'.first? .set = s', clauses.first? .count = c,
    clauses'.first? .count = c'
  rintro (_ | _) (⟨hnode, hkind⟩ | _)
  · exact .pure _
  · exact .pure _
  · exact .bind (countedColumn ctx (hnode.sameShape (by simp [hkind]) (by simp [hkind]))) fun _ =>
      .pure _
  · exact .pure _

theorem setPart : Agree (Sql.setPart ctx clauses) (Sql.setPart ctx clauses') := by
  have hset := h.first? .set
  unfold Sql.setPart
  revert hset
  generalize clauses.first? .set = node, clauses'.first? .set = node'
  rintro (⟨hnode, hkind⟩ | _)
  · have hshape := hnode.sameShape (by simp [hkind]) (by simp [hkind])
    refine .bind (.ofExcept_bind (assignedPairs_alike hshape) fun pairs pairs' hpairs => ?_)
      fun _ => .pure _
    exact assignmentsOf ctx hpairs.1 hpairs.2
  · exact .pure _

/-- No part of a statement depends on the literals: the parts before may have bound other values,
but under the same names. -/
theorem statementOf : Agree (Sql.statementOf ctx clauses) (Sql.statementOf ctx clauses') := by
  have hpredicates := h.predicates
  refine .ofExcept_bind (fun _ _ _ _ => trivial) fun _ _ _ => .bind (headOf ctx h) fun head =>
    .bind (setPart ctx h) fun sets => ?_
  refine .bind (.modifyBoth fun s s' hs => ?_) fun _ =>
    .bind (piecesOf (fun _ _ he => wherePiece ctx he) hpredicates) fun wheres =>
    .bind (piecesOf (fun o o' ho => ?_) h.orderings) fun orders =>
    .bind (piecesOf (fun g g' hg => ?_) h.groupings) fun groups =>
    .ofExcept_bind (fun n n' hn hn' => Except.ok.inj (hn.symm.trans (h.limitPart_eq ▸ hn')))
      fun limit _ hlimit => .ofExcept_bind (fun fields fields' => h.referencedFields_eq)
        fun references _ hreferences => .get_bind fun s s' y y' t t' hs hy hy' => ?_
  · exact { hs with conjoined := by rw [hpredicates.length_eq] }
  · rw [ho.1]
    exact orderPiece ctx _ ho.2
  · rw [hg.1]
    exact groupPiece ctx _ hg.2
  · subst hlimit hreferences
    rw [hs.aliases, hs.joined] at hy
    obtain ⟨joins, u, hjoins, hy⟩ := runOn_bind_eq_ok.1 hy
    obtain ⟨joins', u', hjoins', hy'⟩ := runOn_bind_eq_ok.1 hy'
    obtain ⟨hok, rfl⟩ := Prod.mk.inj hjoins
    obtain ⟨hok', rfl⟩ := Prod.mk.inj hjoins'
    cases hy
    cases hy'
    rw [hok] at hok'
    cases hok'
    exact ⟨rfl, hs⟩

end Statements

end Agree

end Build

/-- Clauses that differ in the values of their literals compile to the same text, with the same
names of parameters in the same order. -/
theorem text_eq_of_alike {registry : Registry} {root : String} {clauses clauses' : Clauses}
    {query query' : SqlQuery} (halike : clauses.Alike clauses')
    (h : compile registry root clauses = .ok query)
    (h' : compile registry root clauses' = .ok query') :
    query.sql = query'.sql ∧ query.table = query'.table ∧ query.kind = query'.kind ∧
      query.params.names = query'.params.names := by
  obtain ⟨ctx, hctx, hcompile⟩ := compile_ok h
  obtain ⟨ctx', hctx', hcompile'⟩ := compile_ok h'
  obtain rfl : ctx = ctx' := Except.ok.inj (hctx.symm.trans hctx')
  obtain ⟨statement, t, hrun, rfl⟩ := compileOn_ok hcompile
  obtain ⟨statement', t', hrun', rfl⟩ := compileOn_ok hcompile'
  obtain ⟨rfl, ht⟩ := Build.Agree.statementOf ctx halike (.refl ctx.scope) hrun hrun'
  exact ⟨rfl, rfl, rfl, ht.names⟩

/-- An update with a literal at every place that allows one to vary. -/
def sampleUpdate (customer id : Value) (pattern : String) (ids : List Value) : Clauses :=
  ⟨[.of .set (.assign [(⟨none, "Customer"⟩, .literal customer)]),
    .of .filter (.and
      (.call .startsWith (.field ⟨none, "Customer"⟩) [.literal (.text pattern)])
      (.not (.or (.call .any (.list ids) [.field ⟨none, "Id"⟩])
        (.compare .lt (.literal id) (.field ⟨none, "Id"⟩)))))]⟩

theorem sampleUpdate_alike (customer customer' id id' : Value) (pattern pattern' : String)
    (ids ids' : List Value) (hnull : id.isNull = id'.isNull) :
    (sampleUpdate customer id pattern ids).Alike (sampleUpdate customer' id' pattern' ids') := by
  have hids : (Expr.call .any (.list ids) [.field ⟨none, "Id"⟩]).AlikePredicate
      (.call .any (.list ids') [.field ⟨none, "Id"⟩]) :=
    .leaf rfl (.call _ (.list _ _) (.cons (.field _) .nil)) rfl
  have hid : (Expr.compare .lt (.literal id) (.field ⟨none, "Id"⟩)).AlikePredicate
      (.compare .lt (.literal id') (.field ⟨none, "Id"⟩)) :=
    .leaf rfl (.compare _ (.literal _ _) (.field _)) (by simp [Expr.decided, Expr.isNull, hnull])
  have hpattern : (Expr.call .startsWith (.field ⟨none, "Customer"⟩)
      [.literal (.text pattern)]).AlikePredicate
      (.call .startsWith (.field ⟨none, "Customer"⟩) [.literal (.text pattern')]) :=
    .leaf rfl (.call _ (.field _) (.cons (.literal _ _) .nil)) rfl
  exact .cons ⟨rfl, .assign rfl (.cons (.literal _ _) .nil)⟩
    (.cons ⟨rfl, .and hpattern (.not (.or hids hid))⟩ .nil)

/-- Two samples of the update. In the second the pattern looks like a condition, the list is longer
and the values are texts. -/
def sampleQuietUpdate : Clauses := sampleUpdate (.int32 4) (.int32 7) "9" [.int32 1]

def sampleLoudUpdate : Clauses :=
  sampleUpdate (.text "5") (.text "x") "' OR 1 = 1" [.int32 2, .text "'"]

theorem text_eq_of_alike_sample :
    ∃ query query', compile sampleContext.registry "Order" sampleQuietUpdate = .ok query ∧
      compile sampleContext.registry "Order" sampleLoudUpdate = .ok query' ∧
      query.params ≠ query'.params ∧ query.sql = query'.sql ∧
      query.params.names = query'.params.names := by
  have hok : (compile sampleContext.registry "Order" sampleQuietUpdate).isOk = true := by
    decide +kernel
  have hok' : (compile sampleContext.registry "Order" sampleLoudUpdate).isOk = true := by
    decide +kernel
  have hdiffer :
      (compile sampleContext.registry "Order" sampleQuietUpdate).toOption.map (·.params) ≠
        (compile sampleContext.registry "Order" sampleLoudUpdate).toOption.map (·.params) := by
    decide +kernel
  obtain ⟨query, hquery⟩ := except_exists_of_isOk hok
  obtain ⟨query', hquery'⟩ := except_exists_of_isOk hok'
  have halike : sampleQuietUpdate.Alike sampleLoudUpdate := sampleUpdate_alike _ _ _ _ _ _ _ _ rfl
  obtain ⟨hsql, -, -, hnames⟩ := text_eq_of_alike halike hquery hquery'
  rw [hquery, hquery'] at hdiffer
  exact ⟨query, query', hquery, hquery', fun hsame => hdiffer (congrArg some hsame), hsql, hnames⟩

end Sql

end EntityQuery
