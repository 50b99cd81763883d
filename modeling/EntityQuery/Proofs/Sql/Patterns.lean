import EntityQuery.Proofs.Sql.Joins
import EntityQuery.Proofs.Sql.Membership
import EntityQuery.Proofs.Sql.Statement
import EntityQuery.Proofs.Text.Wildcards
import Mathlib.Algebra.Ring.Parity

/-!
# Looking for texts

A call that looks for a text in a field becomes a test with LIKE, for which a pattern is bound. If
the text has no wildcards of its own, what matches the pattern is what the call asks for. Negations
right over the call make it NOT LIKE if their number is odd. A negation of a connective is written
in front of the group instead, and the tests inside stay as they are, so the count starts anew at
every connective.
-/
namespace EntityQuery

/-- Whether a text is where the method looks for it. -/
def Method.Finds (method : Method) (text subject : List Char) : Prop :=
  match method with
  | .contains => text <:+: subject
  | .startsWith => text <+: subject
  | .endsWith => text <:+ subject
  | _ => False

/-- The leaves of a predicate, each with the number of negations over it, of which `nots` are over
the whole predicate. With `near`, only those count that no connective separates from the leaf. -/
def Expr.leavesUnder (near : Bool) (nots : ℕ) : Expr → List (ℕ × Expr)
  | .and lhs rhs | .or lhs rhs =>
      lhs.leavesUnder near (if near then 0 else nots) ++
        rhs.leavesUnder near (if near then 0 else nots)
  | .not e => e.leavesUnder near (nots + 1)
  | e => [(nots, e)]

theorem Expr.leavesUnder_of_isLeaf {e : Expr} (h : e.isLeaf = true) (near : Bool) (nots : ℕ) :
    e.leavesUnder near nots = [(nots, e)] := by
  cases e <;> first | rfl | cases h

namespace Sql

mutual

def Condition.tests : Condition → List Test
  | .test test => [test]
  | .negation chain => chainTests chain
  | .group chain => chainTests chain

/-- The tests of a chain, from left to right. -/
def chainTests : Chain → List Test
  | [] => []
  | (_, condition) :: rest => condition.tests ++ chainTests rest

end

theorem chainTests_append (left right : Chain) :
    chainTests (left ++ right) = chainTests left ++ chainTests right := by
  induction left with
  | nil => rfl
  | cons sibling left ih => simp [chainTests, ih]

theorem chainTests_joinChains (connective : Connective) (negated : Bool) (left right : Chain) :
    chainTests (joinChains connective negated left right) =
      chainTests left ++ chainTests right := by
  cases negated with
  | false => exact chainTests_append left right
  | true => simp [joinChains, chainTests, Condition.tests, chainTests_append]

theorem chainTests_closeIf (others : Bool) (chain : Chain) :
    chainTests (closeIf others chain) = chainTests chain := by
  unfold closeIf
  split <;> simp [grouped, chainTests, Condition.tests]

/-- If the leaf, under its number of negations, is a call that looks for a text without wildcards in
a field, then the test asks this of the column of the field, by a bound pattern. It is in the form
of NOT LIKE if the number is odd. -/
def LooksFor (ctx : Context) (final : Scope) (leaf : ℕ × Expr) (test : Test) : Prop :=
  ∀ (method : Method) (ref : FieldRef) (text : String),
    leaf.2 = .call method (.field ref) [.literal (.text text)] → Text.Plain text.toList →
    ∃ column name pattern, ShownAs ctx final ref column ∧
      test = .like (decide (Odd leaf.1)) column name ∧
      test.text = column.text ++ (if Odd leaf.1 then " NOT LIKE " else " LIKE ") ++ name ∧
      final.params.get? name = some (.text pattern) ∧
      ∀ subject : String,
        Text.Matches pattern.toList subject.toList ↔ method.Finds text.toList subject.toList

variable {ctx : Context} {s t : Scope}

theorem LooksFor.of_grows {final later : Scope} {leaf : ℕ × Expr} {test : Test}
    (h : LooksFor ctx final leaf test) (hgrows : final.Grows later) :
    LooksFor ctx later leaf test := by
  intro method ref text hleaf hplain
  obtain ⟨column, name, pattern, hshown, htest, htext, hbound, hfinds⟩ :=
    h method ref text hleaf hplain
  exact ⟨column, name, pattern, hshown.of_grows hgrows, htest, htext,
    Params.get?_of_prefix hgrows.params hbound, hfinds⟩

/-- What a test for a pattern consists of. -/
theorem patternTest_ok {negated : Bool} {ref : FieldRef} {pattern : String} {test : Test}
    (h : (patternTest ctx negated ref pattern).runOn s = (.ok test, t)) :
    ∃ column name, ShownAs ctx t ref column ∧ test = .like negated column name ∧
      t.params.get? name = some (.text pattern) := by
  obtain ⟨⟨column, field⟩, u, hcolumn, h⟩ := Build.runOn_bind_eq_ok.1 h
  obtain ⟨name, v, hbind, h⟩ := Build.runOn_bind_eq_ok.1 h
  cases h
  obtain ⟨owner, hstored, rfl, rfl⟩ := stored_of_runOn_column hcolumn
  have hgrows : (s.using ctx owner).Grows t := ((Build.Keeps.bindParam _ _).of_eq hbind).grows
  refine ⟨_, name, shownAs_columnIn hstored hgrows, rfl, ?_⟩
  rw [runOn_bindParam] at hbind
  cases hbind
  exact Params.get?_bind _ _ _

/-- The pattern of a call that looks for a text. For other methods there is no test. -/
theorem patternCall_ok {negated : Bool} {method : Method} {ref : FieldRef} {text : String}
    {test : Test}
    (h : (leafTest ctx negated (.call method (.field ref) [.literal (.text text)])).runOn s =
      (.ok test, t)) (hplain : Text.Plain text.toList) :
    ∃ pattern, (patternTest ctx negated ref pattern).runOn s = (.ok test, t) ∧
      ∀ subject : String,
        Text.Matches pattern.toList subject.toList ↔ method.Finds text.toList subject.toList := by
  cases method with
  | contains =>
      refine ⟨_, h, fun subject => ?_⟩
      simpa [Method.Finds] using Text.matches_percent_append_percent_iff hplain
  | startsWith =>
      refine ⟨_, h, fun subject => ?_⟩
      simpa [Method.Finds] using Text.matches_append_percent_iff hplain
  | endsWith =>
      refine ⟨_, h, fun subject => ?_⟩
      simpa [Method.Finds] using Text.matches_percent_append_iff hplain
  | any | isNullOrEmpty | isNullOrWhiteSpace | named => cases h

theorem looksFor_of_leafTest {nots : ℕ} {e : Expr} {test : Test}
    (h : (leafTest ctx (decide (Odd nots)) e).runOn s = (.ok test, t)) :
    LooksFor ctx t (nots, e) test := by
  rintro method ref text rfl hplain
  obtain ⟨pattern, hrun, hfinds⟩ := patternCall_ok h hplain
  obtain ⟨column, name, hshown, rfl, hbound⟩ := patternTest_ok hrun
  refine ⟨column, name, pattern, hshown, rfl, ?_, hbound, hfinds⟩
  by_cases hodd : Odd nots <;> simp [Test.text, negationText, hodd, String.append_assoc]

/-- The tests of a chain are those of the leaves, one for each. -/
theorem looksFor_of_chainOf {connective : Connective} {nots : ℕ} {e : Expr} {chain : Chain}
    (h : (chainOf ctx connective (decide (Odd nots)) e).runOn s = (.ok chain, t)) :
    List.Forall₂ (LooksFor ctx t) (e.leavesUnder true nots) (chainTests chain) := by
  induction e using Expr.connectiveInduction generalizing connective nots s t chain with
  | and lhs rhs ihl ihr | or lhs rhs ihl ihr =>
      obtain ⟨left, right, u, hleft, hright, rfl⟩ := chainOf_operands_ok h
      rw [chainTests_joinChains]
      -- Inside a connective nothing is negated, whatever is over it.
      have hzero : decide (Odd 0) = false := by decide
      rw [← hzero] at hleft hright
      have hgrows : u.Grows t := (extends_of_chainOf hright).grows
      exact List.rel_append ((ihl hleft).imp fun _ _ hlooks => hlooks.of_grows hgrows)
        (ihr hright)
  | not e ih =>
      have hmore : decide (Odd (nots + 1)) = !decide (Odd nots) := by
        rw [← decide_not, decide_eq_decide]
        exact Nat.odd_add_one
      have hinner : (chainOf ctx connective (!decide (Odd nots)) e).runOn s = (.ok chain, t) := h
      rw [← hmore] at hinner
      exact ih hinner
  | leaf e hleaf =>
      obtain ⟨test, htest, rfl⟩ := chainOf_leaf_ok hleaf h
      rw [Expr.leavesUnder_of_isLeaf hleaf]
      exact .cons (looksFor_of_leafTest htest) .nil

/-- The tests of a piece do what is asked by the leaves of its predicate. -/
def PieceLooksFor (ctx : Context) (final : Scope) (predicate : Expr) (piece : WherePiece) : Prop :=
  List.Forall₂ (LooksFor ctx final) (predicate.leavesUnder true 0) (chainTests piece.chain)

theorem pieceLooksFor_of_wherePiece {predicate : Expr} {piece : WherePiece}
    (h : (wherePiece ctx predicate).runOn s = (.ok piece, t)) :
    PieceLooksFor ctx t predicate piece := by
  obtain ⟨chain, u, hchain, rfl, rfl⟩ := wherePiece_ok h
  have hlooks : List.Forall₂ (LooksFor ctx u) (predicate.leavesUnder true 0) (chainTests chain) :=
    looksFor_of_chainOf hchain
  rw [← chainTests_closeIf] at hlooks
  exact hlooks.imp fun _ _ h => h.of_grows
    ⟨List.prefix_rfl, List.prefix_rfl, List.prefix_rfl⟩

theorem pieceLooksFor_of_piecesOf {predicates : List Expr} {pieces : List WherePiece}
    (h : (piecesOf (wherePiece ctx) predicates).runOn s = (.ok pieces, t)) :
    List.Forall₂ (PieceLooksFor ctx t) predicates pieces := by
  induction predicates generalizing s pieces with
  | nil =>
      cases h
      exact .nil
  | cons predicate predicates ih =>
      obtain ⟨piece, u, hpiece, h⟩ := Build.runOn_bind_eq_ok.1 h
      obtain ⟨rest, v, hrest, h⟩ := Build.runOn_bind_eq_ok.1 h
      cases h
      have hgrows : u.Grows t := (Build.Keeps.piecesOf Build.Keeps.wherePiece _).of_eq hrest
      exact .cons ((pieceLooksFor_of_wherePiece hpiece).imp fun _ _ h => h.of_grows hgrows)
        (ih hrest)

/-- A call that looks for a text in a stored field. -/
def IsLook (ctx : Context) (e : Expr) : Prop :=
  ∃ (method : Method) (ref : FieldRef) (text : String),
    e = .call method (.field ref) [.literal (.text text)] ∧
    (method = .contains ∨ method = .startsWith ∨ method = .endsWith) ∧
    ∃ owner field, ctx.stored ref = .ok (owner, field)

theorem succeedsOn_leafTest_of_isLook {e : Expr} (h : IsLook ctx e) (negated : Bool) :
    Build.SucceedsOn (fun _ => True) (leafTest ctx negated e) := by
  obtain ⟨method, ref, text, rfl, hmethod, owner, field, hstored⟩ := h
  have hcolumn : Build.SucceedsOn (fun _ => True) (column ctx ref) := fun s _ =>
    ⟨_, _, runOn_column_of_stored hstored s, trivial⟩
  have htest (pattern : String) :
      Build.SucceedsOn (fun _ => True) (patternTest ctx negated ref pattern) :=
    hcolumn.bind fun _ => .bind (fun s _ => ⟨_, _, runOn_bindParam _ _ s, trivial⟩)
      fun _ => .pure _
  rcases hmethod with rfl | rfl | rfl <;> exact htest _

theorem exists_wherePiece_of_isLook {e : Expr} (h : ∀ leaf ∈ e.leaves, IsLook ctx leaf)
    (s : Scope) : ∃ piece t, (wherePiece ctx e).runOn s = (.ok piece, t) := by
  have hchain := Build.SucceedsOn.chainOf
    (fun leaf hmem => succeedsOn_leafTest_of_isLook (h leaf hmem)) .and false
  obtain ⟨chain, u, hrun, -⟩ := hchain s trivial
  exact ⟨_, _, Build.runOn_bind_eq_ok.2 ⟨chain, u, hrun, rfl⟩⟩

/-- In every statement that compiles, and in every piece that is made of a predicate, the calls that
look for texts do so by their patterns, negated or not. If a predicate has no other leaves, its
piece is made, on whatever scope. -/
theorem like_finds_texts :
    (∀ (registry : Registry) (root : String) (clauses : Clauses) (query : SqlQuery),
      compile registry root clauses = .ok query →
      ∃ ctx statement final, Context.of registry root = .ok ctx ∧
        (statementOf ctx clauses).runOn ctx.scope = (.ok statement, final) ∧
        query = queryOf statement final.params ∧
        List.Forall₂ (PieceLooksFor ctx final) (predicatesOf clauses) statement.wherePieces) ∧
    (∀ (ctx : Context) (predicate : Expr) (s t : Scope) (piece : WherePiece),
      (wherePiece ctx predicate).runOn s = (.ok piece, t) →
      PieceLooksFor ctx t predicate piece) ∧
    ∀ (ctx : Context) (predicate : Expr), (∀ leaf ∈ predicate.leaves, IsLook ctx leaf) →
      ∀ s, ∃ piece t, (wherePiece ctx predicate).runOn s = (.ok piece, t) := by
  refine ⟨fun registry root clauses query h => ?_, fun _ _ _ _ _ => pieceLooksFor_of_wherePiece,
    fun _ _ => exists_wherePiece_of_isLook⟩
  obtain ⟨ctx, hctx, h⟩ := compile_ok h
  obtain ⟨statement, final, hrun, rfl⟩ := compileOn_ok h
  obtain ⟨u, v, -, hwheres, hafter⟩ := (statementRun_of_ok hrun).wheres
  refine ⟨ctx, statement, final, hctx, hrun, rfl, ?_⟩
  exact (pieceLooksFor_of_piecesOf hwheres).imp fun _ _ hpiece =>
    hpiece.imp fun _ _ hlooks => hlooks.of_grows hafter

/-- The users whose name has a text in it. -/
def sampleLook (text : String) : Expr :=
  .call .contains (.field ⟨none, "Name"⟩) [.literal (.text text)]

/-- The piece for the users whose name does not have a text in it. -/
theorem pattern_of_sampleLook {text : String} {final : Scope} {piece : WherePiece}
    (hplain : Text.Plain text.toList) (h : PieceLooksFor ctx final (.not (sampleLook text)) piece) :
    ∃ column name pattern, chainTests piece.chain = [.like true column name] ∧
      final.params.get? name = some (.text pattern) ∧
      ∀ subject : String,
        Text.Matches pattern.toList subject.toList ↔ text.toList <:+: subject.toList := by
  have hall : List.Forall₂ (LooksFor ctx final) [(1, sampleLook text)] (chainTests piece.chain) := h
  obtain ⟨test, rest, hlooks, hnone, htests⟩ := List.forall₂_cons_left_iff.1 hall
  obtain rfl : rest = [] := List.forall₂_nil_left_iff.1 hnone
  obtain ⟨column, name, pattern, -, rfl, -, hbound, hfinds⟩ := hlooks _ _ _ rfl hplain
  exact ⟨column, name, pattern, htests, hbound, hfinds⟩

theorem like_finds_texts_sample :
    (∃ query name pattern,
      compile sampleUsers "User" (.ofList [.of .filter (.not (sampleLook "nn"))]) = .ok query ∧
      query.params.get? name = some (.text pattern) ∧
      ∀ subject : String,
        Text.Matches pattern.toList subject.toList ↔ "nn".toList <:+: subject.toList) ∧
    ∃ piece t column name,
      (wherePiece ⟨sampleUsers, sampleUser⟩ (.not (sampleLook "nn"))).runOn (.ofTable "users") =
        (.ok piece, t) ∧
      chainTests piece.chain = [.like true column name] := by
  obtain ⟨hcompiled, hpiece, hmade⟩ := like_finds_texts
  have hplain : Text.Plain "nn".toList := by decide
  constructor
  · have hok : (compile sampleUsers "User"
        (.ofList [.of .filter (.not (sampleLook "nn"))])).isOk = true := by
      decide +kernel
    obtain ⟨query, hquery⟩ := except_exists_of_isOk hok
    obtain ⟨ctx, statement, final, -, -, rfl, hpieces⟩ := hcompiled _ _ _ _ hquery
    obtain ⟨piece, hmem, hlooks⟩ := forall₂_exists_right hpieces _ List.mem_cons_self
    obtain ⟨-, name, pattern, -, hbound, hfinds⟩ := pattern_of_sampleLook hplain hlooks
    exact ⟨_, name, pattern, hquery, hbound, hfinds⟩
  · have hlook : IsLook ⟨sampleUsers, sampleUser⟩ (sampleLook "nn") :=
      ⟨_, _, _, rfl, .inl rfl, sampleUser, ⟨"Name", "name", .text, false, false, none⟩, rfl⟩
    obtain ⟨piece, t, hrun⟩ := hmade ⟨sampleUsers, sampleUser⟩ (.not (sampleLook "nn"))
      (by simpa [Expr.leaves, sampleLook] using hlook) (.ofTable "users")
    obtain ⟨column, name, -, htests, -, -⟩ :=
      pattern_of_sampleLook hplain (hpiece _ _ _ _ _ hrun)
    exact ⟨piece, t, column, name, hrun, htests⟩

/-- The users for whom it is not so that the name has an `a` and the key is one. -/
def sampleNegatedGroup : Expr :=
  .not (.and (sampleLook "a") (.compare .eq (.field ⟨none, "Id"⟩) (.literal (.int32 1))))

/-- In a negated conjunction, a call stands under one negation, but its test is no NOT LIKE. -/
theorem like_in_negated_group :
    (sampleNegatedGroup.leavesUnder false 0).head? = some (1, sampleLook "a") ∧
      (compile sampleUsers "User" (.ofList [.of .filter sampleNegatedGroup])).toOption.map
          (fun query => (query.sql, query.params.entries)) =
        some ("SELECT a.id, a.name, a.age FROM users a " ++
            "WHERE (NOT ((a.name LIKE @_name_0_) AND (a.id = @_id_0_)))",
          [("@_name_0_", .text "%a%"), ("@_id_0_", .int32 1)]) :=
  ⟨rfl, by decide +kernel⟩

end Sql

end EntityQuery
