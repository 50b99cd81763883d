import EntityQuery.Proofs.Sql.AliasToken
import EntityQuery.Proofs.Sql.Semantics

/-!
# Predicates keep their meaning

The condition that is made of a predicate has the truth value of the predicate. For a leaf this is
a matter of its kind. For a tree it needs that the flat chain groups as the tree does, which is so
if no conjunction has an operand whose chain has an OR.
-/
namespace EntityQuery.Sql

variable {ctx : Context} {D : Dialect} {binding : Binding} {cells : Cells} {s t : Scope}

/-- The column of a field leads to the value that the field holds. -/
theorem fieldValue?_of_column {ref : FieldRef} {c : Column} {field : Field}
    (h : (column ctx ref).runOn s = (.ok (c, field), t)) (hb : binding.Agrees cells t) :
    ctx.fieldValue? cells ref = some (binding.columns c) := by
  obtain ⟨owner, hstored, rfl, rfl⟩ := stored_of_runOn_column h
  obtain ⟨howner, hfield, _, _⟩ := Context.stored_eq_ok_iff.1 hstored
  have hfield? : owner.field? ref.name = some field := Schema.field_eq_ok_iff.1 hfield
  have halias : (s.using ctx owner).aliases.get? owner.table =
      some (Aliases.token (s.aliases.tables.idxOf owner.table)) := by
    have hmem := s.aliases.mem_including owner.table
    have hidx := s.aliases.idxOf_including owner.table
    exact (Aliases.get?_of_mem hmem).trans (by rw [hidx])
  have hvalue := hb.columns owner.table _ halias field.column
  rw [Context.fieldValue?, howner]
  simp [hfield?, Scope.columnIn, hvalue]

/-- A parameter that has just been bound holds its value. -/
theorem parameter_of_bindParam {field name : String} {value : Value}
    (h : (bindParam field value).runOn s = (.ok name, t)) (hb : binding.Agrees cells t) :
    binding.parameters name = value := by
  rw [runOn_bindParam] at h
  cases h
  exact hb.parameters _ _ (s.params.get?_bind field value)

/-- The truth of the comparison of a field with a literal. -/
theorem decideTest_compareValue {negated : Bool} {ref : FieldRef} {op : CompareOp} {x : Value}
    {test : Test} (h : (compareValue ctx negated ref op x).runOn s = (.ok test, t))
    (hb : binding.Agrees cells t) :
    ∃ v u, ctx.fieldValue? cells ref = some v ∧
      (if x.isNull then Expr.nullMeaning? v op else some (D.compare op v x.bound)) = some u ∧
      decideTest D binding test = u.negateIf negated := by
  obtain ⟨⟨lhs, field⟩, u, hcolumn, h⟩ := Build.runOn_bind_eq_ok.1 h
  dsimp only at h
  by_cases hnull : x.isNull = true
  · rw [if_pos hnull] at h
    have hvalue (ht : t = u) : ctx.fieldValue? cells ref = some (binding.columns lhs) :=
      fieldValue?_of_column hcolumn (ht ▸ hb)
    cases op with
    | eq =>
        cases h
        exact ⟨_, _, hvalue rfl, if_pos hnull, by simp⟩
    | ne =>
        cases h
        exact ⟨_, _, hvalue rfl, if_pos hnull, by simp [Truth.ofBool_not]⟩
    | lt | le | gt | ge => cases h
  · rw [if_neg hnull] at h
    obtain ⟨name, w, hbind, h⟩ := Build.runOn_bind_eq_ok.1 h
    cases h
    have hgrows : u.Grows t := ((Build.Keeps.bindParam _ _).of_eq hbind).grows
    have hparam := parameter_of_bindParam hbind hb
    exact ⟨_, _, fieldValue?_of_column hcolumn (hb.of_grows hgrows), if_neg hnull,
      by simp [Binding.operand, hparam]⟩

theorem decideTest_compareFields {negated : Bool} {op : CompareOp} {left right : FieldRef}
    {test : Test} (h : (compareFields ctx negated op left right).runOn s = (.ok test, t))
    (hb : binding.Agrees cells t) :
    ∃ v w, ctx.fieldValue? cells left = some v ∧ ctx.fieldValue? cells right = some w ∧
      decideTest D binding test = (D.compare op v w).negateIf negated := by
  obtain ⟨⟨lhs, fl⟩, u, hleft, h⟩ := Build.runOn_bind_eq_ok.1 h
  obtain ⟨⟨rhs, fr⟩, w, hright, h⟩ := Build.runOn_bind_eq_ok.1 h
  cases h
  have hgrows : u.Grows t := ((Build.Keeps.column ctx right).of_eq hright).grows
  exact ⟨_, _, fieldValue?_of_column hleft (hb.of_grows hgrows),
    fieldValue?_of_column hright hb, by simp [Binding.operand]⟩

/-- A bit equals zero if and only if it does not equal one; null does neither. -/
theorem compare_bit (hD : D.Lawful) {v : Value} (hv : v.IsBit) (negated : Bool) :
    D.compare .eq v (.int32 (if negated then 0 else 1)) =
      (D.compare .eq v (.int32 1)).negateIf negated := by
  have hbit (a : Bool) (h : v.toInt? = some (if a then 1 else 0)) :
      D.compare .eq v (.int32 0) = (D.compare .eq v (.int32 1)).not := by
    have hzero := hD.eq_bit v a false h
    have hone := hD.eq_bit v a true h
    simp only [Bool.false_eq_true, if_false, if_true] at hzero hone
    rw [hzero, hone]
    cases a <;> rfl
  cases negated with
  | false => rfl
  | true =>
      rcases hv with rfl | h | h
      · simp [hD.eq_null, Truth.not]
      · exact hbit false h
      · exact hbit true h

theorem decideTest_truthTest (hD : D.Lawful) {negated : Bool} {ref : FieldRef} {test : Test}
    (h : (truthTest ctx negated ref).runOn s = (.ok test, t)) (hb : binding.Agrees cells t)
    (hbit : ∀ v, ctx.fieldValue? cells ref = some v → v.IsBit) :
    ∃ v, ctx.fieldValue? cells ref = some v ∧
      decideTest D binding test = (D.compare .eq v (.int32 1)).negateIf negated := by
  obtain ⟨⟨lhs, field⟩, u, hcolumn, h⟩ := Build.runOn_bind_eq_ok.1 h
  dsimp only at h
  by_cases htype : field.type ≠ .bool
  · rw [if_pos htype] at h
    obtain ⟨_, _, hthrow, _⟩ := Build.runOn_bind_eq_ok.1 h
    cases hthrow
  · rw [if_neg htype] at h
    obtain ⟨name, w, hbind, h⟩ := Build.runOn_bind_eq_ok.1 h
    cases h
    have hgrows : u.Grows t := ((Build.Keeps.bindParam _ _).of_eq hbind).grows
    have hvalue := fieldValue?_of_column hcolumn (hb.of_grows hgrows)
    have hparam := parameter_of_bindParam hbind hb
    refine ⟨_, hvalue, ?_⟩
    rw [← compare_bit hD (hbit _ hvalue) negated]
    simp [decideTest, Binding.operand, hparam]

/-- A test of a field against one bound text, such as a pattern or a list of members. -/
theorem bound_text_ok {ref : FieldRef} {text name : String} {c : Column} {field : Field} {u : Scope}
    (hcolumn : (column ctx ref).runOn s = (.ok (c, field), u))
    (hbind : (bindParam field.column (.text text)).runOn u = (.ok name, t))
    (hb : binding.Agrees cells t) :
    ctx.fieldValue? cells ref = some (binding.columns c) ∧ binding.parameters name = .text text :=
  have hgrows : u.Grows t := ((Build.Keeps.bindParam _ _).of_eq hbind).grows
  ⟨fieldValue?_of_column hcolumn (hb.of_grows hgrows), parameter_of_bindParam hbind hb⟩

theorem decideTest_membership {negated : Bool} {members : List Value} {ref : FieldRef}
    {test : Test} (h : (membership ctx negated members ref).runOn s = (.ok test, t))
    (hb : binding.Agrees cells t) :
    ∃ v items, ctx.fieldValue? cells ref = some v ∧ (memberTexts members).toOption = some items ∧
      decideTest D binding test =
        (D.inList v (.text (",".intercalate items))).negateIf negated := by
  obtain ⟨⟨lhs, field⟩, u, hcolumn, h⟩ := Build.runOn_bind_eq_ok.1 h
  obtain ⟨items, u', hitems, h⟩ := Build.runOn_bind_eq_ok.1 h
  rw [Build.runOn_ofExcept] at hitems
  obtain ⟨hok, rfl⟩ := Prod.mk.inj hitems
  obtain ⟨name, w, hbind, h⟩ := Build.runOn_bind_eq_ok.1 h
  obtain ⟨rfl, rfl⟩ : Test.inList negated lhs name = test ∧ w = t := by simpa using h
  obtain ⟨hvalue, hparam⟩ := bound_text_ok hcolumn hbind hb
  exact ⟨_, items, hvalue, by rw [hok]; rfl, by simp [decideTest, hparam]⟩

theorem decideTest_patternTest {negated : Bool} {ref : FieldRef} {pattern : String} {test : Test}
    (h : (patternTest ctx negated ref pattern).runOn s = (.ok test, t))
    (hb : binding.Agrees cells t) :
    ∃ v, ctx.fieldValue? cells ref = some v ∧
      decideTest D binding test = (D.like v (.text pattern)).negateIf negated := by
  obtain ⟨⟨lhs, field⟩, u, hcolumn, h⟩ := Build.runOn_bind_eq_ok.1 h
  obtain ⟨name, w, hbind, h⟩ := Build.runOn_bind_eq_ok.1 h
  cases h
  obtain ⟨hvalue, hparam⟩ := bound_text_ok hcolumn hbind hb
  exact ⟨_, hvalue, by simp [decideTest, hparam]⟩

theorem decideTest_missingTest {negated : Bool} {ref : FieldRef} {test : Test}
    (h : (missingTest ctx negated ref).runOn s = (.ok test, t)) (hb : binding.Agrees cells t) :
    ∃ v, ctx.fieldValue? cells ref = some v ∧
      decideTest D binding test = (Truth.ofBool v.isNull).negateIf negated := by
  obtain ⟨⟨lhs, field⟩, u, hcolumn, h⟩ := Build.runOn_bind_eq_ok.1 h
  cases h
  exact ⟨_, fieldValue?_of_column hcolumn hb, by simp⟩

/-- Whichever way round a comparison with a literal is written, null is tested alike. -/
theorem nullMeaning?_swapped (v : Value) (op : CompareOp) :
    Expr.nullMeaning? v op.swapped = Expr.nullMeaning? v op := by
  cases op <;> rfl

theorem decideTest_callTest {negated : Bool} {method : Method} {target : Expr}
    {args : List Expr} {test : Test}
    (h : (callTest ctx negated method target args).runOn s = (.ok test, t))
    (hb : binding.Agrees cells t) :
    ∃ v, Expr.callMeaning? D (ctx.fieldValue? cells) method target args = some v ∧
      decideTest D binding test = v.negateIf negated := by
  unfold callTest at h
  split at h
  -- the two names of membership
  iterate 2
    · obtain ⟨v, items, hv, hitems, htest⟩ := decideTest_membership (D := D) h hb
      exact ⟨_, by simp [Expr.callMeaning?, hv, hitems], htest⟩
  -- the three kinds of patterns
  iterate 3
    · obtain ⟨v, hv, htest⟩ := decideTest_patternTest (D := D) h hb
      exact ⟨_, by simp [Expr.callMeaning?, hv], htest⟩
  -- the two names of the test for null, each on a target or an argument
  iterate 4
    · obtain ⟨v, hv, htest⟩ := decideTest_missingTest (D := D) h hb
      exact ⟨_, by simp [Expr.callMeaning?, hv], htest⟩
  · cases h

/-- The test of a leaf has the truth of the leaf, negated or not. -/
theorem decideTest_leafTest (hD : D.Lawful) {negated : Bool} {e : Expr} {test : Test}
    (h : (leafTest ctx negated e).runOn s = (.ok test, t)) (hb : binding.Agrees cells t)
    (hbit : ∀ ref, e = .field ref → ∀ v, ctx.fieldValue? cells ref = some v → v.IsBit) :
    ∃ v, e.leafMeaning? D (ctx.fieldValue? cells) = some v ∧
      decideTest D binding test = v.negateIf negated := by
  unfold leafTest at h
  split at h
  · unfold compareExprs at h
    split at h
    · obtain ⟨v, u, hv, hu, htest⟩ := decideTest_compareValue (D := D) h hb
      exact ⟨u, by simpa [Expr.leafMeaning?, hv] using hu, htest⟩
    · obtain ⟨v, u, hv, hu, htest⟩ := decideTest_compareValue (D := D) h hb
      rw [nullMeaning?_swapped, hD.swapped] at hu
      exact ⟨u, by simpa [Expr.leafMeaning?, hv] using hu, htest⟩
    · obtain ⟨v, w, hv, hw, htest⟩ := decideTest_compareFields (D := D) h hb
      exact ⟨_, by simp [Expr.leafMeaning?, hv, hw], htest⟩
    · cases h
    · cases h
  · obtain ⟨v, hv, htest⟩ := decideTest_truthTest hD h hb (hbit _ rfl)
    exact ⟨_, by simp [Expr.leafMeaning?, hv], htest⟩
  · next b =>
      cases h
      refine ⟨.ofBool b, rfl, ?_⟩
      cases b <;> cases negated <;> rfl
  · exact decideTest_callTest h hb
  · cases h

@[simp] theorem chainTruth_joinChains (ι : Test → Truth) (connective : Connective)
    (negated : Bool) (left right : Chain) :
    chainTruth ι (joinChains connective negated left right) =
      (chainTruth ι (left ++ right)).negateIf negated := by
  cases negated with
  | false => rfl
  | true => simp [joinChains, Condition.truth]

/-- The test of a leaf has the truth of the leaf, negated or not, wherever what has been given out
is known. -/
def LeafMeans (ctx : Context) (D : Dialect) (binding : Binding) (value : FieldRef → Option Value)
    (known : Scope → Prop) (leaf : Expr) : Prop :=
  ∀ ⦃negated s t test⦄, (leafTest ctx negated leaf).runOn s = (.ok test, t) → known t →
    ∃ v, leaf.leafMeaning? D value = some v ∧ decideTest D binding test = v.negateIf negated

/-- If the tests of its leaves have the truth of the leaves, the chain of a predicate has the truth
of the predicate, negated or not. By induction on the tree; where the chains of two operands meet,
the connective between them is that of the tree. -/
theorem chainTruth_of_leaves {value : FieldRef → Option Value} {known : Scope → Prop}
    (hknown : ∀ ⦃s t⦄, s.Grows t → known t → known s) {connective : Connective} {negated : Bool}
    {e : Expr} {chain : Chain} (h : (chainOf ctx connective negated e).runOn s = (.ok chain, t))
    (hclosed : e.AndClosed) (ht : known t)
    (hleaf : ∀ leaf ∈ e.leaves, LeafMeans ctx D binding value known leaf) :
    ∃ v, e.meaning? D value = some v ∧
      chainTruth (decideTest D binding) chain = v.negateIf negated := by
  induction e using Expr.connectiveInduction generalizing connective negated s t chain with
  | and lhs rhs ihl ihr =>
      obtain ⟨hl, hr, hlclosed, hrclosed⟩ := hclosed
      obtain ⟨left, right, u, hleft, hright, rfl⟩ := chainOf_operands_ok h
      have hu : known u := hknown (extends_of_chainOf hright).grows ht
      obtain ⟨v, hv, hvtruth⟩ := ihl hleft hlclosed hu fun leaf hmem =>
        hleaf leaf (List.mem_append_left _ hmem)
      obtain ⟨w, hw, hwtruth⟩ := ihr hright hrclosed ht fun leaf hmem =>
        hleaf leaf (List.mem_append_right _ hmem)
      have hlshape := chainOf_shape hleft
      have hrshape := chainOf_shape hright
      rw [hl] at hlshape
      rw [hr] at hrshape
      obtain ⟨condition, rest, rfl⟩ := hrshape.starts
      refine ⟨v.and w, by simp [Expr.meaning?, hv, hw], ?_⟩
      rw [chainTruth_joinChains,
        chainTruth_append_and hlshape.ne_nil hlshape.hasOr_eq hrshape.hasOr_eq, hvtruth, hwtruth]
      rfl
  | or lhs rhs ihl ihr =>
      obtain ⟨hlclosed, hrclosed⟩ := hclosed
      obtain ⟨left, right, u, hleft, hright, rfl⟩ := chainOf_operands_ok h
      have hu : known u := hknown (extends_of_chainOf hright).grows ht
      obtain ⟨v, hv, hvtruth⟩ := ihl hleft hlclosed hu fun leaf hmem =>
        hleaf leaf (List.mem_append_left _ hmem)
      obtain ⟨w, hw, hwtruth⟩ := ihr hright hrclosed ht fun leaf hmem =>
        hleaf leaf (List.mem_append_right _ hmem)
      have hlshape := chainOf_shape hleft
      have hrshape := chainOf_shape hright
      obtain ⟨condition, rest, rfl⟩ := hrshape.starts
      refine ⟨v.or w, by simp [Expr.meaning?, hv, hw], ?_⟩
      rw [chainTruth_joinChains, chainTruth_append_or hlshape.ne_nil, hvtruth, hwtruth]
      rfl
  | not e ih =>
      have hinner : (chainOf ctx connective (!negated) e).runOn s = (.ok chain, t) := h
      obtain ⟨v, hv, hvtruth⟩ := ih hinner hclosed ht hleaf
      exact ⟨v.not, by simp [Expr.meaning?, hv], by simpa using hvtruth⟩
  | leaf e hisLeaf =>
      obtain ⟨test, htest, rfl⟩ := chainOf_leaf_ok hisLeaf h
      obtain ⟨v, hv, hvtruth⟩ := hleaf e (by simp [Expr.leaves_of_isLeaf hisLeaf]) htest ht
      refine ⟨v, by rw [Expr.meaning?_of_isLeaf hisLeaf, hv], ?_⟩
      simpa [Condition.truth] using hvtruth

/-- A chain has the truth of its predicate for every lawful database, if fields that stand alone
hold bits. -/
theorem chainTruth_chainOf (hD : D.Lawful) {connective : Connective} {negated : Bool} {e : Expr}
    {chain : Chain} (h : (chainOf ctx connective negated e).runOn s = (.ok chain, t))
    (hclosed : e.AndClosed) (hb : binding.Agrees cells t)
    (hbit : ∀ ref ∈ e.bareFields, ∀ v, ctx.fieldValue? cells ref = some v → v.IsBit) :
    ∃ v, e.meaning? D (ctx.fieldValue? cells) = some v ∧
      chainTruth (decideTest D binding) chain = v.negateIf negated := by
  refine chainTruth_of_leaves (fun _ _ => Binding.Agrees.of_grows) h hclosed hb
    fun leaf hmem negated s t test htest ht => ?_
  refine decideTest_leafTest hD htest ht fun ref hleaf => hbit ref ?_
  exact List.mem_filterMap.2 ⟨leaf, hmem, by rw [hleaf]⟩

/-- In the binding of a scope, aliases lead to their tables and parameters to their values. -/
theorem Binding.agrees_of (cells : Cells) (s : Scope) :
    (Binding.of s.aliases.sources s.params cells).Agrees cells s where
  columns table qualifier hget name := by
    have htable : s.aliases.sources.lookup qualifier = some table := Aliases.lookup_sources hget
    simp only [Binding.of, htable]
  parameters name value hget := by
    simp only [Binding.of, hget, Option.getD_some]

/-- The first piece of the WHERE part, read by precedence, has the truth value of its predicate,
whatever the columns hold, if the flat chain groups as the predicate does. -/
theorem wherePiece_hasTruth_meaning {ctx : Context} {e : Expr} {piece : WherePiece} {scope : Scope}
    (h : (wherePiece ctx e).runOn ctx.scope = (.ok piece, scope)) (hclosed : e.AndClosed)
    {D : Dialect} (hD : D.Lawful) {cells : Cells}
    (hbit : ∀ ref ∈ e.bareFields, ∀ v, ctx.fieldValue? cells ref = some v → v.IsBit) :
    ∃ v, e.meaning? D (ctx.fieldValue? cells) = some v ∧
      piece.text = "WHERE " ++ spell (chainTokens piece.chain) ∧
      HasTruth (decideTest D (.of scope.aliases.sources scope.params cells))
        (chainTokens piece.chain) v := by
  obtain ⟨chain, u, hchain, rfl, rfl⟩ := wherePiece_ok h
  have hflags : ctx.scope.SameFlags u := (extends_of_chainOf hchain).flags
  have hopens : (!u.whereOpen) = true := by rw [hflags.whereOpen]; rfl
  have hagrees : (Binding.of u.aliases.sources u.params cells).Agrees cells u :=
    Binding.agrees_of cells u
  obtain ⟨v, hv, htruth⟩ := chainTruth_chainOf hD hchain hclosed hagrees hbit
  have hfilled := (chainOf_shape hchain).chainFilled.closeIf (u.conjoined || u.whereOpen)
  refine ⟨v, hv, ?_, ?_⟩
  · rw [WherePiece.text, hopens, spell_chainTokens]
    rfl
  · have hread : HasTruth (decideTest D (.of u.aliases.sources u.params cells)) _ _ :=
      hfilled.hasTruth
    rwa [chainTruth_closeIf, htruth] at hread

/-- The sample schema of an order. -/
def sampleOrder : Schema :=
  ⟨"Order", "orders",
    [⟨"Id", "id", .int32, true, false, none⟩,
      ⟨"Customer", "customer_id", .int32, false, false, none⟩,
      ⟨"Paid", "paid", .bool, false, false, none⟩], []⟩

/-- The sample context of statements on orders. -/
def sampleContext : Context := ⟨.ofList [sampleOrder], sampleOrder⟩

/-- Paid, or neither paid nor of a customer above four. -/
def samplePredicate : Expr :=
  .or (.field ⟨none, "Paid"⟩)
    (.not (.or (.field ⟨none, "Paid"⟩)
      (.compare .lt (.literal (.int32 4)) (.field ⟨none, "Customer"⟩))))

/-- An order that may be paid, of customer number three. -/
def sampleCells : Cells := fun _ column => if column = "customer_id" then .int32 3 else .null

theorem wherePiece_hasTruth_meaning_sample :
    ∃ piece scope, (wherePiece sampleContext samplePredicate).runOn sampleContext.scope =
        (.ok piece, scope) ∧
      HasTruth (decideTest .ofIntegers (.of scope.aliases.sources scope.params sampleCells))
        (chainTokens piece.chain) .unknown := by
  have hbit : ∀ ref ∈ samplePredicate.bareFields, ∀ v,
      sampleContext.fieldValue? sampleCells ref = some v → v.IsBit := by
    intro ref hmem v hv
    obtain rfl : ref = ⟨none, "Paid"⟩ := by
      simpa [samplePredicate, Expr.bareFields, Expr.leaves] using hmem
    exact .inl (Option.some.inj hv).symm
  obtain ⟨v, hv, -, hread⟩ := wherePiece_hasTruth_meaning rfl
    (show samplePredicate.AndClosed from ⟨trivial, trivial, trivial⟩)
    Dialect.ofIntegers_lawful hbit
  cases hv
  exact ⟨_, _, rfl, hread⟩

end EntityQuery.Sql
