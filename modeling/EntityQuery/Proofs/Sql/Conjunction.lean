import EntityQuery.Proofs.Results
import EntityQuery.Proofs.Sql.Meaning
import EntityQuery.Proofs.Sql.Statement

/-!
# Predicates are conjoined as wholes

Several predicates over one statement stand one after the other in the WHERE part, joined by AND. As
soon as there are several, a chain with an OR is closed, so that no OR of one predicate reaches into
another. With a single predicate nothing needs to be closed.
-/
namespace EntityQuery.Sql

variable {ctx : Context}

/-- The chain was made of the predicate, before the aliases and parameters of `final` were all given
out. -/
def ChainFrom (ctx : Context) (final : Scope) (predicate : Expr) (chain : Chain) : Prop :=
  ∃ s t, (chainOf ctx .and false predicate).runOn s = (.ok chain, t) ∧ t.Grows final

theorem ChainFrom.shape {final : Scope} {predicate : Expr} {chain : Chain}
    (h : ChainFrom ctx final predicate chain) :
    ChainShape .and (predicate.hasOr false) chain := by
  obtain ⟨s, t, hrun, -⟩ := h
  exact chainOf_shape hrun

/-- For a lawful database the chain has the truth of its predicate. -/
theorem ChainFrom.hasTruth {final : Scope} {predicate : Expr} {chain : Chain}
    (h : ChainFrom ctx final predicate chain) (hclosed : predicate.AndClosed) {D : Dialect}
    (hD : D.Lawful) {binding : Binding} {cells : Cells} (hb : binding.Agrees cells final)
    (hbit : ∀ ref ∈ predicate.bareFields, ∀ v, ctx.fieldValue? cells ref = some v → v.IsBit) :
    ∃ v, predicate.meaning? D (ctx.fieldValue? cells) = some v ∧
      HasTruth (decideTest D binding) (chainTokens chain) v := by
  obtain ⟨s, t, hrun, hgrows⟩ := h
  obtain ⟨v, hv, htruth⟩ := chainTruth_chainOf hD hrun hclosed (hb.of_grows hgrows) hbit
  have hread : HasTruth (decideTest D binding) _ _ := (chainOf_shape hrun).chainFilled.hasTruth
  rw [htruth] at hread
  exact ⟨v, hv, hread⟩

theorem ChainFrom.of_grows {final later : Scope} {predicate : Expr} {chain : Chain}
    (h : ChainFrom ctx final predicate chain) (hgrows : final.Grows later) :
    ChainFrom ctx later predicate chain := by
  obtain ⟨s, t, hrun, ht⟩ := h
  exact ⟨s, t, hrun, trans_of Scope.Grows ht hgrows⟩

/-- The pieces of the WHERE part for several chains. -/
def conjoinedPieces (conjoined whereOpen : Bool) : List Chain → List WherePiece
  | [] => []
  | chain :: chains =>
      ⟨!whereOpen, closeIf (conjoined || whereOpen) chain⟩ :: conjoinedPieces conjoined true chains

/-- The whole chain of the WHERE part. -/
def wholeChain (pieces : List WherePiece) : Chain := pieces.flatMap (·.chain)

theorem wholeChain_cons (conjoined whereOpen : Bool) (chain : Chain) (chains : List Chain) :
    wholeChain (conjoinedPieces conjoined whereOpen (chain :: chains)) =
      closeIf (conjoined || whereOpen) chain ++
        wholeChain (conjoinedPieces conjoined true chains) := by
  simp [wholeChain, conjoinedPieces]

/-- Calls for pieces on one scope, in turn. Between them other steps may give out more, as long as
they leave the WHERE part alone. -/
inductive WhereCalls (ctx : Context) : Scope → List Expr → List WherePiece → Scope → Prop
  | done (s : Scope) : WhereCalls ctx s [] [] s
  | call {s t u : Scope} {predicate : Expr} {predicates : List Expr} {piece : WherePiece}
      {pieces : List WherePiece} :
      (wherePiece ctx predicate).runOn s = (.ok piece, t) →
        WhereCalls ctx t predicates pieces u →
          WhereCalls ctx s (predicate :: predicates) (piece :: pieces) u
  | other {s t u : Scope} {predicates : List Expr} {pieces : List WherePiece} :
      s.Grows t → t.conjoined = s.conjoined → t.whereOpen = s.whereOpen →
        WhereCalls ctx t predicates pieces u → WhereCalls ctx s predicates pieces u

namespace WhereCalls

/-- A call that fails is one of the other steps. -/
theorem failed {s t u : Scope} {predicate : Expr} {e : QueryError} {predicates : List Expr}
    {pieces : List WherePiece} (h : (wherePiece ctx predicate).runOn s = (.error e, t))
    (hlater : WhereCalls ctx t predicates pieces u) : WhereCalls ctx s predicates pieces u := by
  have hextends := (Build.Opens.wherePiece ctx predicate).extends_of_error h
  exact .other hextends.grows hextends.flags.conjoined hextends.flags.whereOpen hlater

/-- Predicates whose pieces are made in one go. -/
theorem of_piecesOf {predicates : List Expr} {s t : Scope} {pieces : List WherePiece}
    (h : (piecesOf (wherePiece ctx) predicates).runOn s = (.ok pieces, t)) :
    WhereCalls ctx s predicates pieces t := by
  induction predicates generalizing s pieces with
  | nil =>
      cases h
      exact .done _
  | cons predicate predicates ih =>
      obtain ⟨piece, u, hpiece, h⟩ := Build.runOn_bind_eq_ok.1 h
      obtain ⟨rest, v, hrest, h⟩ := Build.runOn_bind_eq_ok.1 h
      cases h
      exact .call hpiece (ih hrest)

variable {predicates : List Expr} {pieces : List WherePiece} {s t : Scope}

theorem grows (h : WhereCalls ctx s predicates pieces t) : s.Grows t := by
  induction h with
  | done s => exact refl_of Scope.Grows s
  | call hpiece _ ih =>
      exact trans_of Scope.Grows ((Build.Keeps.wherePiece _).of_eq hpiece) ih
  | other hgrows _ _ _ ih => exact trans_of Scope.Grows hgrows ih

/-- The pieces are those of the chains of the predicates. -/
theorem pieces_eq (h : WhereCalls ctx s predicates pieces t) :
    ∃ chains, List.Forall₂ (ChainFrom ctx t) predicates chains ∧
      pieces = conjoinedPieces s.conjoined s.whereOpen chains := by
  induction h with
  | done s => exact ⟨[], .nil, rfl⟩
  | @call s t u predicate predicates piece pieces hpiece hlater ih =>
      obtain ⟨chain, w, hchain, rfl, rfl⟩ := wherePiece_ok hpiece
      obtain ⟨chains, hchains, rfl⟩ := ih
      have hflags : s.SameFlags w := (extends_of_chainOf hchain).flags
      have hgrows : w.Grows u := ⟨hlater.grows.aliases, hlater.grows.params, hlater.grows.joined⟩
      refine ⟨chain :: chains, .cons ⟨s, w, hchain, hgrows⟩ hchains, ?_⟩
      rw [conjoinedPieces, ← hflags.conjoined, ← hflags.whereOpen]
  | other _ hconjoined hopen _ ih =>
      rwa [hconjoined, hopen] at ih

end WhereCalls

/-- Wherever pieces are closed, the whole chain is the closed chains one after the other. -/
theorem wholeChain_conjoinedPieces {conjoined whereOpen : Bool}
    (h : (conjoined || whereOpen) = true) (chains : List Chain) :
    wholeChain (conjoinedPieces conjoined whereOpen chains) =
      (chains.map (closeIf true)).flatten := by
  induction chains generalizing whereOpen with
  | nil => rfl
  | cons chain chains ih =>
      have hlater := ih (Bool.or_true conjoined)
      rw [conjoinedPieces, h]
      simpa [wholeChain] using hlater

/-- A chain next to others has no OR in the open. -/
theorem ChainShape.and_of_mem_closeIf {orInside : Bool} {chain : Chain}
    (h : ChainShape .and orInside chain) :
    ∀ sibling ∈ closeIf true chain, sibling.1 = .and := by
  have hor := hasOr_closeIf_true chain
  unfold closeIf at hor ⊢
  split at hor
  · next hclosed => simp [hclosed, grouped]
  · next hopen =>
      obtain ⟨condition, rest, rfl⟩ := h.starts
      rw [if_neg hopen, List.forall_mem_cons]
      exact ⟨rfl, hasOr_cons_eq_false.1 hor⟩

theorem ChainShape.closeIf_starts {orInside : Bool} {chain : Chain}
    (h : ChainShape .and orInside chain) (others : Bool) :
    ∃ condition rest, closeIf others chain = (.and, condition) :: rest := by
  unfold closeIf
  split
  · exact ⟨_, _, rfl⟩
  · exact h.starts

/-- Closed chains one after the other are true if and only if each of the chains is. -/
theorem chainTruth_closed_eq_true_iff {ι : Test → Truth} {chains : List Chain}
    (h : ∀ chain ∈ chains, ∃ orInside, ChainShape .and orInside chain) :
    chainTruth ι (chains.map (closeIf true)).flatten = .true ↔
      ∀ chain ∈ chains, chainTruth ι chain = .true := by
  have hand : ∀ chain ∈ chains, ∀ sibling ∈ closeIf true chain, sibling.1 = .and := by
    intro chain hmem
    obtain ⟨orInside, hshape⟩ := h chain hmem
    exact hshape.and_of_mem_closeIf
  have hands : ∀ sibling ∈ (chains.map (closeIf true)).flatten, sibling.1 = .and := by
    intro sibling hmem
    obtain ⟨closed, hclosed, hsibling⟩ := List.mem_flatten.1 hmem
    obtain ⟨chain, hchain, rfl⟩ := List.mem_map.1 hclosed
    exact hand chain hchain sibling hsibling
  have hone : ∀ chain ∈ chains, (chainTruth ι chain = .true ↔
      ∀ sibling ∈ closeIf true chain, sibling.2.truth ι = .true) := by
    intro chain hmem
    rw [← chainTruth_closeIf ι true chain, chainTruth_eq_true_iff (hand chain hmem)]
  rw [chainTruth_eq_true_iff hands]
  constructor
  · intro hall chain hmem
    refine (hone chain hmem).2 fun sibling hsibling => hall sibling ?_
    exact List.mem_flatten.2 ⟨_, List.mem_map_of_mem hmem, hsibling⟩
  · intro hall sibling hmem
    obtain ⟨closed, hclosed, hsibling⟩ := List.mem_flatten.1 hmem
    obtain ⟨chain, hchain, rfl⟩ := List.mem_map.1 hclosed
    exact (hone chain hchain).1 (hall chain hchain) sibling hsibling

/-- The text after the first piece goes on with AND. -/
theorem join_laterPieces {conjoined : Bool} {chains : List Chain}
    (h : ∀ chain ∈ chains, ∃ orInside, ChainShape .and orInside chain) :
    String.join ((conjoinedPieces conjoined true chains).map WherePiece.text) =
      spell (restTokens (wholeChain (conjoinedPieces conjoined true chains))) := by
  induction chains with
  | nil => rfl
  | cons chain chains ih =>
      obtain ⟨orInside, hshape⟩ := h chain (by simp)
      obtain ⟨condition, rest, hstarts⟩ := hshape.closeIf_starts (conjoined || true)
      have hlater := ih fun chain hmem => h chain (List.mem_cons_of_mem _ hmem)
      rw [wholeChain_cons, restTokens_append, spell_append, conjoinedPieces, List.map_cons,
        String.join_cons, hlater, WherePiece.text, hstarts, chainTokens_cons, spell_cons,
        spell_chainTokens]
      rfl

/-- The whole chain is true if and only if each of the chains is. -/
theorem chainTruth_wholeChain {ι : Test → Truth} {conjoined : Bool} {chains : List Chain}
    (hshape : ∀ chain ∈ chains, ∃ orInside, ChainShape .and orInside chain)
    (hclosed : conjoined = true ∨ chains.length ≤ 1) :
    chainTruth ι (wholeChain (conjoinedPieces conjoined false chains)) = .true ↔
      ∀ chain ∈ chains, chainTruth ι chain = .true := by
  rcases hclosed with rfl | hlength
  · rw [wholeChain_conjoinedPieces rfl, chainTruth_closed_eq_true_iff hshape]
  · match chains, hlength with
    | [], _ => simp [conjoinedPieces, wholeChain, chainTruth]
    | [chain], _ => simp [conjoinedPieces, wholeChain]

theorem chainFilled_wholeChain {conjoined whereOpen : Bool} {chains : List Chain}
    (hne : chains ≠ []) (hshape : ∀ chain ∈ chains, ∃ orInside, ChainShape .and orInside chain) :
    ChainFilled (wholeChain (conjoinedPieces conjoined whereOpen chains)) := by
  induction chains generalizing whereOpen with
  | nil => exact absurd rfl hne
  | cons chain chains ih =>
      obtain ⟨orInside, hfirst⟩ := hshape chain (by simp)
      have hfilled := hfirst.chainFilled.closeIf (conjoined || whereOpen)
      rw [wholeChain_cons]
      by_cases hlast : chains = []
      · subst hlast
        simpa [wholeChain, conjoinedPieces] using hfilled
      · have hlater : ChainFilled (wholeChain (conjoinedPieces conjoined true chains)) :=
          ih hlast fun chain hmem => hshape chain (List.mem_cons_of_mem _ hmem)
        exact hfilled.append hlater

/-- The text is the WHERE part of a whole chain that is true if and only if each of some chains is,
whatever truth the fragments have. Without chains there is no WHERE part. -/
structure Conjoins (text : String) (whole : Chain) (chains : List Chain) : Prop where
  text_of_nil : chains = [] → text = ""
  text_of_ne_nil : chains ≠ [] → text = "WHERE " ++ spell (chainTokens whole)
  hasTruth : chains ≠ [] → ∀ ι, ∃ v, HasTruth ι (chainTokens whole) v ∧
    (v = .true ↔ ∀ chain ∈ chains, HasTruth ι (chainTokens chain) .true)

/-- The pieces of chains conjoin them, if there is only one chain or a chain with an OR is
closed. -/
theorem conjoins_conjoinedPieces {conjoined : Bool} {chains : List Chain}
    (hshape : ∀ chain ∈ chains, ∃ orInside, ChainShape .and orInside chain)
    (hclosed : conjoined = true ∨ chains.length ≤ 1) :
    Conjoins (String.join ((conjoinedPieces conjoined false chains).map WherePiece.text))
      (wholeChain (conjoinedPieces conjoined false chains)) chains where
  text_of_nil h := by rw [h]; rfl
  text_of_ne_nil hne := by
    cases chains with
    | nil => exact absurd rfl hne
    | cons first later =>
        obtain ⟨orInside, hfirst⟩ := hshape first (by simp)
        have hlater := fun chain hmem => hshape chain (List.mem_cons_of_mem first hmem)
        have hfilled := hfirst.chainFilled.closeIf (conjoined || false)
        rw [wholeChain_cons, chainTokens_append hfilled.1, spell_append, conjoinedPieces,
          List.map_cons, String.join_cons, join_laterPieces hlater, WherePiece.text,
          spell_chainTokens]
        simp [String.append_assoc]
  hasTruth hne ι := by
    have hread : ∀ chain ∈ chains,
        (HasTruth ι (chainTokens chain) .true ↔ chainTruth ι chain = .true) := by
      intro chain hmem
      obtain ⟨orInside, hchain⟩ := hshape chain hmem
      rw [hchain.chainFilled.hasTruth.iff_eq, eq_comm]
    refine ⟨_, (chainFilled_wholeChain hne hshape).hasTruth, ?_⟩
    rw [chainTruth_wholeChain hshape hclosed]
    exact forall₂_congr fun chain hmem => (hread chain hmem).symm

/-- The pieces of predicates conjoin their chains. -/
theorem WhereCalls.conjoins {predicates : List Expr} {s t : Scope} {pieces : List WherePiece}
    (h : WhereCalls ctx s predicates pieces t) (hopen : s.whereOpen = false)
    (hclosed : s.conjoined = true ∨ predicates.length ≤ 1) :
    ∃ chains, List.Forall₂ (ChainFrom ctx t) predicates chains ∧
      Conjoins (String.join (pieces.map WherePiece.text)) (wholeChain pieces) chains := by
  obtain ⟨chains, hchains, rfl⟩ := h.pieces_eq
  have hshape : ∀ chain ∈ chains, ∃ orInside, ChainShape .and orInside chain := by
    intro chain hmem
    obtain ⟨predicate, -, hchain⟩ := forall₂_exists_left hchains _ hmem
    exact ⟨_, hchain.shape⟩
  rw [hopen]
  rw [hchains.length_eq] at hclosed
  exact ⟨chains, hchains, conjoins_conjoinedPieces hshape hclosed⟩

/-- The WHERE part of a statement conjoins the chains of its predicates. -/
theorem conjoins_of_statementOf {clauses : Clauses} {s t : Scope} {statement : Statement}
    (h : (statementOf ctx clauses).runOn s = (.ok statement, t)) (hopen : s.whereOpen = false) :
    ∃ chains, List.Forall₂ (ChainFrom ctx t) (predicatesOf clauses) chains ∧
      Conjoins statement.whereText (wholeChain statement.wherePieces) chains := by
  obtain ⟨u, v, hbefore, hwheres, hafter⟩ := (statementRun_of_ok h).wheres
  have hclosed : decide (1 < (predicatesOf clauses).length) = true ∨
      (predicatesOf clauses).length ≤ 1 := by
    rw [decide_eq_true_iff]
    omega
  have hopened : u.whereOpen = false := hbefore.flags.whereOpen.trans hopen
  obtain ⟨chains, hchains, hconjoins⟩ := (WhereCalls.of_piecesOf hwheres).conjoins hopened hclosed
  exact ⟨chains, hchains.imp fun _ _ hchain => hchain.of_grows hafter, hconjoins⟩

/-- Predicates are conjoined as wholes: in every statement that compiles, and in the pieces of calls
on a scope where the WHERE part is not open and others may follow. -/
theorem predicates_conjoined_as_wholes :
    (∀ (registry : Registry) (root : String) (clauses : Clauses) (query : SqlQuery),
      compile registry root clauses = .ok query →
      ∃ ctx statement final chains, Context.of registry root = .ok ctx ∧
        (statementOf ctx clauses).runOn ctx.scope = (.ok statement, final) ∧
        query = queryOf statement final.params ∧
        List.Forall₂ (ChainFrom ctx final) (predicatesOf clauses) chains ∧
        Conjoins statement.whereText (wholeChain statement.wherePieces) chains) ∧
    ∀ (ctx : Context) (s t : Scope) (predicates : List Expr) (pieces : List WherePiece),
      s.whereOpen = false → s.conjoined = true → WhereCalls ctx s predicates pieces t →
      ∃ chains, List.Forall₂ (ChainFrom ctx t) predicates chains ∧
        Conjoins (String.join (pieces.map WherePiece.text)) (wholeChain pieces) chains := by
  constructor
  · intro registry root clauses query h
    obtain ⟨ctx, hctx, h⟩ := compile_ok h
    obtain ⟨statement, final, hrun, rfl⟩ := compileOn_ok h
    obtain ⟨chains, hchains, hconjoins⟩ := conjoins_of_statementOf hrun rfl
    exact ⟨ctx, statement, final, chains, hctx, hrun, rfl, hchains, hconjoins⟩
  · intro ctx s t predicates pieces hopen hconjoined h
    exact h.conjoins hopen (.inl hconjoined)

/-- Two sample filters, of which the first has an OR. -/
def samplePredicates : List Expr :=
  [.or (.field ⟨none, "Paid"⟩) (.compare .eq (.field ⟨none, "Customer"⟩) (.literal (.int32 4))),
    .compare .gt (.field ⟨none, "Id"⟩) (.literal (.int32 7))]

def sampleFilters : Clauses := .ofList (samplePredicates.map (.of .filter))

theorem predicates_conjoined_as_wholes_sample :
    (∃ statement final chains,
      (statementOf sampleContext sampleFilters).runOn sampleContext.scope =
        (.ok statement, final) ∧
      chains.length = 2 ∧ Conjoins statement.whereText (wholeChain statement.wherePieces) chains) ∧
    ∃ pieces t chains,
      (piecesOf (wherePiece sampleContext) samplePredicates).runOn sampleContext.scope =
        (.ok pieces, t) ∧
      chains.length = 2 ∧
      Conjoins (String.join (pieces.map WherePiece.text)) (wholeChain pieces) chains := by
  constructor
  · have hok : (compile sampleContext.registry "Order" sampleFilters).isOk = true := by
      decide +kernel
    rcases hquery : compile sampleContext.registry "Order" sampleFilters with e | query
    · rw [hquery] at hok
      cases hok
    obtain ⟨ctx, statement, final, chains, hctx, hrun, -, hchains, hconjoins⟩ :=
      predicates_conjoined_as_wholes.1 _ _ _ _ hquery
    obtain rfl : sampleContext = ctx := Except.ok.inj hctx
    exact ⟨statement, final, chains, hrun, hchains.length_eq.symm, hconjoins⟩
  · have hok : ((piecesOf (wherePiece sampleContext) samplePredicates).runOn
        sampleContext.scope).1.isOk = true := by
      decide +kernel
    obtain ⟨pieces, t, hrun⟩ := Build.exists_of_isOk hok
    obtain ⟨chains, hchains, hconjoins⟩ :=
      predicates_conjoined_as_wholes.2 _ _ _ _ _ rfl rfl (.of_piecesOf hrun)
    exact ⟨pieces, t, chains, hrun, hchains.length_eq.symm, hconjoins⟩

end EntityQuery.Sql
