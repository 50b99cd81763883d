import EntityQuery.Proofs.Sql.Reading

/-!
# The reading of chains

The tokens of a chain spell its text, and the text is read by precedence: the chain is a disjunction
of the runs of siblings between its ORs, and each run is a conjunction. Every sibling stands between
parentheses, so what is inside it does not mix with its neighbours.
-/
namespace EntityQuery.Sql

/-- The tokens of a test. A negation in front of a test is a token of its own. -/
def Test.tokens : Test → List Token
  | .notCompare lhs op rhs => [.not, .left, .fragment (.compare lhs op rhs), .right]
  | .inList true column list => [.not, .fragment (.inList false column list)]
  | test => [.fragment test]

def Connective.token : Connective → Token
  | .and => .and
  | .or => .or

mutual

def Condition.tokens : Condition → List Token
  | .test test => test.tokens
  | .negation chain => .not :: .left :: (chainTokens chain ++ [.right])
  | .group chain => chainTokens chain

/-- The tokens of a chain. -/
def chainTokens : Chain → List Token
  | [] => []
  | (_, condition) :: rest => .left :: (condition.tokens ++ .right :: restTokens rest)

/-- The tokens of the siblings after the first. -/
def restTokens : Chain → List Token
  | [] => []
  | (connective, condition) :: rest =>
      connective.token :: .left :: (condition.tokens ++ .right :: restTokens rest)

end

/-- The truth of a test, given that of the fragments in its text. -/
def Test.truth (ι : Test → Truth) : Test → Truth
  | .notCompare lhs op rhs => (ι (.compare lhs op rhs)).not
  | .inList true column list => (ι (.inList false column list)).not
  | test => ι test

mutual

def Condition.truth (ι : Test → Truth) : Condition → Truth
  | .test test => test.truth ι
  | .negation chain => (chainTruth ι chain).not
  | .group chain => chainTruth ι chain

/-- The truth of a chain by precedence. -/
def chainTruth (ι : Test → Truth) : Chain → Truth
  | [] => .true
  | (_, condition) :: rest => restTruth ι .false (condition.truth ι) rest

/-- The truth of a chain of which some siblings have been read: `alternatives` before the last OR
and `factors` since. -/
def restTruth (ι : Test → Truth) (alternatives factors : Truth) : Chain → Truth
  | [] => alternatives.or factors
  | (.and, condition) :: rest => restTruth ι alternatives (factors.and (condition.truth ι)) rest
  | (.or, condition) :: rest => restTruth ι (alternatives.or factors) (condition.truth ι) rest

end

/-- A condition without empty chains inside. -/
inductive Condition.Filled : Condition → Prop
  | test (test : Test) : Filled (.test test)
  | negation {chain : Chain} :
      chain ≠ [] → (∀ sibling ∈ chain, Filled sibling.2) → Filled (.negation chain)
  | group {chain : Chain} :
      chain ≠ [] → (∀ sibling ∈ chain, Filled sibling.2) → Filled (.group chain)

/-- A chain with at least one sibling, and without empty chains inside. -/
def ChainFilled (chain : Chain) : Prop :=
  chain ≠ [] ∧ ∀ sibling ∈ chain, sibling.2.Filled

theorem ChainFilled.append {xs ys : Chain} (hx : ChainFilled xs) (hy : ChainFilled ys) :
    ChainFilled (xs ++ ys) := by
  refine ⟨List.append_ne_nil_of_left_ne_nil hx.1 ys, fun sibling hmem => ?_⟩
  rcases List.mem_append.1 hmem with hmem | hmem
  · exact hx.2 sibling hmem
  · exact hy.2 sibling hmem

theorem Test.spell_tokens (test : Test) : spell test.tokens = test.text := by
  cases test with
  | notCompare lhs op rhs =>
      have hopen : Token.not.text ++ Token.left.text = "NOT (" := rfl
      rw [Test.tokens, spell_cons, spell_cons, ← String.append_assoc, hopen]
      simp [Token.text, Test.text, String.append_assoc]
  | inList negated column list =>
      cases negated with
      | false => simp [Test.tokens, Token.text]
      | true => simp [Test.tokens, Token.text, Test.text, negationText, String.append_assoc]; rfl
  | _ => simp [Test.tokens, Token.text]

mutual

/-- The tokens of a condition spell its text. -/
theorem Condition.spell_tokens : ∀ condition : Condition,
    spell condition.tokens = condition.text
  | .test test => by simp [Condition.tokens, Condition.text, Test.spell_tokens]
  | .negation chain => by
      have h := spell_chainTokens chain
      have hopen : Token.not.text ++ Token.left.text = "NOT (" := rfl
      rw [Condition.tokens, spell_cons, spell_cons, ← String.append_assoc, hopen]
      simp [Condition.text, h, Token.text, String.append_assoc]
  | .group chain => by simp [Condition.tokens, Condition.text, spell_chainTokens chain]

/-- The tokens of a chain spell its text. -/
theorem spell_chainTokens : ∀ chain : Chain, spell (chainTokens chain) = chainText chain
  | [] => rfl
  | (_, condition) :: rest => by
      have hc := Condition.spell_tokens condition
      have hr := spell_restTokens rest
      simp [chainTokens, chainText, hc, hr, Token.text, String.append_assoc]

theorem spell_restTokens : ∀ rest : Chain, spell (restTokens rest) = restText rest
  | [] => rfl
  | (connective, condition) :: rest => by
      have hc := Condition.spell_tokens condition
      have hr := spell_restTokens rest
      have hopen : connective.token.text ++ Token.left.text = " " ++ connective.text ++ " (" := by
        cases connective <;> rfl
      rw [restTokens, spell_cons, spell_cons, ← String.append_assoc, hopen]
      simp [restText, hc, hr, Token.text, String.append_assoc]

end

/-- The first connective of a chain is not written. -/
theorem chainTokens_cons (connective : Connective) (condition : Condition) (rest : Chain) :
    restTokens ((connective, condition) :: rest) =
      connective.token :: chainTokens ((connective, condition) :: rest) := by
  simp [chainTokens, restTokens]

theorem restTokens_append (xs ys : Chain) :
    restTokens (xs ++ ys) = restTokens xs ++ restTokens ys := by
  induction xs with
  | nil => simp [restTokens]
  | cons sibling xs ih => simp [restTokens, ih]

/-- What follows a chain is written with its connective. -/
theorem chainTokens_append {xs : Chain} (hx : xs ≠ []) (ys : Chain) :
    chainTokens (xs ++ ys) = chainTokens xs ++ restTokens ys := by
  cases xs with
  | nil => exact absurd rfl hx
  | cons sibling xs => simp [chainTokens, restTokens_append]

/-- The tokens that have been read of a chain: `alternatives` before the last OR, if there is one,
and `factors` since. -/
def ReadSoFar (ι : Test → Truth) (tokens : List Token) (alternatives factors : Truth) : Prop :=
  (alternatives = .false ∧ Reads ι .conjunction tokens factors) ∨
    ∃ before since, tokens = before ++ .or :: since ∧
      Reads ι .disjunction before alternatives ∧ Reads ι .conjunction since factors

namespace ReadSoFar

variable {ι : Test → Truth} {tokens operand : List Token} {alternatives factors v : Truth}

theorem close (h : ReadSoFar ι tokens alternatives factors) :
    Reads ι .disjunction tokens (alternatives.or factors) := by
  rcases h with ⟨rfl, hfactors⟩ | ⟨before, since, rfl, hbefore, hsince⟩
  · exact .conjunction hfactors
  · exact .or hbefore hsince

theorem and (h : ReadSoFar ι tokens alternatives factors) (ho : Reads ι .operand operand v) :
    ReadSoFar ι (tokens ++ .and :: operand) alternatives (factors.and v) := by
  rcases h with ⟨rfl, hfactors⟩ | ⟨before, since, rfl, hbefore, hsince⟩
  · exact .inl ⟨rfl, .and hfactors ho⟩
  · exact .inr ⟨before, since ++ .and :: operand, by simp, hbefore, .and hsince ho⟩

theorem or (h : ReadSoFar ι tokens alternatives factors) (ho : Reads ι .operand operand v) :
    ReadSoFar ι (tokens ++ .or :: operand) (alternatives.or factors) v :=
  .inr ⟨tokens, operand, rfl, h.close, .operand ho⟩

end ReadSoFar

section

variable {ι : Test → Truth}

theorem Test.reads_tokens (test : Test) : Reads ι .operand test.tokens (test.truth ι) := by
  cases test with
  | notCompare lhs op rhs =>
      have h := Reads.fragment (ι := ι) (.compare lhs op rhs)
      exact .not (.parentheses (.conjunction (.operand h)))
  | inList negated column list =>
      cases negated with
      | false => exact .fragment _
      | true => exact .not (.fragment _)
  | _ => exact .fragment _

/-- A sibling stands between parentheses. -/
theorem reads_sibling {condition : Condition}
    (h : Reads ι .disjunction condition.tokens (condition.truth ι)) :
    Reads ι .operand (.left :: (condition.tokens ++ [.right])) (condition.truth ι) :=
  .parentheses h

/-- The siblings after the first are read one after the other. -/
theorem ReadSoFar.rest {tokens : List Token} {alternatives factors : Truth} {rest : Chain}
    (h : ReadSoFar ι tokens alternatives factors)
    (hrest : ∀ sibling ∈ rest, Reads ι .disjunction sibling.2.tokens (sibling.2.truth ι)) :
    Reads ι .disjunction (tokens ++ restTokens rest) (restTruth ι alternatives factors rest) := by
  induction rest generalizing tokens alternatives factors with
  | nil => simpa [restTokens, restTruth] using h.close
  | cons sibling rest ih =>
      obtain ⟨connective, condition⟩ := sibling
      have hs := reads_sibling (hrest (connective, condition) (by simp))
      have hlater : ∀ s ∈ rest, Reads ι .disjunction s.2.tokens (s.2.truth ι) :=
        fun s hmem => hrest s (List.mem_cons_of_mem _ hmem)
      cases connective with
      | and => simpa [restTokens, restTruth, Connective.token] using ih (h.and hs) hlater
      | or => simpa [restTokens, restTruth, Connective.token] using ih (h.or hs) hlater

/-- A chain is read if each of its siblings is. -/
theorem reads_chainTokens_of_siblings {chain : Chain} (hne : chain ≠ [])
    (h : ∀ sibling ∈ chain, Reads ι .disjunction sibling.2.tokens (sibling.2.truth ι)) :
    Reads ι .disjunction (chainTokens chain) (chainTruth ι chain) := by
  cases chain with
  | nil => exact absurd rfl hne
  | cons sibling rest =>
      obtain ⟨connective, condition⟩ := sibling
      have hs := reads_sibling (h (connective, condition) (by simp))
      have hfirst : ReadSoFar ι _ .false (condition.truth ι) := .inl ⟨rfl, .operand hs⟩
      have hrest : ∀ s ∈ rest, Reads ι .disjunction s.2.tokens (s.2.truth ι) :=
        fun s hmem => h s (List.mem_cons_of_mem _ hmem)
      have hlater := hfirst.rest hrest
      simpa [chainTokens, chainTruth] using hlater

theorem Condition.Filled.reads {condition : Condition} (h : condition.Filled) :
    Reads ι .disjunction condition.tokens (condition.truth ι) := by
  induction h with
  | test test => exact .conjunction (.operand test.reads_tokens)
  | negation hne _ ih =>
      have h := reads_chainTokens_of_siblings hne ih
      simpa [Condition.tokens, Condition.truth] using
        Reads.conjunction (.operand (.not (.parentheses h)))
  | group hne _ ih =>
      simpa [Condition.tokens, Condition.truth] using reads_chainTokens_of_siblings hne ih

/-- The text of a chain has the truth of the chain by precedence, and no other. -/
theorem ChainFilled.hasTruth {chain : Chain} (h : ChainFilled chain) :
    HasTruth ι (chainTokens chain) (chainTruth ι chain) :=
  (reads_chainTokens_of_siblings h.1 fun sibling hmem => (h.2 sibling hmem).reads).hasTruth

/-- What stands before the last OR is one more alternative. -/
theorem restTruth_alternatives (alternatives factors : Truth) (rest : Chain) :
    restTruth ι alternatives factors rest = alternatives.or (restTruth ι .false factors rest) := by
  induction rest generalizing alternatives factors with
  | nil => simp [restTruth]
  | cons sibling rest ih =>
      obtain ⟨connective, condition⟩ := sibling
      cases connective with
      | and => rw [restTruth, restTruth, ih]
      | or => rw [restTruth, restTruth, ih, ih (.or _ _), Truth.or_assoc, Truth.false_or]

theorem restTruth_append_or (alternatives factors : Truth) (xs : Chain) (condition : Condition)
    (rest : Chain) :
    restTruth ι alternatives factors (xs ++ (.or, condition) :: rest) =
      (restTruth ι alternatives factors xs).or (restTruth ι .false (condition.truth ι) rest) := by
  induction xs generalizing alternatives factors with
  | nil => rw [List.nil_append, restTruth, restTruth, restTruth_alternatives]
  | cons sibling xs ih =>
      obtain ⟨connective, inner⟩ := sibling
      cases connective with
      | and => rw [List.cons_append, restTruth, restTruth, ih]
      | or => rw [List.cons_append, restTruth, restTruth, ih]

/-- An OR between two chains makes the disjunction of the two. -/
theorem chainTruth_append_or {xs : Chain} (hx : xs ≠ []) (condition : Condition) (rest : Chain) :
    chainTruth ι (xs ++ (.or, condition) :: rest) =
      (chainTruth ι xs).or (chainTruth ι ((.or, condition) :: rest)) := by
  cases xs with
  | nil => exact absurd rfl hx
  | cons sibling xs => exact restTruth_append_or _ _ xs condition rest

/-- Without an OR, reading can stop and go on between any two siblings. -/
theorem restTruth_append_of_no_or {xs : Chain} (hx : ∀ sibling ∈ xs, sibling.1 = .and)
    (factors : Truth) (ys : Chain) :
    restTruth ι .false factors (xs ++ ys) =
      restTruth ι .false (restTruth ι .false factors xs) ys := by
  induction xs generalizing factors with
  | nil => simp [restTruth]
  | cons sibling xs ih =>
      obtain ⟨connective, condition⟩ := sibling
      obtain rfl : connective = .and := hx (connective, condition) (by simp)
      rw [List.cons_append, restTruth, restTruth,
        ih fun s hmem => hx s (List.mem_cons_of_mem _ hmem)]

theorem restTruth_factor_of_no_or {xs : Chain} (hx : ∀ sibling ∈ xs, sibling.1 = .and)
    (v factors : Truth) :
    restTruth ι .false (v.and factors) xs = v.and (restTruth ι .false factors xs) := by
  induction xs generalizing factors with
  | nil => simp [restTruth]
  | cons sibling xs ih =>
      obtain ⟨connective, condition⟩ := sibling
      obtain rfl : connective = .and := hx (connective, condition) (by simp)
      rw [restTruth, restTruth, Truth.and_assoc,
        ih fun s hmem => hx s (List.mem_cons_of_mem _ hmem)]

theorem hasOr_cons_eq_false {sibling : Connective × Condition} {rest : Chain} :
    hasOr (sibling :: rest) = false ↔ ∀ s ∈ rest, s.1 = .and := by
  have hconnective : ∀ k : Connective, ¬k = .or ↔ k = .and := by intro k; cases k <;> decide
  simp [hasOr, hconnective]

/-- An AND between two chains makes the conjunction of the two, provided that neither has an OR. -/
theorem chainTruth_append_and {xs : Chain} (hx : xs ≠ []) (hxs : hasOr xs = false)
    {condition : Condition} {rest : Chain} (hys : hasOr ((.and, condition) :: rest) = false) :
    chainTruth ι (xs ++ (.and, condition) :: rest) =
      (chainTruth ι xs).and (chainTruth ι ((.and, condition) :: rest)) := by
  cases xs with
  | nil => exact absurd rfl hx
  | cons sibling xs =>
      have hleft := hasOr_cons_eq_false.1 hxs
      have hright := hasOr_cons_eq_false.1 hys
      rw [List.cons_append, chainTruth, chainTruth, chainTruth, restTruth_append_of_no_or hleft,
        restTruth, restTruth_factor_of_no_or hright]

theorem restTruth_eq_true_iff {alternatives factors : Truth} {rest : Chain}
    (hrest : ∀ sibling ∈ rest, sibling.1 = .and) :
    restTruth ι alternatives factors rest = .true ↔
      alternatives = .true ∨ factors = .true ∧ ∀ sibling ∈ rest, sibling.2.truth ι = .true := by
  induction rest generalizing factors with
  | nil => simp [restTruth, Truth.or_eq_true_iff]
  | cons sibling rest ih =>
      obtain ⟨connective, condition⟩ := sibling
      obtain ⟨rfl, hlater⟩ := List.forall_mem_cons.1 hrest
      rw [restTruth, ih hlater, Truth.and_eq_true_iff, List.forall_mem_cons, and_assoc]

/-- A chain without an OR is true if and only if all its siblings are. -/
theorem chainTruth_eq_true_iff {chain : Chain} (h : ∀ sibling ∈ chain, sibling.1 = .and) :
    chainTruth ι chain = .true ↔ ∀ sibling ∈ chain, sibling.2.truth ι = .true := by
  cases chain with
  | nil => simp [chainTruth]
  | cons sibling rest =>
      have hrest : restTruth ι .false (sibling.2.truth ι) rest = .true ↔ _ :=
        restTruth_eq_true_iff (List.forall_mem_cons.1 h).2
      rw [List.forall_mem_cons, chainTruth, hrest]
      simp

@[simp] theorem chainTruth_single (connective : Connective) (condition : Condition) :
    chainTruth ι [(connective, condition)] = condition.truth ι := by
  simp [chainTruth, restTruth]

end

/-- The chain as it stands next to other chains: closed to one sibling if it has an OR. -/
def closeIf (others : Bool) (chain : Chain) : Chain :=
  if hasOr chain && others then grouped chain else chain

/-- Closing a chain does not change its truth. -/
@[simp] theorem chainTruth_closeIf (ι : Test → Truth) (others : Bool) (chain : Chain) :
    chainTruth ι (closeIf others chain) = chainTruth ι chain := by
  unfold closeIf
  split
  · rw [grouped, chainTruth_single, Condition.truth]
  · rfl

theorem ChainFilled.closeIf {chain : Chain} (h : ChainFilled chain) (others : Bool) :
    ChainFilled (closeIf others chain) := by
  unfold Sql.closeIf
  split
  · exact ⟨by simp [grouped], by simpa [grouped] using Condition.Filled.group h.1 h.2⟩
  · exact h

/-- Next to other chains no OR stands in the open. -/
theorem hasOr_closeIf_true (chain : Chain) : hasOr (closeIf true chain) = false := by
  unfold closeIf
  cases hor : hasOr chain with
  | true => simp [grouped, hasOr]
  | false => simpa using hor

end EntityQuery.Sql
