import EntityQuery.Proofs.Sql.Truth
import EntityQuery.Sql.Condition

/-!
# The reading of conditions

The text of a condition is a row of tokens: parentheses, connectives and tests, which are fragments
without a connective. A reading follows the precedence of SQL: NOT binds closer than AND, and AND
closer than OR. The rules of reading are an inductive relation. A reader that goes through the
tokens once, with a stack of open parentheses, shows that no text has two readings of different
truth.
-/
namespace EntityQuery.Sql

/-- A token of the text of a condition. -/
inductive Token where
  | left
  | right
  | not
  | and
  | or
  | fragment (test : Test)
  deriving DecidableEq, Repr

def Token.text : Token → String
  | .left => "("
  | .right => ")"
  | .not => "NOT "
  | .and => " AND "
  | .or => " OR "
  | .fragment test => test.text

/-- The text of a row of tokens. -/
def spell : List Token → String
  | [] => ""
  | token :: tokens => token.text ++ spell tokens

@[simp] theorem spell_nil : spell [] = "" := rfl

@[simp] theorem spell_cons (token : Token) (tokens : List Token) :
    spell (token :: tokens) = token.text ++ spell tokens := rfl

@[simp] theorem spell_append (xs ys : List Token) : spell (xs ++ ys) = spell xs ++ spell ys := by
  induction xs with
  | nil => simp
  | cons token xs ih => simp [ih, String.append_assoc]

/-- The levels of precedence. An operand is the closest and a disjunction the loosest. -/
inductive Level where
  | operand
  | conjunction
  | disjunction
  deriving DecidableEq, Repr

/-- The tokens form a condition of a level that has a truth value, given the truth of the tests. -/
inductive Reads (ι : Test → Truth) : Level → List Token → Truth → Prop
  | fragment (test : Test) : Reads ι .operand [.fragment test] (ι test)
  | parentheses {tokens : List Token} {v : Truth} :
      Reads ι .disjunction tokens v → Reads ι .operand (.left :: (tokens ++ [.right])) v
  | not {tokens : List Token} {v : Truth} :
      Reads ι .operand tokens v → Reads ι .operand (.not :: tokens) v.not
  | operand {tokens : List Token} {v : Truth} :
      Reads ι .operand tokens v → Reads ι .conjunction tokens v
  | and {left right : List Token} {v w : Truth} :
      Reads ι .conjunction left v → Reads ι .operand right w →
        Reads ι .conjunction (left ++ .and :: right) (v.and w)
  | conjunction {tokens : List Token} {v : Truth} :
      Reads ι .conjunction tokens v → Reads ι .disjunction tokens v
  | or {left right : List Token} {v w : Truth} :
      Reads ι .disjunction left v → Reads ι .conjunction right w →
        Reads ι .disjunction (left ++ .or :: right) (v.or w)

/-- The tokens can be read as a condition, and every reading has the one truth value. -/
def HasTruth (ι : Test → Truth) (tokens : List Token) (v : Truth) : Prop :=
  ∀ w, Reads ι .disjunction tokens w ↔ w = v

/-- What has been read of one level of parentheses, up to the operand that comes next. -/
structure Frame where
  /-- The disjunction of what stands before the last OR. -/
  alternatives : Truth
  /-- The conjunction of what stands since the last OR. -/
  factors : Truth
  negated : Bool

namespace Frame

/-- Nothing has been read. -/
def start : Frame := ⟨.false, .true, false⟩

/-- The next operand has been read. -/
def take (frame : Frame) (v : Truth) : Frame :=
  ⟨frame.alternatives, frame.factors.and (v.negateIf frame.negated), false⟩

/-- The truth of the whole level. -/
def close (frame : Frame) : Truth := frame.alternatives.or frame.factors

end Frame

mutual

/-- Reads tokens where an operand is due. `outer` holds the open parentheses, innermost first. -/
def readOperand (ι : Test → Truth) (outer : List Frame) (frame : Frame) :
    List Token → Option Truth
  | .not :: tokens => readOperand ι outer { frame with negated := !frame.negated } tokens
  | .left :: tokens => readOperand ι (frame :: outer) .start tokens
  | .fragment test :: tokens => readConnective ι outer (frame.take (ι test)) tokens
  | _ => none

/-- Reads tokens after an operand. -/
def readConnective (ι : Test → Truth) (outer : List Frame) (frame : Frame) :
    List Token → Option Truth
  | [] => if outer.isEmpty then some frame.close else none
  | .and :: tokens => readOperand ι outer frame tokens
  | .or :: tokens => readOperand ι outer ⟨frame.close, .true, false⟩ tokens
  | .right :: tokens =>
      match outer with
      | [] => none
      | below :: outer => readConnective ι outer (below.take frame.close) tokens
  | _ => none

end

/-- Where the reader is after the tokens of a level: after an operand it has taken one value more,
after a conjunction it has multiplied the factors, and after a disjunction from the start it has a
frame that closes to the value. -/
def ReaderStep (ι : Test → Truth) (level : Level) (tokens : List Token) (v : Truth) : Prop :=
  ∀ outer rest, match level with
    | .operand => ∀ frame, readOperand ι outer frame (tokens ++ rest) =
        readConnective ι outer (frame.take v) rest
    | .conjunction => ∀ frame, frame.negated = false →
        readOperand ι outer frame (tokens ++ rest) = readConnective ι outer (frame.take v) rest
    | .disjunction => ∃ frame, frame.close = v ∧ frame.negated = false ∧
        readOperand ι outer .start (tokens ++ rest) = readConnective ι outer frame rest

/-- The reader follows every reading. -/
theorem Reads.readerStep {ι : Test → Truth} {level : Level} {tokens : List Token} {v : Truth}
    (h : Reads ι level tokens v) : ReaderStep ι level tokens v := by
  induction h with
  | fragment test => intro outer rest frame; rfl
  | @parentheses tokens v _ ih =>
      intro outer rest frame
      obtain ⟨inner, hclose, _, hread⟩ := ih (frame :: outer) (.right :: rest)
      simp [readOperand, hread, readConnective, hclose]
  | @not tokens v _ ih =>
      intro outer rest frame
      rw [List.cons_append, readOperand, ih outer rest]
      simp [Frame.take]
  | operand _ ih => exact fun outer rest frame _ => ih outer rest frame
  | @and left right v w _ _ ihl ihr =>
      intro outer rest frame hn
      have hl := ihl outer (.and :: (right ++ rest)) frame hn
      simp [hl, readConnective, ihr outer rest, Frame.take, hn, Truth.and_assoc]
  | conjunction _ ih =>
      intro outer rest
      exact ⟨Frame.start.take _, by simp [Frame.take, Frame.start, Frame.close], rfl,
        ih outer rest .start rfl⟩
  | @or left right v w _ _ ihl ihr =>
      intro outer rest
      obtain ⟨frame, hclose, _, hl⟩ := ihl outer (.or :: (right ++ rest))
      refine ⟨Frame.take ⟨v, .true, false⟩ w, by simp [Frame.take, Frame.close], rfl, ?_⟩
      simpa [hl, readConnective, hclose] using ihr outer rest ⟨v, .true, false⟩ rfl

/-- A condition has one truth value. -/
theorem Reads.unique {ι : Test → Truth} {tokens : List Token} {v w : Truth}
    (hv : Reads ι .disjunction tokens v) (hw : Reads ι .disjunction tokens w) : v = w := by
  obtain ⟨f, hf, _, hreadf⟩ := hv.readerStep [] []
  obtain ⟨g, hg, _, hreadg⟩ := hw.readerStep [] []
  have hsame : some f.close = some g.close := by
    simpa [readConnective] using hreadf.symm.trans hreadg
  rw [← hf, ← hg]
  exact Option.some.inj hsame

theorem Reads.hasTruth {ι : Test → Truth} {tokens : List Token} {v : Truth}
    (h : Reads ι .disjunction tokens v) : HasTruth ι tokens v :=
  fun _ => ⟨fun hw => hw.unique h, fun hw => hw ▸ h⟩

theorem HasTruth.reads {ι : Test → Truth} {tokens : List Token} {v : Truth}
    (h : HasTruth ι tokens v) : Reads ι .disjunction tokens v :=
  (h v).2 rfl

/-- The value of a condition is the only one. -/
theorem HasTruth.iff_eq {ι : Test → Truth} {tokens : List Token} {v w : Truth}
    (h : HasTruth ι tokens v) : HasTruth ι tokens w ↔ w = v :=
  ⟨fun hw => (h w).1 hw.reads, fun hw => hw ▸ h⟩

end EntityQuery.Sql
