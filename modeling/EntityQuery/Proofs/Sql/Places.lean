import EntityQuery.Proofs.Sql.Placeholders
import EntityQuery.Proofs.Text.Together

/-!
# What follows a placeholder

A space, a comma or a closing parenthesis follows each placeholder in the text of a statement, if
the text does not end there. So with a space at its end the text is made of pieces: the names of the
parameters, each with the sign after it, and characters between them that are no marks.
-/
namespace EntityQuery.Sql

/-- The signs that follow placeholders. -/
def closers : List Char := [' ', ',', ')']

/-- The text is made of the names in their places, each before a closing sign, and of other
characters, which are no marks. -/
def Woven (text : List Char) (names : List String) : Prop :=
  ∃ pieces : List (Text.Piece String), text = Text.weave String.toList pieces ∧
    Text.itemsOf pieces = names ∧ ∀ piece ∈ pieces, piece.Clear '@' (· ∈ closers)

namespace Woven

variable {text text' : List Char} {names names' : List String}

theorem of_notMem (h : '@' ∉ text) : Woven text [] := by
  refine ⟨text.map .plain, ?_, ?_, ?_⟩
  · clear h
    induction text with
    | nil => rfl
    | cons c text ih => rw [List.map_cons, Text.weave_plain, ← ih]
  · simp [Text.itemsOf, Text.Piece.item?]
  · simp only [List.forall_mem_map]
    intro c hmem
    exact fun heq => h (heq ▸ hmem)

theorem name (name : String) {sign : Char} (hsign : sign ∈ closers) :
    Woven (name.toList ++ [sign]) [name] := by
  refine ⟨[.place name sign], by simp, rfl, ?_⟩
  simpa [Text.Piece.Clear] using hsign

theorem append (h : Woven text names) (h' : Woven text' names') :
    Woven (text ++ text') (names ++ names') := by
  obtain ⟨pieces, rfl, rfl, hclear⟩ := h
  obtain ⟨pieces', rfl, rfl, hclear'⟩ := h'
  exact ⟨pieces ++ pieces', by simp, by simp, List.forall_mem_append.2 ⟨hclear, hclear'⟩⟩

end Woven

/-- If the operands are proper, the text is woven of their names. -/
def ShowsClosed (text : String) (operands : List Operand) : Prop :=
  (∀ operand ∈ operands, operand.Proper) → Woven text.toList (operands.filterMap Operand.name?)

/-- A text that can go on after a placeholder. -/
def Closing (after : String) : Prop :=
  '@' ∉ after.toList ∧ after.toList.head?.any (· ∈ closers) = true

instance (after : String) : Decidable (Closing after) := inferInstanceAs (Decidable (_ ∧ _))

theorem spaced_append_space (texts : List String) :
    spaced texts ++ " " = " " ++ String.join ((texts.filter (!·.isEmpty)).map (· ++ " ")) := by
  unfold spaced
  induction texts.filter (!·.isEmpty) with
  | nil => rfl
  | cons text texts ih => simp [String.append_assoc, ih]

namespace ShowsClosed

variable {text text' after : String} {operands operands' : List Operand}

theorem plain (h : '@' ∉ text.toList) : ShowsClosed text [] := fun _ => .of_notMem h

/-- A text that shows columns only. -/
theorem of_shows (h : Shows text operands) (hnone : operands.filterMap Operand.name? = []) :
    ShowsClosed text operands := by
  intro hproper
  have hplaced := h hproper
  rw [hnone] at hplaced ⊢
  refine .of_notMem (List.count_eq_zero.1 ?_)
  exact hplaced.count_eq

theorem append (h : ShowsClosed text operands) (h' : ShowsClosed text' operands') :
    ShowsClosed (text ++ text') (operands ++ operands') := by
  intro hproper
  obtain ⟨hl, hr⟩ := List.forall_mem_append.1 hproper
  rw [String.toList_append, List.filterMap_append]
  exact (h hl).append (h' hr)

/-- Between fixed words. -/
theorem between {before : String} (h : ShowsClosed text operands) (hbefore : '@' ∉ before.toList)
    (hafter : '@' ∉ after.toList) : ShowsClosed (before ++ text ++ after) operands := by
  simpa using ((plain hbefore).append h).append (plain hafter)

/-- An operand before a closing sign. -/
theorem operand (operand : Operand) (hafter : Closing after) :
    ShowsClosed (operand.text ++ after) [operand] := by
  cases operand with
  | column c => exact of_shows ((Shows.operand (.column c)).append (.plain hafter.1)) rfl
  | parameter name =>
    obtain ⟨hunmarked, hany⟩ := hafter
    obtain ⟨sign, hhead, hsign⟩ := Option.any_eq_true _ _ |>.1 hany
    obtain ⟨rest, hrest⟩ := List.head?_eq_some_iff.1 hhead
    rw [decide_eq_true_eq] at hsign
    rw [hrest, List.mem_cons, not_or] at hunmarked
    intro _
    have hwoven := (Woven.name name hsign).append (.of_notMem hunmarked.2)
    simpa [Operand.text, Operand.name?, hrest] using hwoven

variable {α : Type} {f : α → String} {g : α → List Operand} {items : List α}

theorem join (h : ∀ x ∈ items, ShowsClosed (f x) (g x)) :
    ShowsClosed (String.join (items.map f)) (items.flatMap g) := by
  induction items with
  | nil => exact plain (by simp)
  | cons x items ih =>
    obtain ⟨hx, hitems⟩ := List.forall_mem_cons.1 h
    rw [List.map_cons, String.join_cons, List.flatMap_cons]
    exact hx.append (ih hitems)

/-- A comma follows each item but the last. -/
theorem commas (h : ∀ x ∈ items, ∀ after, Closing after → ShowsClosed (f x ++ after) (g x))
    (hafter : Closing after) :
    ShowsClosed (commas (items.map f) ++ after) (items.flatMap g) := by
  induction items with
  | nil => exact plain hafter.1
  | cons x items ih =>
    obtain ⟨hx, hitems⟩ := List.forall_mem_cons.1 h
    cases items with
    | nil => simpa [Sql.commas] using hx after hafter
    | cons y items =>
      have hrest := (hx ", " (by decide)).append (ih hitems)
      rw [Sql.commas, List.map_cons, List.map_cons, String.intercalate_cons_cons,
        List.flatMap_cons]
      simpa [Sql.commas, String.append_assoc] using hrest

/-- Each part ends before the space that leads to the next one. -/
theorem parts {texts : List String} {shown : List (List Operand)}
    (h : List.Forall₂ (fun text operands => Shows text operands ∧
      ShowsClosed (text ++ " ") operands) texts shown) :
    ShowsClosed (spaced texts ++ " ") shown.flatten := by
  rw [spaced_append_space, ← List.nil_append shown.flatten]
  refine (plain (by decide)).append ?_
  induction h with
  | nil => exact plain (by decide)
  | @cons text operands texts shown htext _ ih =>
    rw [List.flatten_cons, List.filter_cons]
    split
    · rw [List.map_cons, String.join_cons]
      exact htext.2.append ih
    · next hempty =>
      obtain rfl : text = "" := by simpa using hempty
      intro hproper
      obtain ⟨hl, hr⟩ := List.forall_mem_append.1 hproper
      have hnone : operands.filterMap Operand.name? = [] :=
        List.length_eq_zero_iff.1 (htext.1 hl).count_eq.symm
      rw [List.filterMap_append, hnone]
      exact ih hr

end ShowsClosed

section Texts

variable {after : String}

theorem closed_comparisonText (lhs : Column) (op : CompareOp) (rhs : Operand)
    (hafter : Closing after) :
    ShowsClosed (comparisonText lhs op rhs ++ after) [.column lhs, rhs] := by
  have hop : Closing (" " ++ op.sql ++ " ") := by
    cases op <;> decide
  have h := (ShowsClosed.operand (.column lhs) hop).append (.operand rhs hafter)
  simpa [comparisonText, Operand.text, String.append_assoc] using h

theorem Test.closed (test : Test) : ShowsClosed (test.text ++ ")") test.operands := by
  cases test with
  | compare lhs op rhs => exact closed_comparisonText lhs op rhs (by decide)
  | notCompare lhs op rhs =>
    have h : ShowsClosed (comparisonText lhs op rhs ++ ")") [.column lhs, rhs] :=
      closed_comparisonText lhs op rhs (by decide)
    have hnot : ShowsClosed ("NOT (" ++ (comparisonText lhs op rhs ++ ")") ++ ")") _ :=
      h.between (by decide) (by decide)
    simpa [Test.text, Test.operands, String.append_assoc] using hnot
  | isNull c | isNotNull c => exact .of_shows ((Test.shows _).append (.plain (by decide))) rfl
  | inList negated c name =>
    have hbefore : '@' ∉ (negationText negated ++ "FIND_IN_SET(").toList := by
      simpa using unmarked_negationText negated
    have hcolumn : ShowsClosed (c.text ++ ", ") [.column c] :=
      .operand (.column c) (by decide)
    have hlist : ShowsClosed (name ++ "))") [.parameter name] :=
      .operand (.parameter name) (by decide)
    simpa [Test.text, Test.operands, String.append_assoc] using
      ((ShowsClosed.plain hbefore).append hcolumn).append hlist
  | like negated c name =>
    have hbetween : Closing (" " ++ negationText negated ++ "LIKE ") := by
      cases negated <;> decide
    have hcolumn : ShowsClosed (c.text ++ (" " ++ negationText negated ++ "LIKE ")) [.column c] :=
      .operand (.column c) hbetween
    have hpattern : ShowsClosed (name ++ ")") [.parameter name] :=
      .operand (.parameter name) (by decide)
    simpa [Test.text, Test.operands, String.append_assoc] using hcolumn.append hpattern
  | constant holds => exact .plain (by cases holds <;> decide)

mutual

theorem Condition.closed : ∀ condition : Condition,
    ShowsClosed (condition.text ++ ")") condition.operands
  | .test test => test.closed
  | .negation chain => by
    have h : ShowsClosed ("NOT (" ++ chainText chain ++ "))") (chainOperands chain) :=
      (closed_chainText chain).between (by decide) (by decide)
    simpa [Condition.text, Condition.operands, String.append_assoc] using h
  | .group chain => by
    have h : ShowsClosed (chainText chain ++ ")") (chainOperands chain ++ []) :=
      (closed_chainText chain).append (.plain (by decide))
    simpa [Condition.text, Condition.operands] using h

theorem closed_chainText : ∀ chain : Chain, ShowsClosed (chainText chain) (chainOperands chain)
  | [] => .plain (by decide)
  | (_, condition) :: rest => by
    have hfirst : ShowsClosed ("(" ++ (condition.text ++ ")")) ([] ++ condition.operands) :=
      (ShowsClosed.plain (by decide)).append condition.closed
    simpa [chainText, chainOperands, String.append_assoc] using
      hfirst.append (closed_restText rest)

theorem closed_restText : ∀ rest : Chain, ShowsClosed (restText rest) (chainOperands rest)
  | [] => .plain (by decide)
  | (connective, condition) :: rest => by
    have hbefore : '@' ∉ (" " ++ connective.text ++ " (").toList := by
      cases connective <;> decide
    have hnext := (ShowsClosed.plain hbefore).append condition.closed
    simpa [restText, chainOperands, String.append_assoc] using
      hnext.append (closed_restText rest)

end

theorem Assignment.closed (assignment : Assignment) (hafter : Closing after) :
    ShowsClosed (assignment.text ++ after) assignment.operands := by
  have htarget : ShowsClosed (assignment.target.text ++ " = ") [.column assignment.target] :=
    .operand (.column assignment.target) (by decide)
  simpa [Assignment.text, Assignment.operands, String.append_assoc] using
    htarget.append (.operand assignment.value hafter)

theorem WherePiece.closed (piece : WherePiece) :
    ShowsClosed piece.text (chainOperands piece.chain) := by
  refine (ShowsClosed.plain ?_).append (closed_chainText piece.chain)
  split <;> decide

/-- What shows columns only, with a space after it. -/
theorem closed_of_columns {α : Type} {text : String} {items : List α} {columns : α → List Column}
    (h : Shows text (items.flatMap fun x => (columns x).map .column)) :
    ShowsClosed (text ++ " ") (items.flatMap fun x => (columns x).map .column) := by
  have hspace : ShowsClosed " " [] := .plain (by decide)
  have hnone : (items.flatMap fun x => (columns x).map Operand.column).filterMap Operand.name? =
      [] := by
    refine List.filterMap_eq_nil_iff.2 fun operand hmem => ?_
    obtain ⟨x, -, hmem⟩ := List.mem_flatMap.1 hmem
    obtain ⟨c, -, rfl⟩ := List.mem_map.1 hmem
    rfl
  simpa using (ShowsClosed.of_shows h hnone).append hspace

theorem closed_assignmentsText (assignments : List Assignment) :
    ShowsClosed (assignmentsText assignments ++ " ")
      (assignments.flatMap Assignment.operands) := by
  have hset : ShowsClosed "SET " [] := .plain (by decide)
  have hlist : ShowsClosed (commas (assignments.map Assignment.text) ++ " ")
      (assignments.flatMap Assignment.operands) :=
    .commas (fun assignment _ _ => assignment.closed) (by decide)
  simpa [assignmentsText, String.append_assoc] using hset.append hlist

/-- The parts after the joins, with a space after them. -/
theorem Statement.closed_laterParts (s : Statement) :
    ShowsClosed (spaced s.laterParts ++ " ") s.laterOperands.flatten := by
  have hwhere : ShowsClosed (s.whereText ++ " ") _ :=
    (ShowsClosed.join fun piece _ => piece.closed).append (.plain (by decide))
  rw [List.append_nil] at hwhere
  have hlimit : ∀ n, ShowsClosed (limitText n ++ " ") [] := fun n =>
    ShowsClosed.of_shows (shows_limitText n) rfl |>.append (.plain (by decide))
  refine .parts (s.forall₂_laterParts ?_ ?_ ?_ ?_ ?_)
  · exact fun assignments => ⟨shows_assignmentsText assignments, closed_assignmentsText assignments⟩
  · exact ⟨s.shows_whereText, hwhere⟩
  · exact ⟨s.shows_orderText, closed_of_columns s.shows_orderText⟩
  · exact ⟨s.shows_groupText, closed_of_columns s.shows_groupText⟩
  · exact fun n => ⟨shows_limitText n, hlimit n⟩

end Texts

/-- The text of a statement is woven of the names of its parameters. -/
theorem Statement.MadeOf.woven {ctx : Context} {clauses : Clauses} {references : List String}
    {t : Scope} {statement : Statement} (h : statement.MadeOf ctx clauses references t)
    (hunmarked : ctx.registry.Unmarked) (hroot : ctx.root ∈ ctx.registry.schemas) :
    Woven (statement.text.toList ++ [' ']) t.params.names := by
  have hnone : (statement.head.counted.map Operand.column).filterMap Operand.name? = [] := by
    simp [List.filterMap_map, Function.comp_def, Operand.name?]
  have hfront := ShowsClosed.of_shows (h.shows_front hunmarked hroot) hnone
  have hclosed : ShowsClosed (statement.text ++ " ") statement.operands := by
    rw [statement.text_eq, statement.operands_eq, String.append_assoc]
    exact hfront.append statement.closed_laterParts
  have hwoven := hclosed (h.uses.proper hunmarked hroot)
  rwa [String.toList_append, ← h.names_eq] at hwoven

end EntityQuery.Sql
