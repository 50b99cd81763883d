import EntityQuery.Proofs.Sql.AliasToken
import EntityQuery.Proofs.Sql.Joins
import Mathlib.Data.List.Nodup

/-!
# Placeholders

Every `@` in the text of a statement starts the name of a parameter, and the parameters stand in the
text in the order in which they were bound. The text follows the order of the uses: what a use shows
is written where the use is made, and the joins, which are made last but stand before most other
parts, show no parameters.
-/
namespace EntityQuery

/-- No table and no column has an `@` in its name. -/
def Registry.Unmarked (registry : Registry) : Prop :=
  ∀ schema ∈ registry.schemas, '@' ∉ schema.table.toList ∧
    ∀ field ∈ schema.fields, '@' ∉ field.column.toList

instance (registry : Registry) : Decidable registry.Unmarked :=
  inferInstanceAs (Decidable (∀ schema ∈ registry.schemas, _ ∧ ∀ field ∈ schema.fields, _))

namespace Text

/-- What is left of a text from each occurrence of a character on. -/
def startingAt (c : Char) : List Char → List (List Char)
  | [] => []
  | x :: xs => if x = c then (x :: xs) :: startingAt c xs else startingAt c xs

theorem startingAt_of_notMem {c : Char} {cs : List Char} (h : c ∉ cs) : startingAt c cs = [] := by
  induction cs with
  | nil => rfl
  | cons x xs ih =>
      obtain ⟨hne, hnot⟩ := not_or.1 (mt List.mem_cons.2 h)
      rw [startingAt, if_neg (Ne.symm hne), ih hnot]

theorem startingAt_append (c : Char) (xs ys : List Char) :
    startingAt c (xs ++ ys) = (startingAt c xs).map (· ++ ys) ++ startingAt c ys := by
  induction xs with
  | nil => rfl
  | cons x xs ih =>
      rw [List.cons_append, startingAt, startingAt]
      split <;> simp [ih]

theorem length_startingAt (c : Char) (cs : List Char) :
    (startingAt c cs).length = cs.count c := by
  induction cs with
  | nil => rfl
  | cons x xs ih =>
      rw [startingAt, List.count_cons]
      split <;> simp_all

end Text

namespace Sql

/-- At each `@` of the text starts one of the names, in order, and there are no others. -/
def Placed (text : List Char) (names : List String) : Prop :=
  List.Forall₂ (fun name rest => name.toList <+: rest) names (Text.startingAt '@' text)

namespace Placed

variable {text text' : List Char} {names names' : List String}

theorem of_notMem (h : '@' ∉ text) : Placed text [] := by
  rw [Placed, Text.startingAt_of_notMem h]
  exact .nil

theorem append (h : Placed text names) (h' : Placed text' names') :
    Placed (text ++ text') (names ++ names') := by
  have hlonger : List.Forall₂ (fun name rest => name.toList <+: rest) names
      ((Text.startingAt '@' text).map (· ++ text')) :=
    List.forall₂_map_right_iff.2 (h.imp fun _ _ hprefix => List.prefix_append_of_prefix hprefix)
  rw [Placed, Text.startingAt_append]
  exact List.rel_append hlonger h'

/-- There are as many marks as names. -/
theorem count_eq (h : Placed text names) : text.count '@' = names.length := by
  rw [← Text.length_startingAt, h.length_eq]

end Placed

/-- The name of a parameter. -/
def Operand.name? : Operand → Option String
  | .column _ => none
  | .parameter name => some name

/-- A column has no `@`; the name of a parameter has one, at its start. -/
def Operand.Proper : Operand → Prop
  | .column c => '@' ∉ c.text.toList
  | .parameter name => ∃ rest, name.toList = '@' :: rest ∧ '@' ∉ rest

/-- If the operands are proper, the placeholders of the text are their names. -/
def Shows (text : String) (operands : List Operand) : Prop :=
  (∀ operand ∈ operands, operand.Proper) → Placed text.toList (operands.filterMap Operand.name?)

namespace Shows

variable {text text' : String} {operands operands' : List Operand}

theorem plain (h : '@' ∉ text.toList) : Shows text [] := fun _ => .of_notMem h

theorem append (h : Shows text operands) (h' : Shows text' operands') :
    Shows (text ++ text') (operands ++ operands') := by
  intro hproper
  obtain ⟨hl, hr⟩ := List.forall_mem_append.1 hproper
  rw [String.toList_append, List.filterMap_append]
  exact (h hl).append (h' hr)

/-- Between fixed words. -/
theorem between {before after : String} (h : Shows text operands)
    (hbefore : '@' ∉ before.toList) (hafter : '@' ∉ after.toList) :
    Shows (before ++ text ++ after) operands := by
  simpa using ((plain hbefore).append h).append (plain hafter)

theorem operand (operand : Operand) : Shows operand.text [operand] := by
  intro hproper
  have h := hproper operand List.mem_cons_self
  cases operand with
  | column c => exact .of_notMem h
  | parameter name =>
      obtain ⟨rest, hname, hrest⟩ := h
      show Placed name.toList [name]
      rw [Placed, hname, Text.startingAt, if_pos rfl, Text.startingAt_of_notMem hrest]
      exact .cons (hname ▸ List.prefix_rfl) .nil

variable {α : Type} {f : α → String} {g : α → List Operand} {items : List α}

theorem join (h : ∀ x ∈ items, Shows (f x) (g x)) :
    Shows (String.join (items.map f)) (items.flatMap g) := by
  induction items with
  | nil => exact plain (by simp)
  | cons x items ih =>
      obtain ⟨hx, hitems⟩ := List.forall_mem_cons.1 h
      rw [List.map_cons, String.join_cons, List.flatMap_cons]
      exact hx.append (ih hitems)

theorem intercalate {separator : String} (hseparator : '@' ∉ separator.toList)
    (h : ∀ x ∈ items, Shows (f x) (g x)) :
    Shows (separator.intercalate (items.map f)) (items.flatMap g) := by
  induction items with
  | nil => exact plain (by simp)
  | cons x items ih =>
      obtain ⟨hx, hitems⟩ := List.forall_mem_cons.1 h
      cases items with
      | nil => simpa using hx
      | cons y items =>
          rw [List.map_cons, List.map_cons, String.intercalate_cons_cons, List.flatMap_cons]
          simpa using (hx.append (plain hseparator)).append (ih hitems)

/-- Items that show nothing. -/
theorem intercalate_plain {separator : String} (hseparator : '@' ∉ separator.toList)
    (h : ∀ x ∈ items, '@' ∉ (f x).toList) : Shows (separator.intercalate (items.map f)) [] := by
  have hnone : items.flatMap (fun _ => ([] : List Operand)) = [] :=
    List.flatMap_eq_nil_iff.2 fun _ _ => rfl
  exact hnone ▸ intercalate hseparator fun x hmem => plain (h x hmem)

/-- The parts of a statement that are not empty, each after a space. -/
theorem parts {texts : List String} {shown : List (List Operand)}
    (h : List.Forall₂ Shows texts shown) :
    Shows (String.join ((texts.filter (!·.isEmpty)).map (" " ++ ·))) shown.flatten := by
  induction h with
  | nil => exact plain (by simp)
  | @cons text operands texts shown htext _ ih =>
      rw [List.flatten_cons, List.filter_cons]
      split
      · rw [List.map_cons, String.join_cons]
        exact ((plain (by decide)).append htext).append ih
      · next hempty =>
          obtain rfl : text = "" := by simpa using hempty
          -- an empty text shows nothing, so that nothing is missing without it
          exact fun hproper => (htext.append ih) hproper

end Shows

section Texts

theorem CompareOp.unmarked_sql (op : CompareOp) : '@' ∉ op.sql.toList := by
  cases op <;> decide

theorem unmarked_negationText (negated : Bool) : '@' ∉ (negationText negated).toList := by
  cases negated <;> decide

theorem shows_comparisonText (lhs : Column) (op : CompareOp) (rhs : Operand) :
    Shows (comparisonText lhs op rhs) [.column lhs, rhs] := by
  have hop : '@' ∉ (" " ++ op.sql ++ " ").toList := by
    simpa using CompareOp.unmarked_sql op
  have h := ((Shows.operand (.column lhs)).append (.plain hop)).append (.operand rhs)
  simpa [comparisonText, Operand.text, String.append_assoc] using h

theorem Test.shows (test : Test) : Shows test.text test.operands := by
  cases test with
  | compare lhs op rhs => exact shows_comparisonText lhs op rhs
  | notCompare lhs op rhs =>
      exact (shows_comparisonText lhs op rhs).between (by decide) (by decide)
  | isNull c | isNotNull c => exact (Shows.operand (.column c)).append (.plain (by decide))
  | inList negated c name =>
      have hbefore : '@' ∉ (negationText negated ++ "FIND_IN_SET(").toList := by
        simpa using unmarked_negationText negated
      have hcolumn : Shows (negationText negated ++ "FIND_IN_SET(" ++ c.text ++ ", ")
          [.column c] := (Shows.operand (.column c)).between hbefore (by decide)
      exact (hcolumn.append (.operand (.parameter name))).append (.plain (by decide))
  | like negated c name =>
      have hbetween : '@' ∉ (" " ++ negationText negated ++ "LIKE ").toList := by
        simpa using unmarked_negationText negated
      have h := ((Shows.operand (.column c)).append (.plain hbetween)).append
        (.operand (.parameter name))
      simpa [Test.text, Test.operands, Operand.text, String.append_assoc] using h
  | constant holds => exact .plain (by cases holds <;> decide)

mutual

theorem Condition.shows : ∀ condition : Condition, Shows condition.text condition.operands
  | .test test => test.shows
  | .negation chain => (shows_chainText chain).between (by decide) (by decide)
  | .group chain => shows_chainText chain

theorem shows_chainText : ∀ chain : Chain, Shows (chainText chain) (chainOperands chain)
  | [] => .plain (by decide)
  | (_, condition) :: rest =>
      (condition.shows.between (by decide) (by decide)).append (shows_restText rest)

theorem shows_restText : ∀ rest : Chain, Shows (restText rest) (chainOperands rest)
  | [] => .plain (by decide)
  | (connective, condition) :: rest =>
      have hbefore : '@' ∉ (" " ++ connective.text ++ " (").toList := by
        cases connective <;> decide
      (condition.shows.between hbefore (by decide)).append (shows_restText rest)

end

theorem Assignment.shows (assignment : Assignment) :
    Shows assignment.text assignment.operands :=
  ((Shows.operand (.column assignment.target)).append (.plain (by decide))).append
    (.operand assignment.value)

theorem shows_commas {α : Type} {f : α → String} {g : α → List Operand} {items : List α}
    (h : ∀ x ∈ items, Shows (f x) (g x)) : Shows (commas (items.map f)) (items.flatMap g) :=
  .intercalate (by decide) h

theorem shows_assignmentsText (assignments : List Assignment) :
    Shows (assignmentsText assignments) (assignments.flatMap Assignment.operands) :=
  (Shows.plain (by decide)).append (shows_commas fun assignment _ => assignment.shows)

theorem WherePiece.shows (piece : WherePiece) : Shows piece.text (chainOperands piece.chain) := by
  refine (Shows.plain ?_).append (shows_chainText piece.chain)
  split <;> decide

/-- A piece of a listing shows its columns. -/
theorem shows_listPiece {opens : Bool} {keyword : String} (hkeyword : '@' ∉ keyword.toList)
    {f : Column → String} {columns : List Column}
    (hcolumn : ∀ c ∈ columns, Shows (f c) [.column c]) :
    Shows (listPiece opens keyword (columns.map f)) (columns.map .column) := by
  rw [List.map_eq_flatMap (f := Operand.column)]
  refine (Shows.plain ?_).append (shows_commas hcolumn)
  split
  · simpa using hkeyword
  · decide

theorem OrderPiece.shows (piece : OrderPiece) :
    Shows piece.text (piece.columns.map .column) := by
  refine shows_listPiece (by decide) fun c _ => (Shows.operand (.column c)).append (.plain ?_)
  split <;> decide

theorem GroupPiece.shows (piece : GroupPiece) :
    Shows piece.text (piece.columns.map .column) :=
  shows_listPiece (by decide) fun c _ => .operand (.column c)

theorem unmarked_nat (n : Nat) : '@' ∉ (Text.nat n).toList := by
  intro hmem
  have hdigit : '@'.isDigit = true :=
    Text.isDigit_of_mem_toDigits (n := n) (by simpa [Text.nat] using hmem)
  cases hdigit

theorem shows_limitText (n : Nat) : Shows (limitText n) [] :=
  (Shows.plain (by decide)).append (.plain (unmarked_nat n))

namespace Statement

/-- The operands of the parts after the joins, part by part. -/
def laterOperands (s : Statement) : List (List Operand) :=
  (s.assignments.map (·.flatMap Assignment.operands)).toList ++
    [s.wherePieces.flatMap (chainOperands ·.chain), s.orderPieces.flatMap (·.columns.map .column),
      s.groupPieces.flatMap (·.columns.map .column)] ++ (s.limit.map fun _ => []).toList

/-- The uses of the head come first. -/
theorem operands_eq (s : Statement) :
    s.operands = s.head.counted.map .column ++ s.laterOperands.flatten := by
  have hassigned : (s.assignments.map (·.flatMap Assignment.operands)).toList.flatten =
      (s.assignments.getD []).flatMap Assignment.operands := by
    cases s.assignments <;> simp
  have hnone : (s.limit.map fun _ => ([] : List Operand)).toList.flatten = [] := by
    cases s.limit <;> rfl
  simp [operands, laterOperands, hassigned, hnone]

/-- What holds of each part holds of all. -/
theorem forall₂_laterParts {R : String → List Operand → Prop} (s : Statement)
    (hset : ∀ assignments : List Assignment,
      R (assignmentsText assignments) (assignments.flatMap Assignment.operands))
    (hwhere : R s.whereText (s.wherePieces.flatMap (chainOperands ·.chain)))
    (horder : R s.orderText (s.orderPieces.flatMap (·.columns.map .column)))
    (hgroup : R s.groupText (s.groupPieces.flatMap (·.columns.map .column)))
    (hlimit : ∀ n, R (limitText n) []) : List.Forall₂ R s.laterParts s.laterOperands := by
  have hassigned : List.Forall₂ R (s.assignments.map assignmentsText).toList
      (s.assignments.map (·.flatMap Assignment.operands)).toList := by
    cases s.assignments with
    | none => exact .nil
    | some assignments => exact .cons (hset assignments) .nil
  have hlimited : List.Forall₂ R (s.limit.map limitText).toList
      (s.limit.map fun _ => []).toList := by
    cases s.limit with
    | none => exact .nil
    | some n => exact .cons (hlimit n) .nil
  exact List.rel_append
    (List.rel_append hassigned (.cons hwhere (.cons horder (.cons hgroup .nil)))) hlimited

theorem shows_whereText (s : Statement) :
    Shows s.whereText (s.wherePieces.flatMap (chainOperands ·.chain)) :=
  .join fun piece _ => piece.shows

theorem shows_orderText (s : Statement) :
    Shows s.orderText (s.orderPieces.flatMap (·.columns.map .column)) :=
  .join fun piece _ => piece.shows

theorem shows_groupText (s : Statement) :
    Shows s.groupText (s.groupPieces.flatMap (·.columns.map .column)) :=
  .join fun piece _ => piece.shows

/-- The parts after the joins show what the uses after the head have left. -/
theorem shows_laterParts (s : Statement) : Shows (spaced s.laterParts) s.laterOperands.flatten :=
  .parts (s.forall₂_laterParts shows_assignmentsText s.shows_whereText s.shows_orderText
    s.shows_groupText shows_limitText)

end Statement

end Texts

section Names

theorem unmarked_letterToken (n : Nat) : '@' ∉ letterToken n := by
  induction n using Nat.strongRecOn with
  | ind n ih =>
    have hletter : ∀ i : Fin 26, '@' ≠ Char.ofNat ('a'.toNat + i.val) := by decide
    have hlast : '@' ≠ lastLetter n := hletter ⟨n % 26, Nat.mod_lt n (by decide)⟩
    rw [letterToken_eq]
    split
    · simpa using hlast
    · simpa [hlast] using ih (n / 26 - 1) (by omega)

theorem unmarked_token (n : Nat) : '@' ∉ (Aliases.token n).toList := by
  simpa [Aliases.token] using unmarked_letterToken n

theorem unmarked_of_get? {aliases : Aliases} {table qualifier : String}
    (h : aliases.get? table = some qualifier) : '@' ∉ qualifier.toList := by
  rw [Aliases.get?, Option.map_eq_some_iff] at h
  obtain ⟨n, -, rfl⟩ := h
  exact unmarked_token n

theorem unmarked_text {c : Column} (hqualifier : '@' ∉ c.qualifier.toList)
    (hname : '@' ∉ c.name.toList) : '@' ∉ c.text.toList := by
  simp [Column.text, hqualifier, hname]

theorem unmarked_of_columnOf {schema : Schema} {qualifier : String} {names : List String}
    {columns : List Column} (hfields : ∀ field ∈ schema.fields, '@' ∉ field.column.toList)
    (hqualifier : '@' ∉ qualifier.toList)
    (h : List.Forall₂ (ColumnOf schema qualifier) names columns) :
    ∀ c ∈ columns, '@' ∉ c.text.toList := by
  intro c hmem
  obtain ⟨name, -, field, hfield, rfl⟩ := forall₂_exists_left h c hmem
  have hfield := Schema.mem_of_field? (Schema.field_eq_ok_iff.1 hfield)
  exact unmarked_text hqualifier (hfields field hfield)

/-- The name of a parameter has its only mark at its start. -/
theorem fieldName_proper {column : String} (h : '@' ∉ column.toList) (n : Nat) :
    (Operand.parameter (Params.fieldName column n)).Proper := by
  refine ⟨"_".toList ++ column.toList ++ "_".toList ++ (Text.nat n).toList ++ "_".toList, ?_, ?_⟩
  · simp [Params.fieldName]
  · simp [h, unmarked_nat n]

variable {ctx : Context}

theorem mem_schemas_of_owner {ref : FieldRef} {owner : Schema}
    (hroot : ctx.root ∈ ctx.registry.schemas) (h : ctx.owner ref = .ok owner) :
    owner ∈ ctx.registry.schemas := by
  rcases Context.owner_cases h with ⟨-, rfl⟩ | ⟨-, -, hget⟩
  · exact hroot
  · exact List.mem_of_find?_eq_some (Registry.get_eq_ok_iff.1 hget)

/-- A parameter is named after the column of a field of the registry. -/
theorem Uses.fieldName_of_mem {s t : Scope} {refs : List FieldRef} {shown : List Operand}
    (h : Uses ctx s refs shown t) (hroot : ctx.root ∈ ctx.registry.schemas) {name : String}
    (hmem : .parameter name ∈ shown) : ∃ schema ∈ ctx.registry.schemas, ∃ field ∈ schema.fields,
      ∃ n, name = Params.fieldName field.column n := by
  induction h with
  | done s => cases hmem
  | column _ _ ih => exact ih (by simpa using hmem)
  | @parameter s t ref owner field value refs shown hstored _ ih =>
    rcases List.mem_cons.1 hmem with heq | hlater
    · obtain ⟨howner, hfield, -⟩ := Context.stored_eq_ok_iff.1 hstored
      have hmember := Schema.mem_of_field? (Schema.field_eq_ok_iff.1 hfield)
      exact ⟨owner, mem_schemas_of_owner hroot howner, field, hmember,
        s.params.freeNumber field.column, Operand.parameter.inj heq⟩
    · exact ih hlater
  | keyword _ _ _ _ ih => exact ih hmem

theorem Uses.proper {s t : Scope} {refs : List FieldRef} {shown : List Operand}
    (h : Uses ctx s refs shown t) (hunmarked : ctx.registry.Unmarked)
    (hroot : ctx.root ∈ ctx.registry.schemas) : ∀ operand ∈ shown, operand.Proper := by
  have hcolumn : ∀ {ref : FieldRef} {owner : Schema} {field : Field},
      ctx.stored ref = .ok (owner, field) → '@' ∉ field.column.toList := by
    intro ref owner field hstored
    obtain ⟨howner, hfield, -⟩ := Context.stored_eq_ok_iff.1 hstored
    exact (hunmarked owner (mem_schemas_of_owner hroot howner)).2 field
      (Schema.mem_of_field? (Schema.field_eq_ok_iff.1 hfield))
  induction h with
  | done s => simp
  | column hstored _ ih =>
      exact List.forall_mem_cons.2 ⟨unmarked_text (unmarked_token _) (hcolumn hstored), ih⟩
  | parameter hstored _ ih =>
      exact List.forall_mem_cons.2 ⟨fieldName_proper (hcolumn hstored) _, ih⟩
  | keyword _ _ _ _ ih => exact ih

/-- The parameters that are bound are those that are shown, in order. -/
theorem Uses.names_eq {s t : Scope} {refs : List FieldRef} {shown : List Operand}
    (h : Uses ctx s refs shown t) :
    t.params.names = s.params.names ++ shown.filterMap Operand.name? := by
  induction h with
  | done s => simp
  | column _ _ ih => rw [ih, Scope.params_using]; rfl
  | parameter _ _ ih => simpa [Params.names, Params.bind, Operand.name?] using ih
  | keyword _ hparams _ _ ih => rw [ih, hparams]

/-- No two parameters have the same name. -/
theorem Uses.names_nodup {s t : Scope} {refs : List FieldRef} {shown : List Operand}
    (h : Uses ctx s refs shown t) (hs : s.params.names.Nodup) : t.params.names.Nodup := by
  induction h with
  | done s => exact hs
  | column _ _ ih => exact ih (by rwa [Scope.params_using])
  | @parameter s t ref owner field value refs shown _ _ ih =>
    refine ih ?_
    rw [Params.names_bind, ← List.concat_eq_append]
    exact List.Nodup.concat (s.params.bind_fresh field.column value) hs
  | keyword _ hparams _ _ ih => exact ih (by rwa [hparams])

end Names

section Statements

variable {ctx : Context} {statement : Statement}

theorem unmarked_selectedColumns (hunmarked : ctx.registry.Unmarked)
    (hroot : ctx.root ∈ ctx.registry.schemas) :
    ∀ c ∈ selectedColumns ctx.root, '@' ∉ c.text.toList := by
  intro c hmem
  obtain ⟨field, hfield, rfl⟩ := List.mem_map.1 hmem
  exact unmarked_text (unmarked_token 0)
    ((hunmarked ctx.root hroot).2 field (List.mem_filter.1 hfield).1)

/-- Only the counted column of a head comes from a use; a selection lists columns of the root. -/
theorem shows_headText {clauses : Clauses} {s t : Scope} (hunmarked : ctx.registry.Unmarked)
    (hroot : ctx.root ∈ ctx.registry.schemas) (htable : statement.table = ctx.root.table)
    (hqualifier : statement.qualifier = Aliases.primary)
    (h : (headOf ctx clauses).runOn s = (.ok statement.head, t)) :
    Shows statement.headText (statement.head.counted.map .column) := by
  have hprimary : '@' ∉ Aliases.primary.toList := unmarked_token 0
  have hsource : '@' ∉ (" FROM " ++ statement.source).toList := by
    simp [Statement.source, htable, hqualifier, (hunmarked ctx.root hroot).1, hprimary]
  unfold Statement.headText
  cases hhead : statement.head with
  | update => exact .plain (by simpa using hsource)
  | count counted =>
      have hcount : Shows (countText counted) ((Head.count counted).counted.map .column) := by
        cases counted with
        | none => exact .plain (by decide)
        | some c => exact (Shows.operand (.column c)).between (by decide) (by decide)
      simpa [String.append_assoc] using hcount.append (.plain hsource)
  | select columns =>
      rw [hhead] at h
      obtain rfl := selected_of_headOf h
      have hselect : Shows (selectText statement.qualifier (selectedColumns ctx.root)) [] := by
        refine (Shows.plain (by decide)).append ?_
        split
        · exact .plain (by simpa [hqualifier] using hprimary)
        · exact .intercalate_plain (by decide) (unmarked_selectedColumns hunmarked hroot)
      simpa [String.append_assoc, Head.counted] using hselect.append (.plain hsource)

/-- A join equates columns and shows no parameters. -/
theorem Join.shows {aliases : Aliases} {references : List String} {target : Schema} {join : Join}
    (hunmarked : ctx.registry.Unmarked) (hroot : ctx.root ∈ ctx.registry.schemas)
    (htarget : target ∈ ctx.registry.schemas)
    (h : joinOf ctx.root aliases references target = .ok join) : Shows join.text [] := by
  obtain ⟨field, keys, -, hkeys, hqualifier, hpairs, htable⟩ := joinOf_ok h
  obtain ⟨hleft, hright⟩ := joinPairs_ok (JoinKeys.checked_of_derive hkeys).paired hpairs
  have hjoin : '@' ∉ ("LEFT JOIN " ++ join.table ++ " " ++ join.qualifier ++ " ON ").toList := by
    simp [htable, (hunmarked target htarget).1, unmarked_of_get? hqualifier]
  have hequations : Shows (" AND ".intercalate
      (join.pairs.map fun pair => pair.1.text ++ " = " ++ pair.2.text)) [] := by
    refine .intercalate_plain (by decide) fun pair hmem => ?_
    have htargetColumn := unmarked_of_columnOf (hunmarked target htarget).2
      (unmarked_of_get? hqualifier) hleft pair.1 (List.mem_map_of_mem hmem)
    have hrootColumn := unmarked_of_columnOf (hunmarked ctx.root hroot).2
      (unmarked_token 0) hright pair.2 (List.mem_map_of_mem hmem)
    simp [htargetColumn, hrootColumn]
  exact (Shows.plain hjoin).append hequations

theorem shows_joins {aliases : Aliases} {references : List String} {targets : List Schema}
    {joins : List Join} (hunmarked : ctx.registry.Unmarked)
    (hroot : ctx.root ∈ ctx.registry.schemas)
    (htargets : ∀ target ∈ targets, target ∈ ctx.registry.schemas)
    (h : joinsOf ctx.root aliases references targets = .ok joins) :
    Shows (String.join (joins.map (" " ++ ·.text))) [] := by
  have hjoins := joinsOf_ok h
  clear h
  induction hjoins with
  | nil => exact .plain (by decide)
  | cons hfirst _ ih =>
      obtain ⟨htarget, hrest⟩ := List.forall_mem_cons.1 htargets
      rw [List.map_cons, String.join_cons]
      exact ((Shows.plain (by decide)).append
        (Join.shows hunmarked hroot htarget hfirst)).append (ih hrest)

namespace Statement.MadeOf

variable {clauses : Clauses} {references : List String} {t : Scope}

/-- The head and the joins show no parameters. -/
theorem shows_front (h : statement.MadeOf ctx clauses references t)
    (hunmarked : ctx.registry.Unmarked) (hroot : ctx.root ∈ ctx.registry.schemas) :
    Shows (statement.headText ++ String.join (statement.joins.map (" " ++ ·.text)))
      (statement.head.counted.map .column) := by
  obtain ⟨headed, hrun⟩ := h.head
  have hhead := shows_headText hunmarked hroot h.table h.qualifier hrun
  have hjoins := shows_joins hunmarked hroot
    (fun target hmem => List.mem_of_find?_eq_some (Registry.get_eq_ok_iff.1 (h.known target hmem)))
    h.joins
  simpa using hhead.append hjoins

/-- The parameters are those that the statement shows. -/
theorem names_eq (h : statement.MadeOf ctx clauses references t) :
    t.params.names = statement.operands.filterMap Operand.name? := by
  simpa [Context.scope, Scope.ofTable] using h.uses.names_eq

end Statement.MadeOf

end Statements

/-- The `@` of a compiled text are those of its placeholders: as many as there are parameters, and
from each of them on the text starts with the name of the parameter at its place. -/
theorem placeholders_of_compile {registry : Registry} {root : String} {clauses : Clauses}
    {query : SqlQuery} (hunmarked : registry.Unmarked)
    (h : compile registry root clauses = .ok query) :
    query.sql.toList.count '@' = query.params.size ∧
      List.Forall₂ (fun name rest => name.toList <+: rest) query.params.names
        (Text.startingAt '@' query.sql.toList) := by
  obtain ⟨ctx, hctx, hcompile⟩ := compile_ok h
  obtain ⟨hregistry, hroot⟩ := Context.of_ok hctx
  obtain ⟨statement, t, hrun, rfl⟩ := compileOn_ok hcompile
  obtain ⟨references, headed, assigned, filtered, ordered, steps⟩ := statementSteps_of_ok hrun
  have hmade : statement.MadeOf ctx clauses references t := .of_steps steps
  rw [← hregistry] at hunmarked
  have hshows : Shows statement.text statement.operands := by
    rw [statement.text_eq, statement.operands_eq]
    exact (hmade.shows_front hunmarked hroot).append statement.shows_laterParts
  have hplaced := hshows (hmade.uses.proper hunmarked hroot)
  rw [← hmade.names_eq] at hplaced
  refine ⟨?_, hplaced⟩
  have hcount := hplaced.count_eq
  rwa [Params.names, List.length_map] at hcount

/-- The join stands before both placeholders, though it is made after them. -/
theorem placeholders_of_compile_sample :
    ∃ query, compile sampleLines "Line" sampleLineClauses = .ok query ∧
      query.params.names = ["@_paid_0_", "@_order_id_0_"] ∧
      query.sql.toList.count '@' = 2 ∧
      List.Forall₂ (fun name rest => name.toList <+: rest) ["@_paid_0_", "@_order_id_0_"]
        (Text.startingAt '@' query.sql.toList) := by
  have hok : (compile sampleLines "Line" sampleLineClauses).isOk = true := by
    decide +kernel
  have hbound : (compile sampleLines "Line" sampleLineClauses).toOption.map (·.params.names) =
      some ["@_paid_0_", "@_order_id_0_"] := by
    decide +kernel
  obtain ⟨query, hquery⟩ := except_exists_of_isOk hok
  rw [hquery] at hbound
  have hnames : query.params.names = ["@_paid_0_", "@_order_id_0_"] := Option.some.inj hbound
  obtain ⟨hcount, hplaced⟩ := placeholders_of_compile (by decide +kernel) hquery
  have hsize : query.params.size = 2 := by
    simpa [Params.names, Params.size] using congrArg List.length hnames
  exact ⟨query, hquery, hnames, hcount.trans hsize, hnames ▸ hplaced⟩

end Sql

end EntityQuery
