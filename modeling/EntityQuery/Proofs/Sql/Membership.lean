import EntityQuery.Proofs.Sql.Growth
import EntityQuery.Proofs.Results
import EntityQuery.Sql.Compile

/-!
# Membership in lists

Whether a field is one of several values is tested by FIND_IN_SET, to which the values go as one
text with commas between them. A value whose text has a comma is refused, so the pieces of the text
are those of the values again, with one exception: a list of nothing but the empty text becomes the
text of the empty list, in which nothing is found.
-/
namespace EntityQuery.Sql

/-- The place of the first of the comma-separated pieces of `set` that is `item`, counted from one.
It is zero if there is none; an empty `set` has no pieces. -/
def findInSet (item set : String) : Nat :=
  if set = "" then 0
  else
    match (set.toList.splitOn ',').idxOf? item.toList with
    | some n => n + 1
    | none => 0

theorem findInSet_ne_zero_iff (item set : String) :
    findInSet item set ≠ 0 ↔ set ≠ "" ∧ item.toList ∈ set.toList.splitOn ',' := by
  unfold findInSet
  by_cases hset : set = ""
  · simp [hset]
  · rw [if_neg hset]
    cases hplace : (set.toList.splitOn ',').idxOf? item.toList with
    | some n =>
      have hmem := List.isSome_idxOf?.1 (by rw [hplace]; rfl)
      simp [hset, hmem]
    | none => simp [hset, List.idxOf?_eq_none_iff.1 hplace]

section

variable {items : List String}

/-- Items without commas are the pieces of their text. -/
theorem splitOn_intercalate_comma (hplain : ∀ item ∈ items, ',' ∉ item.toList)
    (hsome : items ≠ []) :
    (",".intercalate items).toList.splitOn ',' = items.map String.toList := by
  rw [String.toList_intercalate]
  apply List.splitOn_intercalate
  · intro piece hmem
    obtain ⟨item, hitem, rfl⟩ := List.mem_map.1 hmem
    exact hplain item hitem
  · simpa using hsome

/-- Two kinds of lists become the empty text. -/
theorem intercalate_comma_eq_empty_iff :
    ",".intercalate items = "" ↔ items = [] ∨ items = [""] := by
  match items with
  | [] => simp
  | [item] => simp
  | first :: second :: rest => simp [String.intercalate_cons_cons, String.append_eq_empty_iff]

/-- An item is found in the text of a list if it is in the list, unless nothing but the empty text
is. -/
theorem findInSet_intercalate_ne_zero_iff (hplain : ∀ item ∈ items, ',' ∉ item.toList)
    (item : String) :
    findInSet item (",".intercalate items) ≠ 0 ↔ item ∈ items ∧ items ≠ [""] := by
  rw [findInSet_ne_zero_iff, ne_eq, intercalate_comma_eq_empty_iff, not_or]
  by_cases hsome : items = []
  · simp [hsome]
  · have hinj : item.toList ∈ items.map String.toList ↔ item ∈ items :=
      List.mem_map_of_injective fun _ _ => String.toList_injective
    rw [splitOn_intercalate_comma hplain hsome, hinj]
    tauto

end

/-- A value can be a member of a list if it has a text, and no comma in it. -/
def CanBeMember (value : Value) : Prop := ∃ text, value.listItem? = some text ∧ ',' ∉ text.toList

theorem memberText?_eq_some_iff {value : Value} {text : String} :
    memberText? value = some text ↔ value.listItem? = some text ∧ ',' ∉ text.toList := by
  rw [memberText?, Option.filter_eq_some_iff]
  simp

theorem memberText?_eq_none_iff {value : Value} :
    memberText? value = none ↔ ¬ CanBeMember value := by
  unfold CanBeMember
  simp only [← memberText?_eq_some_iff, ← Option.isSome_iff_exists]
  simp

/-- A list is refused for one of its values, or its texts are those of its values. -/
theorem memberTexts_error_or_ok (values : List Value) :
    (∃ value ∈ values, ¬ CanBeMember value ∧
      memberTexts values = .error (.compile (.listMember value))) ∨
    (∀ value ∈ values, CanBeMember value) ∧ ∃ items, memberTexts values = .ok items ∧
      values.map Value.listItem? = items.map some ∧ ∀ item ∈ items, ',' ∉ item.toList := by
  induction values with
  | nil => exact .inr ⟨by simp, [], rfl, rfl, by simp⟩
  | cons value values ih =>
    by_cases hfirst : CanBeMember value
    · obtain ⟨text, htext, hplain⟩ := hfirst
      have hmember : memberText? value = some text := memberText?_eq_some_iff.2 ⟨htext, hplain⟩
      rcases ih with ⟨refused, hmem, hrefused, herror⟩ | ⟨hrest, items, hitems, htexts, hplains⟩
      · refine .inl ⟨refused, List.mem_cons_of_mem _ hmem, hrefused, ?_⟩
        simp [memberTexts, hmember, herror, Except.map]
      · refine .inr ⟨?_, text :: items, ?_, ?_, ?_⟩
        · exact List.forall_mem_cons.2 ⟨⟨text, htext, hplain⟩, hrest⟩
        · simp [memberTexts, hmember, hitems, Except.map]
        · simp [htext, htexts]
        · exact List.forall_mem_cons.2 ⟨hplain, hplains⟩
    · refine .inl ⟨value, List.mem_cons_self, hfirst, ?_⟩
      simp [memberTexts, memberText?_eq_none_iff.2 hfirst]

/-- The test of a stored field fails after the column has been used, or binds the text of the
list. -/
theorem runOn_membership {ctx : Context} {ref : FieldRef} {owner : Schema} {field : Field}
    (hstored : ctx.stored ref = .ok (owner, field)) (negated : Bool) (values : List Value)
    (s : Scope) :
    (membership ctx negated values ref).runOn s =
      match memberTexts values with
      | .error e => (.error e, s.using ctx owner)
      | .ok items =>
          let bound := (s.using ctx owner).params.bind field.column (.text (",".intercalate items))
          (.ok (.inList negated (s.columnIn owner field) bound.1),
            { s.using ctx owner with params := bound.2 }) := by
  rw [membership, Build.runOn_bind, runOn_column_of_stored hstored]
  simp only [Build.runOn_bind, Build.runOn_ofExcept]
  cases memberTexts values <;> rfl

/-- A call that tests a field for membership in a list, by either method. -/
theorem leafTest_memberCall {method : Method} (hmethod : method = .contains ∨ method = .any)
    (ctx : Context) (negated : Bool) (values : List Value) (ref : FieldRef) :
    leafTest ctx negated (.call method (.list values) [.field ref]) =
      membership ctx negated values ref := by
  rcases hmethod with rfl | rfl <;> rfl

/-- The text that a membership test binds has the texts of the values as its items, and no others,
unless the list is nothing but the empty text. If a value of the list cannot be a member, the test
of a stored field fails for such a value, and no parameter is bound. -/
theorem findInSet_iff_of_memberCall {method : Method}
    (hmethod : method = .contains ∨ method = .any) (ctx : Context) (negated : Bool)
    (values : List Value) (ref : FieldRef) (s : Scope) :
    (∀ test t, (leafTest ctx negated (.call method (.list values) [.field ref])).runOn s =
        (.ok test, t) →
      ∃ column name set, test = .inList negated column name ∧
        t.params.entries = s.params.entries ++ [(name, .text set)] ∧
        ((∀ item, findInSet item set ≠ 0 ↔ ∃ value ∈ values, value.listItem? = some item) ↔
          values.map Value.listItem? ≠ [some ""])) ∧
    ((∃ owner field, ctx.stored ref = .ok (owner, field)) →
      (∃ value ∈ values, ¬ CanBeMember value) →
      ∃ value ∈ values, ¬ CanBeMember value ∧ ∃ t,
        (leafTest ctx negated (.call method (.list values) [.field ref])).runOn s =
          (.error (.compile (.listMember value)), t) ∧ t.params = s.params) := by
  rw [leafTest_memberCall hmethod]
  constructor
  · intro test t hrun
    obtain ⟨owner, field, hstored⟩ : ∃ owner field, ctx.stored ref = .ok (owner, field) := by
      obtain ⟨⟨column, field⟩, u, hcolumn, -⟩ := Build.runOn_bind_eq_ok.1 hrun
      obtain ⟨owner, hstored, -⟩ := stored_of_runOn_column hcolumn
      exact ⟨owner, field, hstored⟩
    rw [runOn_membership hstored] at hrun
    rcases memberTexts_error_or_ok values with ⟨_, -, -, herror⟩ | ⟨-, items, hok, htexts, hplain⟩
    · simp [herror] at hrun
    rw [hok] at hrun
    cases hrun
    refine ⟨_, _, _, rfl, by rw [Params.entries_bind, Scope.params_using], ?_⟩
    have hmember : ∀ item, (∃ value ∈ values, value.listItem? = some item) ↔ item ∈ items := by
      intro item
      rw [← List.mem_map, htexts]
      simp
    have hsingle : values.map Value.listItem? = [some ""] ↔ items = [""] := by
      rw [htexts]
      simp [List.map_eq_cons_iff]
    simp only [findInSet_intercalate_ne_zero_iff hplain, hmember, ne_eq, hsingle]
    constructor
    · intro hfound hempty
      have hnot := (hfound "").2 (by simp [hempty])
      exact hnot.2 hempty
    · intro hsome item
      exact and_iff_left hsome
  · rintro ⟨owner, field, hstored⟩ ⟨value, hmem, hrefused⟩
    rcases memberTexts_error_or_ok values with ⟨refused, hin, hnot, herror⟩ | ⟨hall, -⟩
    · refine ⟨refused, hin, hnot, s.using ctx owner, ?_, s.params_using ctx owner⟩
      rw [runOn_membership hstored, herror]
    · exact absurd (hall value hmem) hrefused

/-- A sample schema of users. -/
def sampleUser : Schema :=
  ⟨"User", "users",
    [⟨"Id", "id", .int64, true, false, none⟩, ⟨"Name", "name", .text, false, false, none⟩,
      ⟨"Age", "age", .int32, false, false, none⟩], []⟩

def sampleUsers : Registry := .ofList [sampleUser]

/-- The users whose name is in a list. -/
def sampleMemberCall (names : List Value) : Expr :=
  .call .any (.list names) [.field ⟨none, "Name"⟩]

/-- Next to another member, the empty text is found. A text with a comma is refused. -/
theorem findInSet_iff_of_memberCall_sample :
    (∃ test t column name set,
      (leafTest ⟨sampleUsers, sampleUser⟩ false (sampleMemberCall [.text "", .bool true])).runOn
        (.ofTable "users") = (.ok test, t) ∧
      test = .inList false column name ∧ t.params.entries = [(name, .text set)] ∧
      ∀ item, findInSet item set ≠ 0 ↔ item = "" ∨ item = "1") ∧
    ∃ t, (leafTest ⟨sampleUsers, sampleUser⟩ false (sampleMemberCall [.text "a,b"])).runOn
        (.ofTable "users") = (.error (.compile (.listMember (.text "a,b"))), t) ∧
      t.params = .empty := by
  have hok : ((leafTest ⟨sampleUsers, sampleUser⟩ false
      (sampleMemberCall [.text "", .bool true])).runOn (.ofTable "users")).1.isOk = true := by
    decide +kernel
  obtain ⟨test, t, hrun⟩ := Build.exists_of_isOk hok
  obtain ⟨hbinds, -⟩ := findInSet_iff_of_memberCall (.inr rfl) ⟨sampleUsers, sampleUser⟩ false
    [.text "", .bool true] ⟨none, "Name"⟩ (.ofTable "users")
  obtain ⟨-, hrefuses⟩ := findInSet_iff_of_memberCall (.inr rfl) ⟨sampleUsers, sampleUser⟩ false
    [.text "a,b"] ⟨none, "Name"⟩ (.ofTable "users")
  constructor
  · obtain ⟨column, name, set, htest, hbound, hiff⟩ := hbinds test t hrun
    refine ⟨test, t, column, name, set, hrun, htest, hbound, fun item => ?_⟩
    rw [hiff.2 (by decide) item]
    simp [Value.listItem?, eq_comm (b := item)]
  · have hrefused : ¬ CanBeMember (.text "a,b") := by
      rw [← memberText?_eq_none_iff]
      decide
    obtain ⟨value, hmem, -, hfails⟩ := hrefuses
      ⟨sampleUser, ⟨"Name", "name", .text, false, false, none⟩, by rfl⟩
      ⟨_, List.mem_singleton_self _, hrefused⟩
    rwa [List.mem_singleton.1 hmem] at hfails

/-- The empty text is a member of the list by itself, but it is not found in what is bound. -/
theorem empty_member_not_found :
    (compile sampleUsers "User" (.ofList [.of .filter (sampleMemberCall [.text ""])])).toOption.map
        (fun query => (query.sql, query.params.entries)) =
      some ("SELECT a.id, a.name, a.age FROM users a WHERE (FIND_IN_SET(a.name, @_name_0_))",
        [("@_name_0_", .text "")]) ∧
      (Value.text "").listItem? = some "" ∧ findInSet "" "" = 0 := by
  decide +kernel

end EntityQuery.Sql
