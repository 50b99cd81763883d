import EntityQuery.Error.Basic
import EntityQuery.Value.Text

/-!
# Parameters

The parameters of a statement: values in order, each under a name of its own. A value that is bound
for a field gets the first free name `@_<field>_<n>_`; a bound value never changes.
-/
namespace EntityQuery.Sql

/-- The parameters of a statement, in the order of binding. -/
structure Params where
  entries : List (String × Value)
  deriving DecidableEq, Repr, Inhabited

namespace Params

def empty : Params := ⟨[]⟩

instance : EmptyCollection Params := ⟨empty⟩

/-- The names in use, in order. -/
def names (params : Params) : List String := params.entries.map (·.1)

def contains (params : Params) (name : String) : Bool := params.names.contains name

/-- The value under a name. -/
def get? (params : Params) (name : String) : Option Value := params.entries.lookup name

/-- The generated name number `n` of a field. -/
def fieldName (field : String) (n : Nat) : String := "@_" ++ field ++ "_" ++ Text.nat n ++ "_"

/-- A number that all lesser numbers precede in use. Names that were bound one after the other are
counted in one pass, which is where the search for a free one starts. -/
def usedBelow (params : Params) (field : String) : Nat :=
  params.names.foldl (fun n name => if name = fieldName field n then n + 1 else n) 0

/-- The least number whose generated name is free. From any start, one of `size + 1` numbers is. -/
def freeNumber (params : Params) (field : String) : Nat :=
  let start := params.usedBelow field
  start + ((List.range (params.entries.length + 1)).find? fun n =>
    !params.contains (fieldName field (start + n))).getD params.entries.length

/-- Binds a value for a field; gives the name with the parameters. -/
def bind (params : Params) (field : String) (value : Value) : String × Params :=
  let name := fieldName field (params.freeNumber field)
  (name, ⟨params.entries ++ [(name, value)]⟩)

/-- Adds a value under a name, unless the name is in use. -/
def insert (params : Params) (name : String) (value : Value) : Except QueryError Params :=
  if params.contains name then .error (.compile (.reservedParameter name))
  else .ok ⟨params.entries ++ [(name, value)]⟩

/-- Adds entries in turn up to the first whose name is in use. What was added before it stays. -/
def extend (params : Params) : List (String × Value) → Except QueryError Unit × Params
  | [] => (.ok (), params)
  | (name, value) :: rest =>
      match params.insert name value with
      | .ok params => params.extend rest
      | .error e => (.error e, params)

def size (params : Params) : Nat := params.entries.length

def isEmpty (params : Params) : Bool := params.entries.isEmpty

@[simp] theorem names_empty : empty.names = [] := rfl

theorem contains_iff {params : Params} {name : String} :
    params.contains name = true ↔ name ∈ params.names := by
  simp [contains]

/-- Different numbers give different names. -/
theorem fieldName_inj {field : String} {m n : Nat} (h : fieldName field m = fieldName field n) :
    m = n := by
  have digits : Nat.toDigits 10 m = Nat.toDigits 10 n := by
    simpa [fieldName, Text.nat] using congrArg String.toList h
  simpa [Text.readNat?_toDigits] using congrArg Text.readNat? digits

/-- More numbers are tried than names are in use, so one of the names is free. -/
theorem exists_free (params : Params) (field : String) (start : Nat) :
    ∃ n ∈ List.range (params.entries.length + 1),
      params.contains (fieldName field (start + n)) = false := by
  refine Classical.byContradiction fun none_free => ?_
  have used : ∀ n ∈ List.range (params.entries.length + 1),
      fieldName field (start + n) ∈ params.names := by
    intro n hn
    refine contains_iff.1 (Classical.byContradiction fun free => none_free ⟨n, hn, ?_⟩)
    simpa using free
  let generated := (List.range (params.entries.length + 1)).map fun n => fieldName field (start + n)
  have distinct : generated.Nodup :=
    List.Pairwise.map _
      (fun _ _ differ same => differ (Nat.add_left_cancel (fieldName_inj same))) List.nodup_range
  have taken : generated ⊆ params.names := by
    intro name hname
    obtain ⟨n, hn, rfl⟩ := List.mem_map.1 hname
    exact used n hn
  have fits := distinct.length_le_of_subset taken
  rw [List.length_map, List.length_range, names, List.length_map] at fits
  omega

/-- The offset of the free number from the start of the search. -/
theorem find_free (params : Params) (field : String) :
    ∃ n, (List.range (params.entries.length + 1)).find?
        (fun n => !params.contains (fieldName field (params.usedBelow field + n))) = some n ∧
      params.freeNumber field = params.usedBelow field + n := by
  obtain ⟨n, hn, free⟩ := params.exists_free field (params.usedBelow field)
  obtain ⟨m, hm⟩ : ∃ m, (List.range (params.entries.length + 1)).find?
      (fun n => !params.contains (fieldName field (params.usedBelow field + n))) = some m :=
    Option.isSome_iff_exists.1 (List.find?_isSome.2 ⟨n, hn, by simp [free]⟩)
  exact ⟨m, hm, by rw [freeNumber, hm, Option.getD_some]⟩

/-- The generated name is free. -/
theorem contains_freeNumber (params : Params) (field : String) :
    params.contains (fieldName field (params.freeNumber field)) = false := by
  obtain ⟨n, found, offset⟩ := params.find_free field
  rw [offset]
  simpa using List.find?_some found

/-- One pass counts only names that it has met. -/
theorem mem_of_lt_foldl {field : String} {used : List String} (names : List String) {m : Nat}
    (met : names ⊆ used) (below : ∀ n < m, fieldName field n ∈ used) :
    ∀ n < names.foldl (fun n name => if name = fieldName field n then n + 1 else n) m,
      fieldName field n ∈ used := by
  induction names generalizing m with
  | nil => exact below
  | cons name names ih =>
      rw [List.foldl_cons]
      refine ih (fun _ h => met (List.mem_cons_of_mem _ h)) ?_
      split
      · next next_name =>
          intro n hn
          rcases Nat.lt_succ_iff_lt_or_eq.1 hn with less | rfl
          · exact below n less
          · exact next_name ▸ met List.mem_cons_self
      · exact below

/-- All lesser numbers are taken. -/
theorem contains_of_lt_freeNumber {params : Params} {field : String} {n : Nat}
    (h : n < params.freeNumber field) : params.contains (fieldName field n) = true := by
  by_cases counted : n < params.usedBelow field
  · refine contains_iff.2 (mem_of_lt_foldl params.names (List.Subset.refl _) ?_ n counted)
    intro _ h
    exact absurd h (Nat.not_lt_zero _)
  · obtain ⟨offset, found, free⟩ := params.find_free field
    have least := (List.find?_range_eq_some.1 found).2.2
    have tried := least (n - params.usedBelow field) (by omega)
    rw [Nat.add_sub_cancel' (by omega)] at tried
    simpa using tried

@[simp] theorem entries_bind (params : Params) (field : String) (value : Value) :
    (params.bind field value).2.entries =
      params.entries ++ [((params.bind field value).1, value)] := rfl

@[simp] theorem names_bind (params : Params) (field : String) (value : Value) :
    (params.bind field value).2.names = params.names ++ [(params.bind field value).1] := by
  simp [names]

/-- A bound value gets a name of its own. -/
theorem bind_fresh (params : Params) (field : String) (value : Value) :
    (params.bind field value).1 ∉ params.names := by
  rw [← contains_iff]
  simp [bind, contains_freeNumber]

/-- A value is added exactly if its name is free. -/
theorem insert_eq_ok_iff {params params' : Params} {name : String} {value : Value} :
    params.insert name value = .ok params' ↔
      name ∉ params.names ∧ params' = ⟨params.entries ++ [(name, value)]⟩ := by
  rw [← contains_iff, insert]
  split
  · next taken => simp [taken]
  · next free => simp [free, eq_comm (a := params')]

end Params

end EntityQuery.Sql
