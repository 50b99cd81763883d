import EntityQuery.Proofs.Sql.FragmentState
import EntityQuery.Proofs.Sql.TableAliases
import Mathlib.Logic.Function.Basic

/-!
# Requests for aliases

Tables ask for aliases one after the other, some more than once and some in vain. However they
follow one another, the aliased tables are the primary one and then those that asked with success,
in the order in which they first did. The place of a table never changes, so neither does its alias,
and tokens of different places differ. An index of the places that the requests keep beside the list
finds what a search of the list finds.
-/
namespace EntityQuery.Sql

/-- Aliases with an index: the tables with their aliases, in order, and the place of each table in
the list. -/
structure IndexedAliases where
  assigned : List (String × String)
  index : String → Option ℕ

namespace IndexedAliases

/-- Gives a table the next place, and the token of the place. -/
def assign (aliases : IndexedAliases) (table : String) : IndexedAliases :=
  ⟨aliases.assigned ++ [(table, Aliases.token aliases.assigned.length)],
    Function.update aliases.index table (some aliases.assigned.length)⟩

def ofPrimary (table : String) : IndexedAliases := assign ⟨[], fun _ => none⟩ table

/-- The aliases once a table has a place. -/
def including (aliases : IndexedAliases) (table : String) : IndexedAliases :=
  if (aliases.index table).isSome then aliases else aliases.assign table

/-- The alias that stands at the place of a table. -/
def get? (aliases : IndexedAliases) (table : String) : Option String :=
  (aliases.index table).bind fun place => (aliases.assigned[place]?).map (·.2)

/-- The answer to a request, and the aliases after it. The answer is looked up once the table has a
place; it would be missing if the index led out of the list. -/
def run (aliases : IndexedAliases) (registry : Registry) (table : String) :
    Except QueryError (Option String) × IndexedAliases :=
  if (registry.byTable? table).isNone then (.error (.schema (.unknownTable table)), aliases)
  else (.ok ((aliases.including table).get? table), aliases.including table)

/-- The aliases after several requests. -/
def after (aliases : IndexedAliases) (registry : Registry) (requests : List String) :
    IndexedAliases :=
  requests.foldl (fun aliases table => (aliases.run registry table).2) aliases

end IndexedAliases

namespace Aliases

/-- The answer to a request, and the aliases after it. A request that is refused changes nothing. -/
def run (aliases : Aliases) (registry : Registry) (table : String) :
    Except QueryError String × Aliases :=
  match aliases.request registry table with
  | .ok (qualifier, later) => (.ok qualifier, later)
  | .error e => (.error e, aliases)

/-- The aliases after several requests. -/
def after (aliases : Aliases) (registry : Registry) (requests : List String) : Aliases :=
  requests.foldl (fun aliases table => (aliases.run registry table).2) aliases

variable {aliases : Aliases} {registry : Registry} {table : String}

theorem run_of_unknown (h : registry.byTable? table = none) :
    aliases.run registry table = (.error (.schema (.unknownTable table)), aliases) := by
  rw [run, request_eq, h]
  rfl

theorem run_of_known (h : (registry.byTable? table).isSome = true) :
    aliases.run registry table =
      (.ok (token (aliases.tables.idxOf table)), aliases.including table) := by
  have hknown : (registry.byTable? table).isNone = false := by simpa using h
  rw [run, request_eq, hknown]
  rfl

theorem after_cons (aliases : Aliases) (registry : Registry) (table : String)
    (requests : List String) :
    aliases.after registry (table :: requests) =
      (aliases.run registry table).2.after registry requests := rfl

/-- Requests add the tables that are known and new, each where it is first requested. -/
theorem tables_after (aliases : Aliases) (registry : Registry) (requests : List String) :
    (aliases.after registry requests).tables = aliases.tables ++
      ((requests.filter fun table => (registry.byTable? table).isSome).removeAll
        aliases.tables).eraseDups := by
  induction requests generalizing aliases with
  | nil => exact (List.append_nil _).symm
  | cons table requests ih =>
      rw [after_cons]
      by_cases hknown : (registry.byTable? table).isSome = true
      · rw [run_of_known hknown, ih, tables_including, List.filter_cons, if_pos hknown]
        split
        · next hmem =>
            rw [List.cons_removeAll, if_neg (by simpa using hmem)]
        · next hnew =>
            rw [eraseDups_removeAll_cons hnew, List.append_assoc, List.singleton_append]
      · rw [run_of_unknown (by simpa using hknown), ih, List.filter_cons, if_neg hknown]

theorem tables_prefix_after (aliases : Aliases) (registry : Registry) (requests : List String) :
    aliases.tables <+: (aliases.after registry requests).tables := by
  rw [tables_after]
  exact List.prefix_append _ _

/-- A table that has an alias is answered with it, and nothing changes. -/
theorem run_of_get? (hknown : (registry.byTable? table).isSome = true) {qualifier : String}
    (h : aliases.get? table = some qualifier) :
    aliases.run registry table = (.ok qualifier, aliases) := by
  have hmem : table ∈ aliases.tables := by
    obtain ⟨place, hplace, -⟩ := Option.map_eq_some_iff.1 h
    exact List.isSome_idxOf?.1 (by rw [hplace]; rfl)
  rw [get?_of_mem hmem, Option.some.injEq] at h
  rw [run_of_known hknown, h, including, if_pos hmem]

/-- The alias that a request is answered with is kept, whatever is requested later. -/
theorem get?_run (aliases : Aliases) (hknown : (registry.byTable? table).isSome = true)
    (later : List String) :
    ((aliases.run registry table).2.after registry later).get? table =
      some (token (aliases.tables.idxOf table)) := by
  rw [run_of_known hknown]
  refine get?_of_prefix (tables_prefix_after _ registry later) ?_
  rw [get?_of_mem (mem_including aliases table), idxOf_including]

/-- Where no table is listed twice, a table is found under the alias that it is listed with. -/
theorem get?_eq_some_iff_mem (h : aliases.tables.Nodup) {qualifier : String} :
    aliases.get? table = some qualifier ↔ (table, qualifier) ∈ aliases.toList := by
  rw [get?, Option.map_eq_some_iff, toList, List.mem_map]
  constructor
  · rintro ⟨place, hplace, rfl⟩
    obtain ⟨hlt, rfl, -⟩ := List.idxOf?_eq_some_iff.1 hplace
    exact ⟨(_, place), List.mk_mem_zipIdx_iff_getElem?.2 (List.getElem?_eq_getElem hlt), rfl⟩
  · rintro ⟨⟨table', place⟩, hmem, hentry⟩
    obtain ⟨rfl, rfl⟩ := Prod.mk.inj hentry
    have hplace := List.mk_mem_zipIdx_iff_getElem?.1 hmem
    obtain ⟨hlt, rfl⟩ := List.getElem?_eq_some_iff.1 hplace
    refine ⟨place, ?_, rfl⟩
    rw [idxOf?_of_mem (List.getElem_mem hlt), h.idxOf_getElem place hlt]

/-! ### An index of the places -/

/-- The aliases with an index of the places in their list. -/
def indexed (aliases : Aliases) : IndexedAliases :=
  ⟨aliases.toList, fun table => aliases.tables.idxOf? table⟩

theorem get?_indexed (aliases : Aliases) (table : String) :
    aliases.indexed.get? table = aliases.get? table := by
  show (aliases.tables.idxOf? table).bind _ = (aliases.tables.idxOf? table).map token
  cases hplace : aliases.tables.idxOf? table with
  | none => rfl
  | some place =>
      obtain ⟨hlt, -, -⟩ := List.idxOf?_eq_some_iff.1 hplace
      simp [indexed, toList, hlt]

/-- A new table stands at the end, and the others where they stood. -/
theorem idxOf?_concat {tables : List String} {table : String} (h : table ∉ tables)
    (other : String) :
    (tables ++ [table]).idxOf? other =
      if other = table then some tables.length else tables.idxOf? other := by
  split
  · next hsame =>
      subst hsame
      rw [idxOf?_of_mem (by simp), List.idxOf_append_of_notMem h, List.idxOf_cons_self]
      rfl
  · next hother =>
      by_cases hmem : other ∈ tables
      · rw [idxOf?_of_mem (List.mem_append_left _ hmem), List.idxOf_append_of_mem hmem,
          idxOf?_of_mem hmem]
      · rw [List.idxOf?_eq_none_iff.2 hmem, List.idxOf?_eq_none_iff.2 (by simp [hmem, hother])]

theorem assign_indexed {aliases : Aliases} {table : String} (h : table ∉ aliases.tables) :
    aliases.indexed.assign table = (aliases.including table).indexed := by
  have htables : (aliases.including table).tables = aliases.tables ++ [table] := by
    rw [tables_including, if_neg h]
  have hlength : aliases.indexed.assigned.length = aliases.tables.length := by
    simp [indexed, toList]
  have hassigned : (aliases.including table).toList =
      aliases.toList ++ [(table, token aliases.tables.length)] := by
    rw [toList, htables, List.zipIdx_append, List.map_append, Nat.zero_add]
    rfl
  have hindex : (fun other => (aliases.including table).tables.idxOf? other) =
      Function.update (fun other => aliases.tables.idxOf? other) table
        (some aliases.tables.length) := by
    funext other
    rw [htables, idxOf?_concat h, Function.update_apply]
  show _ = IndexedAliases.mk (aliases.including table).toList
    fun other => (aliases.including table).tables.idxOf? other
  rw [IndexedAliases.assign, hlength, hassigned, hindex]
  rfl

theorem including_indexed (aliases : Aliases) (table : String) :
    aliases.indexed.including table = (aliases.including table).indexed := by
  unfold IndexedAliases.including
  by_cases hmem : table ∈ aliases.tables
  · have hplace : (aliases.indexed.index table).isSome = true := List.isSome_idxOf?.2 hmem
    rw [if_pos hplace, including, if_pos hmem]
  · have hnone : aliases.tables.idxOf? table = none := List.idxOf?_eq_none_iff.2 hmem
    rw [if_neg (by simp [indexed, hnone]), assign_indexed hmem]

theorem ofPrimary_indexed (primaryTable : String) :
    (ofPrimary primaryTable).indexed = .ofPrimary primaryTable := by
  refine (IndexedAliases.mk.injEq ..).mpr ⟨rfl, ?_⟩
  funext other
  show [primaryTable].idxOf? other = Function.update (fun _ => none) primaryTable (some 0) other
  rw [Function.update_apply]
  exact idxOf?_concat List.not_mem_nil other

/-- An index changes no answer, and it goes on leading to the places of the tables. -/
theorem run_indexed (aliases : Aliases) (registry : Registry) (table : String) :
    aliases.indexed.run registry table =
      ((aliases.run registry table).1.map some, (aliases.run registry table).2.indexed) := by
  by_cases hknown : (registry.byTable? table).isSome = true
  · have hget : (aliases.including table).get? table =
        some (token (aliases.tables.idxOf table)) := by
      rw [get?_of_mem (mem_including aliases table), idxOf_including]
    rw [IndexedAliases.run, if_neg (by simpa [Option.isSome_iff_ne_none] using hknown),
      including_indexed, get?_indexed, hget, run_of_known hknown]
    rfl
  · rw [run_of_unknown (by simpa using hknown), IndexedAliases.run, if_pos (by simpa using hknown)]
    rfl

theorem after_indexed (aliases : Aliases) (registry : Registry) (requests : List String) :
    aliases.indexed.after registry requests = (aliases.after registry requests).indexed := by
  induction requests generalizing aliases with
  | nil => rfl
  | cons table requests ih =>
      show ((aliases.indexed.run registry table).2).after registry requests = _
      rw [run_indexed]
      exact ih _

/-- The tables besides the primary one that are requested with success, in the order in which they
first are. -/
def requestedTables (registry : Registry) (primaryTable : String) (requests : List String) :
    List String :=
  (requests.filter fun table =>
    table ≠ primaryTable ∧ (registry.byTable? table).isSome = true).eraseDups

theorem tables_after_ofPrimary (registry : Registry) (primaryTable : String)
    (requests : List String) :
    ((ofPrimary primaryTable).after registry requests).tables =
      primaryTable :: requestedTables registry primaryTable requests := by
  rw [tables_after, requestedTables, List.removeAll, List.filter_filter]
  refine congrArg (fun others => primaryTable :: List.eraseDups others) ?_
  refine List.filter_congr fun table _ => ?_
  simp [tables, ofPrimary]

theorem nodup_tables_after_ofPrimary (registry : Registry) (primaryTable : String)
    (requests : List String) :
    ((ofPrimary primaryTable).after registry requests).tables.Nodup := by
  rw [tables_after_ofPrimary, requestedTables]
  refine List.nodup_cons.2 ⟨fun hmem => ?_, nodup_eraseDups _⟩
  simp [List.mem_eraseDups] at hmem

/-- After any requests on the aliases of a primary table, over any registry, the aliased tables are
the primary one and the others that were requested with success, in the order of first request, each
with the token of its place; the first token is `a`. A table is found under the alias that it is
listed with, and under no other; different tables have different aliases. An index that is kept by
the requests themselves leads to the places in the list, and changes no answer. A table that the
registry does not know is refused, and nothing changes. A table that it knows is answered with an
alias, and whatever is requested later, it is answered with this alias again and is found under
it. -/
theorem aliases_of_requests (registry : Registry) (primaryTable : String)
    (requests : List String) :
    let aliases := (ofPrimary primaryTable).after registry requests
    (∀ place, aliases.toList[place]? =
      (primaryTable :: requestedTables registry primaryTable requests)[place]?.map
        fun table => (table, token place)) ∧
    aliases.toList.head? = some (primaryTable, "a") ∧
    (∀ table qualifier, aliases.get? table = some qualifier ↔
      (table, qualifier) ∈ aliases.toList) ∧
    (∀ table table' qualifier, (table, qualifier) ∈ aliases.toList →
      (table', qualifier) ∈ aliases.toList → table = table') ∧
    (IndexedAliases.ofPrimary primaryTable).after registry requests =
      ⟨aliases.toList, fun table => aliases.tables.idxOf? table⟩ ∧
    (∀ table, ((IndexedAliases.ofPrimary primaryTable).after registry requests).get? table =
        aliases.get? table ∧
      (((IndexedAliases.ofPrimary primaryTable).after registry requests).run registry table).1 =
        (aliases.run registry table).1.map some) ∧
    (∀ table, registry.byTable? table = none →
      aliases.run registry table = (.error (.schema (.unknownTable table)), aliases)) ∧
    ∀ table, (registry.byTable? table).isSome = true → ∃ qualifier,
      (aliases.run registry table).1 = .ok qualifier ∧
      ∀ later, ((aliases.run registry table).2.after registry later).get? table = some qualifier ∧
        ((aliases.run registry table).2.after registry later).run registry table =
          (.ok qualifier, (aliases.run registry table).2.after registry later) := by
  intro aliases
  have hlisted {table qualifier : String} :
      aliases.get? table = some qualifier ↔ (table, qualifier) ∈ aliases.toList :=
    get?_eq_some_iff_mem (nodup_tables_after_ofPrimary registry primaryTable requests)
  have hindexed : (IndexedAliases.ofPrimary primaryTable).after registry requests =
      aliases.indexed := by
    rw [← ofPrimary_indexed, after_indexed]
  refine ⟨fun place => ?_, ?_, fun _ _ => hlisted, fun table table' qualifier h h' => ?_, hindexed,
    fun table => ?_, fun _ => run_of_unknown, fun table hknown => ?_⟩
  · rw [← tables_after_ofPrimary, toList, List.getElem?_map, List.getElem?_zipIdx, Option.map_map,
      Nat.zero_add]
    rfl
  · have hprimary : aliases.primaryTable = primaryTable :=
      (List.cons.inj (tables_after_ofPrimary registry primaryTable requests)).1
    rw [head?_toList, hprimary, primary_eq]
  · exact get?_inj (hlisted.2 h) (hlisted.2 h')
  · rw [hindexed, run_indexed]
    exact ⟨aliases.get?_indexed table, rfl⟩
  · have hkept (later : List String) := aliases.get?_run hknown later
    exact ⟨_, congrArg Prod.fst (run_of_known hknown),
      fun later => ⟨hkept later, run_of_get? hknown (hkept later)⟩⟩

/-- The orders ask twice and keep their alias; an unknown table is refused in between. -/
theorem aliases_of_requests_sample :
    let aliases := (ofPrimary "lines").after sampleLines ["orders", "attic", "lines", "orders"]
    aliases.toList = [("lines", "a"), ("orders", "b")] ∧ aliases.get? "orders" = some "b" ∧
      aliases.run sampleLines "attic" = (.error (.schema (.unknownTable "attic")), aliases) ∧
      ∃ qualifier, (aliases.run sampleLines "orders").1 = .ok qualifier ∧
        ((aliases.run sampleLines "orders").2.after sampleLines ["lines"]).get? "orders" =
          some qualifier := by
  intro aliases
  obtain ⟨-, -, hlisted, -, -, -, hunknown, hknown⟩ :=
    aliases_of_requests sampleLines "lines" ["orders", "attic", "lines", "orders"]
  have hlist : aliases.toList = [("lines", "a"), ("orders", "b")] := by decide +kernel
  obtain ⟨qualifier, hanswer, hkept⟩ := hknown "orders" (by decide +kernel)
  refine ⟨hlist, (hlisted _ _).2 (hlist ▸ by simp), hunknown _ (by rfl), qualifier, hanswer,
    (hkept ["lines"]).1⟩

end Aliases

end EntityQuery.Sql
