import EntityQuery.Proofs.Reference.Derive
import EntityQuery.Proofs.Sql.References

/-!
# Joins and lookups

Related entities can be joined in the statement or looked up afterwards. Both ways find the keys on
their own: a lookup is told its navigation field, a join searches for one, and references decide
between several. They still agree: a join equates the columns of just those keys that the lookup for
the deciding reference has.
-/
namespace EntityQuery

/-- The entity that a reference leads to from the root, if it names a navigation field. -/
def Clause.destination? (root : Schema) (node : Clause) : Option String := do
  let field ← (Sql.referenceField root.entity node.expr).toOption
  let navigation ← (root.navigation field).toOption
  return navigation.target

theorem Schema.mem_navigationsTo {schema : Schema} {name : String} {navigation : Navigation}
    (h : schema.navigation name = .ok navigation) :
    name ∈ (schema.navigationsTo navigation.target).map (·.1.name) := by
  obtain ⟨field, hfield, h⟩ := except_bind_eq_ok_iff.1 h
  have hfound := field_eq_ok_iff.1 hfield
  cases hnavigation : field.navigation with
  | none =>
      rw [hnavigation] at h
      cases h
  | some found =>
      rw [hnavigation] at h
      obtain rfl : found = navigation := Except.ok.inj h
      refine List.mem_map.2 ⟨(field, found), ?_, name_of_field? hfound⟩
      exact List.mem_filterMap.2 ⟨field, mem_of_field? hfound, by simp [hnavigation]⟩

namespace Sql

/-- The reference names a navigation field of the root. -/
def Names (root : Schema) (node : Clause) (field : String) : Prop :=
  referenceField root.entity node.expr = .ok field ∧
    ∃ navigation, root.navigation field = .ok navigation

section

variable {root target : Schema} {node : Clause} {nodes : List Clause} {field entity : String}
  {references : List String} {counts : String → Bool}

theorem names_of_referencedFields (h : referencedFields root nodes = .ok references) :
    List.Forall₂ (Names root) nodes references := by
  induction nodes generalizing references with
  | nil =>
      cases h
      exact .nil
  | cons node nodes ih =>
      obtain ⟨field, hfield, h⟩ := except_bind_eq_ok_iff.1 h
      obtain ⟨navigation, hnavigation, h⟩ := except_bind_eq_ok_iff.1 h
      obtain ⟨fields, hfields, h⟩ := except_bind_eq_ok_iff.1 h
      cases h
      exact .cons ⟨hfield, navigation, hnavigation⟩ (ih hfields)

theorem Names.destination?_eq_some_iff (h : Names root node field) :
    node.destination? root = some entity ↔
      ∃ navigation, root.navigation field = .ok navigation ∧ navigation.target = entity := by
  obtain ⟨hfield, navigation, hnavigation⟩ := h
  simp [Clause.destination?, hfield, hnavigation, Except.toOption]

/-- A search among the named fields that finds all fields which lead to the entity, and maybe
others: where it finds none, no reference leads there. -/
theorem find?_destination?_of_none (hnames : List.Forall₂ (Names root) nodes references)
    (hcounts : ∀ name navigation, root.navigation name = .ok navigation →
      navigation.target = entity → counts name = true)
    (h : references.find? counts = none) :
    nodes.find? (·.destination? root = some entity) = none := by
  refine List.find?_eq_none.2 fun node hmem hleads => ?_
  obtain ⟨name, hname, hnamed⟩ := forall₂_exists_right hnames node hmem
  obtain ⟨navigation, hnavigation, htarget⟩ :=
    hnamed.destination?_eq_some_iff.1 (of_decide_eq_true hleads)
  exact List.find?_eq_none.1 h name hname (hcounts name navigation hnavigation htarget)

/-- And where it finds a field that leads to the entity, the first reference that leads there names
this field. -/
theorem find?_destination?_of_some (hnames : List.Forall₂ (Names root) nodes references)
    (hcounts : ∀ name navigation, root.navigation name = .ok navigation →
      navigation.target = entity → counts name = true)
    (hfound : references.find? counts = some field)
    (hleads : ∃ navigation, root.navigation field = .ok navigation ∧ navigation.target = entity) :
    ∃ node, nodes.find? (·.destination? root = some entity) = some node ∧
      referenceField root.entity node.expr = .ok field := by
  induction hnames with
  | nil => cases hfound
  | @cons node name nodes references hnamed _ ih =>
      cases hcount : counts name with
      | true =>
          rw [List.find?_cons_of_pos hcount] at hfound
          obtain rfl : name = field := Option.some.inj hfound
          have hnode : node.destination? root = some entity :=
            hnamed.destination?_eq_some_iff.2 hleads
          exact ⟨node, List.find?_cons_of_pos (decide_eq_true hnode), hnamed.1⟩
      | false =>
          rw [List.find?_cons_of_neg (by simp [hcount])] at hfound
          have hnode : node.destination? root ≠ some entity := by
            intro hnode
            obtain ⟨navigation, hnavigation, htarget⟩ := hnamed.destination?_eq_some_iff.1 hnode
            have hcounts := hcounts name navigation hnavigation htarget
            exact Bool.false_ne_true (hcount.symm.trans hcounts)
          rw [List.find?_cons_of_neg (by simpa using hnode)]
          exact ih hfound

/-- The chosen field is named by the first reference that leads to the entity. If none leads there,
it is the only field that does. -/
theorem navigationField_decided (hreferenced : referencedFields root nodes = .ok references)
    (h : navigationField root references target = .ok field)
    (hleads : ∃ navigation, root.navigation field = .ok navigation ∧
      navigation.target = target.entity) :
    match nodes.find? (·.destination? root = some target.entity) with
    | some node => referenceField root.entity node.expr = .ok field
    | none => ∃ only navigation,
        root.navigationsTo target.entity = [(only, navigation)] ∧ only.name = field := by
  have hnames := names_of_referencedFields hreferenced
  have hcounts : ∀ name navigation, root.navigation name = .ok navigation →
      navigation.target = target.entity →
        ((root.navigationsTo target.entity).map (·.1.name)).contains name = true := by
    intro name navigation hnavigation htarget
    rw [List.contains_iff_mem, ← htarget]
    exact Schema.mem_navigationsTo hnavigation
  unfold navigationField at h
  cases hfound :
      references.find? ((root.navigationsTo target.entity).map (·.1.name)).contains with
  | some found =>
      simp only [hfound] at h
      obtain rfl : found = field := Except.ok.inj h
      obtain ⟨node, hnode, hfield⟩ := find?_destination?_of_some hnames hcounts hfound hleads
      rw [hnode]
      exact hfield
  | none =>
      rw [find?_destination?_of_none hnames hcounts hfound]
      simp only [hfound] at h
      rcases hall : root.navigationsTo target.entity with - | ⟨⟨only, navigation⟩, - | ⟨other, rest⟩⟩
      · simp [hall] at h
      · simp only [hall, List.map_cons, List.map_nil] at h
        exact ⟨only, navigation, rfl, Except.ok.inj h⟩
      · simp [hall] at h

end

/-- The join equates what the lookup for a reference pairs, whatever the items are: columns of its
foreign keys on the left, of its reference keys on the right, in order. -/
def Join.EquatesKeysOf (ctx : Context) (entity : String) (node : Clause) (join : Join) : Prop :=
  ∃ target, ctx.registry.get entity = .ok target ∧ join.table = target.table ∧
    ∀ items, ∃ lookup,
      Lookup.derive ctx.registry ctx.root.entity entity node items = .ok lookup ∧
      List.Forall₂ (ColumnOf target join.qualifier) lookup.foreignKeys (join.pairs.map (·.1)) ∧
      List.Forall₂ (ColumnOf ctx.root Aliases.primary) lookup.referenceKeys (join.pairs.map (·.2))

/-- The join of an entity has the keys of its lookup: for the first reference that leads there, or
else for any reference to the only navigation field that does. -/
def JoinsAsLookedUp (ctx : Context) (nodes : List Clause) (entity : String) (join : Join) : Prop :=
  match nodes.find? (·.destination? ctx.root = some entity) with
  | some node => join.EquatesKeysOf ctx entity node
  | none => ∃ field navigation, ctx.root.navigationsTo entity = [(field, navigation)] ∧
      ∀ node : Clause, node.kind = .reference →
        referenceField ctx.root.entity node.expr = .ok field.name →
          join.EquatesKeysOf ctx entity node

theorem joinsAsLookedUp_of_joinsTo {ctx : Context} {nodes : List Clause} {references : List String}
    {entity : String} {join : Join} (hroot : ctx.registry.get ctx.root.entity = .ok ctx.root)
    (hkinds : ∀ node ∈ nodes, node.kind = .reference)
    (hreferenced : referencedFields ctx.root nodes = .ok references)
    (h : JoinsTo ctx references entity join) : JoinsAsLookedUp ctx nodes entity join := by
  obtain ⟨target, field, keys, htarget, hfield, hkeys, htable, -, hforeign, hreference⟩ := h
  obtain rfl : target.entity = entity := Registry.entity_of_get? (Registry.get_eq_ok_iff.1 htarget)
  have hequates : ∀ node : Clause, node.kind = .reference →
      referenceField ctx.root.entity node.expr = .ok field →
        join.EquatesKeysOf ctx target.entity node := by
    intro node hkind hnamed
    refine ⟨target, htarget, htable, fun items => ?_⟩
    obtain ⟨lookup, hlookup, hreferenceKeys, hforeignKeys⟩ :=
      Lookup.exists_derive hkind hnamed hroot htarget hkeys items
    exact ⟨lookup, hlookup, hforeignKeys ▸ hforeign, hreferenceKeys ▸ hreference⟩
  obtain ⟨navigation, hnavigation, hleads, -, -⟩ := JoinKeys.derive_eq_ok_iff.1 hkeys
  have hdecided := navigationField_decided hreferenced hfield ⟨navigation, hnavigation, hleads⟩
  unfold JoinsAsLookedUp
  cases hfind : nodes.find? (·.destination? ctx.root = some target.entity) with
  | some node =>
      rw [hfind] at hdecided
      exact hequates node (hkinds node (List.mem_of_find?_eq_some hfind)) hdecided
  | none =>
      rw [hfind] at hdecided
      obtain ⟨only, navigation, hall, rfl⟩ := hdecided
      exact ⟨only, navigation, hall, hequates⟩

/-- In compiled clauses, every entity besides the root whose fields are used is joined by the keys
with which it would be looked up. -/
theorem joins_agree_with_lookups {registry : Registry} {root : String} {clauses : Clauses}
    {query : SqlQuery} (h : compile registry root clauses = .ok query) :
    ∃ ctx statement,
      Context.of registry root = .ok ctx ∧
      plan registry root clauses = .ok (statement, query.params) ∧
      query.sql = statement.headText ++ String.join (statement.joins.map (" " ++ ·.text)) ++
        spaced statement.laterParts ∧
      List.Forall₂ (JoinsAsLookedUp ctx (clauses.ofKind .reference)) (clauses.joinedEntities root)
        statement.joins := by
  obtain ⟨ctx, statement, references, t, hctx, hplan, htext, hmade⟩ := statement_of_compile h
  obtain ⟨schema, hschema, hcontext⟩ := except_bind_eq_ok_iff.1 hctx
  cases hcontext
  obtain rfl : schema.entity = root := Registry.entity_of_get? (Registry.get_eq_ok_iff.1 hschema)
  have hkinds : ∀ node ∈ clauses.ofKind .reference, node.kind = .reference := by
    intro node hmem
    simpa using (List.mem_filter.1 hmem).2
  refine ⟨_, statement, hctx, hplan, htext.trans statement.text_eq, hmade.joined.joins.imp ?_⟩
  exact fun _ _ => joinsAsLookedUp_of_joinsTo hschema hkinds hmade.referenced

/-- Two navigation fields lead from a transfer to an order. The one that is referenced is joined,
and its key is the one with which the orders would be looked up. -/
theorem joins_agree_with_lookups_sample :
    ∃ query statement join, compile sampleTransfers "Transfer" sampleTransferClauses = .ok query ∧
      plan sampleTransfers "Transfer" sampleTransferClauses = .ok (statement, query.params) ∧
      statement.joins = [join] ∧
      join.EquatesKeysOf ⟨sampleTransfers, sampleTransfer⟩ "Order" (.reference "From" []) ∧
      join.pairs.map (·.2) = [⟨Aliases.primary, "from_id"⟩] := by
  have hok : (compile sampleTransfers "Transfer" sampleTransferClauses).isOk = true := by
    decide +kernel
  obtain ⟨query, hquery⟩ := except_exists_of_isOk hok
  obtain ⟨ctx, statement, hctx, hplan, -, hjoins⟩ := joins_agree_with_lookups hquery
  obtain rfl : (⟨sampleTransfers, sampleTransfer⟩ : Context) = ctx := Except.ok.inj hctx
  have hentities : sampleTransferClauses.joinedEntities "Transfer" = ["Order"] := by decide +kernel
  rw [hentities] at hjoins
  obtain ⟨join, rest, hagrees, hrest, hall⟩ := List.forall₂_cons_left_iff.1 hjoins
  obtain rfl : rest = [] := List.forall₂_nil_left_iff.1 hrest
  have hequates :
      join.EquatesKeysOf ⟨sampleTransfers, sampleTransfer⟩ "Order" (.reference "From" []) := hagrees
  obtain ⟨target, -, -, hlookups⟩ := id hequates
  obtain ⟨lookup, hlookup, -, hreference⟩ := hlookups []
  have hkeys : lookup.referenceKeys = ["FromId"] := by
    cases hlookup
    rfl
  rw [hkeys] at hreference
  obtain ⟨c, _, ⟨field, hfield, rfl⟩, hnone, hpairs⟩ := List.forall₂_cons_left_iff.1 hreference
  cases List.forall₂_nil_left_iff.1 hnone
  cases hfield
  exact ⟨query, statement, join, hquery, hplan, hall, hequates, hpairs⟩

end Sql

end EntityQuery
