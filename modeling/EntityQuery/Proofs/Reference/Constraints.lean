import EntityQuery.Database.Basic
import EntityQuery.Proofs.Reference.LookupQuery

/-!
# Constraints of a reference

Only predicates and orderings can constrain a reference. Its children are looked at when they are
added to the key predicate, so a child of another kind is refused if and only if there is a key
predicate: for items without keys it goes unseen.
-/
namespace EntityQuery

namespace Lookup

/-- The first child that cannot constrain the reference. -/
def unfit? (children : List Clause) : Option Clause := children.find? (!constrains ·.kind)

theorem isSome_unfit?_iff {children : List Clause} :
    (unfit? children).isSome = true ↔ ∃ child ∈ children, constrains child.kind = false := by
  simp [unfit?]

variable {field : String} {clauses : Clauses} {children : List Clause} {child : Clause}
  {registry : Registry} {lookup : Lookup}

/-- The fault is that of the first child which is unfit. -/
theorem addChildren_of_unfit (h : unfit? children = some child) :
    addChildren field clauses children = .error (.compile (.childKind child.kind field)) := by
  induction children generalizing clauses with
  | nil => cases h
  | cons first rest ih =>
      unfold unfit? at h
      rw [addChildren]
      cases hkind : first.kind with
      | filter | orderBy | orderByDescending =>
          rw [List.find?_cons_of_neg (by simp [constrains, hkind])] at h
          exact ih h
      | set | groupBy | distinctBy | limit | count | reference =>
          rw [List.find?_cons_of_pos (by simp [constrains, hkind])] at h
          obtain rfl : first = child := Option.some.inj h
          rw [hkind]

theorem query?_of_unfit (hpredicate : lookup.predicate?.isSome = true)
    (h : unfit? children = some child) :
    lookup.query? registry children =
      .error (.compile (.childKind child.kind lookup.field)) := by
  obtain ⟨predicate, hpredicate⟩ := Option.isSome_iff_exists.1 hpredicate
  simp only [query?, clauses?, hpredicate, addChildren_of_unfit h]
  rfl

end Lookup

/-- A reference with a child that cannot constrain it is refused if and only if some item has a key.
Then no call is made, and the items stay as they are. -/
theorem unfit_child_refused_iff {registry : Registry} {source target : String} {node : Clause}
    {items : List FieldReader} {lookup : Lookup}
    (hlookup : Lookup.derive registry source target node items = .ok lookup)
    (hunfit : ∃ child ∈ node.children, Lookup.constrains child.kind = false) :
    ((∃ fault, PreparedLookup.of registry source target node items = .error (.compile fault)) ↔
      lookup.hasKeys = true) ∧
    (lookup.hasKeys = false →
      PreparedLookup.of registry source target node items = .ok ⟨lookup, none⟩) ∧
    (lookup.hasKeys = true → ∃ child, Lookup.unfit? node.children = some child ∧
      PreparedLookup.of registry source target node items =
        .error (.compile (.childKind child.kind lookup.field)) ∧
      ∀ (M : Model) (executor : Executor) (mode : CallMode) (loaded : List (M.Item source))
        (calls : List Call), Database.readers M loaded = items →
          (Database.resolve M ⟨registry, executor⟩ mode target node loaded).run calls =
            ((.error (.compile (.childKind child.kind lookup.field)), loaded), calls)) := by
  obtain ⟨child, hchild⟩ := Option.isSome_iff_exists.1 (Lookup.isSome_unfit?_iff.2 hunfit)
  have hpredicate := Lookup.isSome_predicate?_of_derive hlookup
  have hprepare := Lookup.prepared_of_derive hlookup
  have hwithout (hkeys : lookup.hasKeys = false) :
      PreparedLookup.of registry source target node items = .ok ⟨lookup, none⟩ := by
    have hnone : lookup.predicate? = none := by
      rw [hkeys] at hpredicate
      simpa using hpredicate
    rw [hprepare, Lookup.query?_of_none hnone]
    rfl
  have hwith (hkeys : lookup.hasKeys = true) :
      PreparedLookup.of registry source target node items =
        .error (.compile (.childKind child.kind lookup.field)) := by
    rw [hprepare, Lookup.query?_of_unfit (hpredicate.trans hkeys) hchild]
    rfl
  refine ⟨⟨?_, fun hkeys => ⟨_, hwith hkeys⟩⟩, hwithout,
    fun hkeys => ⟨child, hchild, hwith hkeys, ?_⟩⟩
  · rintro ⟨fault, hfault⟩
    by_contra hkeys
    rw [hwithout (Bool.not_eq_true _ ▸ hkeys)] at hfault
    cases hfault
  · rintro M executor mode loaded calls rfl
    exact Database.run_resolve_of_prepare_error M (hwith hkeys)

/-- The customers of sales, but no more than one: a limit cannot constrain a reference. -/
def sampleLimited : Clause := .reference "Customer" [.of .limit (.literal (.int64 1))]

/-- With a sale that has a customer, the limit is refused. -/
theorem unfit_child_refused_iff_sample :
    (∃ child ∈ sampleLimited.children, Lookup.constrains child.kind = false) ∧
      PreparedLookup.of sampleRegistry "Sale" "Customer" sampleLimited [readSale 1 7] =
        .error (.compile (.childKind .limit "Customer")) := by
  have hunfit : ∃ child ∈ sampleLimited.children, Lookup.constrains child.kind = false :=
    ⟨_, List.mem_cons_self, rfl⟩
  have hok : (Lookup.derive sampleRegistry "Sale" "Customer" sampleLimited
      [readSale 1 7]).toOption.map (fun lookup => (lookup.field, lookup.hasKeys)) =
        some ("Customer", true) := by
    decide +kernel
  obtain ⟨lookup, hlookup, hsame⟩ := except_exists_of_toOption_map hok
  obtain ⟨hfield, hkeys⟩ := Prod.mk.inj hsame
  obtain ⟨-, -, hrefused⟩ := unfit_child_refused_iff hlookup hunfit
  obtain ⟨child, hchild, hprepare, -⟩ := hrefused hkeys
  obtain rfl : .of .limit (.literal (.int64 1)) = child := Option.some.inj hchild
  rw [hfield] at hprepare
  exact ⟨hunfit, hprepare⟩

/-- Without items, the limit is not refused. -/
theorem unfit_child_unseen :
    (Lookup.derive sampleRegistry "Sale" "Customer" sampleLimited []).isOk = true ∧
      (∃ child ∈ sampleLimited.children, Lookup.constrains child.kind = false) ∧
      ¬ ∃ fault, PreparedLookup.of sampleRegistry "Sale" "Customer" sampleLimited [] =
        .error (.compile fault) := by
  refine ⟨by decide +kernel, ⟨_, List.mem_cons_self, rfl⟩, ?_⟩
  have hok : (PreparedLookup.of sampleRegistry "Sale" "Customer" sampleLimited []).isOk = true := by
    decide +kernel
  rintro ⟨fault, hfault⟩
  rw [hfault] at hok
  cases hok

end EntityQuery
