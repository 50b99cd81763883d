import EntityQuery.Proofs.Reference.Batch

/-!
# Merging rows

The rows of a lookup are put into the items by their keys. As a specification each item looks
through all rows for those with its own key; the index, which is built once for all items, gives it
the same rows in the same order.
-/
namespace EntityQuery

namespace Lookup

section

variable (M : Model) (lookup : Lookup) (entity : String) (target : Schema) (rows : List Row)

/-- Whether the rows can be merged: it can be told of each whether it has a key, those with a key
can be read as instances, and for a single instance no key occurs twice. -/
structure Mergeable : Prop where
  fields : ∀ name ∈ lookup.foreignKeys, ∃ field, target.field name = .ok field
  keyed : ∀ row ∈ rows, target.KeyReadable row lookup.foreignKeys
  readable : ∀ row ∈ rows, target.keyOf? row lookup.foreignKeys ≠ none →
    ∃ found, M.ofRow entity row target = .ok found
  distinct : lookup.many = false →
    (rows.filterMap (target.keyOf? · lookup.foreignKeys)).Nodup

/-- What becomes of an item with a key: it takes what the rows with the key hold, all of them as a
collection, or else the one that there is, if any. -/
def Receives {source : String} (item : M.Item source) (key : Option (List Value))
    (item' : M.Item source) : Prop :=
  ∃ found,
    List.Forall₂ (fun row held => M.ofRow entity row target = .ok held)
      (target.rowsWith lookup.foreignKeys rows key) found ∧
    (lookup.many = true → M.setMany entity item lookup.field found = .ok item') ∧
    (lookup.many = false → ∃ one : Option (M.Item entity), found = one.toList ∧
      M.setOne entity item lookup.field one = .ok item')

end

variable {M : Model} {lookup : Lookup} {entity : String} {target : Schema} {names : List String}
  {rows : List Row}

theorem mergeable_iff : Mergeable M lookup entity target rows ↔
    (∃ fields, keyFields target lookup.foreignKeys = .ok fields) ∧
      Indexable M entity target lookup.foreignKeys lookup.many [] rows := by
  rw [exists_keyFields_iff]
  constructor
  · intro h
    exact ⟨h.fields, h.keyed, h.readable, by simpa using h.distinct⟩
  · rintro ⟨hfields, h⟩
    exact ⟨hfields, h.keyed, h.readable, by simpa using h.distinct⟩

/-- The index has for a key what the rows with the key hold, one for each. -/
theorem forall₂_matching (hreadable : ∀ row ∈ rows, target.keyOf? row names ≠ none →
      ∃ found, M.ofRow entity row target = .ok found) (key : Option (List Value)) :
    List.Forall₂ (fun row held => M.ofRow entity row target = .ok held)
      (target.rowsWith names rows key)
      (Index.matching (rows.filterMap (keyedItem? M entity target names)) key) := by
  have hwith : ∀ row ∈ target.rowsWith names rows key, ∃ found,
      M.ofRow entity row target = .ok found := by
    intro row hmem
    cases key with
    | none => cases hmem
    | some key =>
        obtain ⟨hrow, hkey⟩ := List.mem_filter.1 hmem
        exact hreadable row hrow (by simp [of_decide_eq_true hkey])
  rw [matching_entries]
  generalize target.rowsWith names rows key = keyed at hwith ⊢
  induction keyed with
  | nil => exact .nil
  | cons row later ih =>
      obtain ⟨⟨found, hfound⟩, hlater⟩ := List.forall_mem_cons.1 hwith
      have hheld : ((row :: later).filterMap fun row => (M.ofRow entity row target).toOption) =
          found :: later.filterMap fun row => (M.ofRow entity row target).toOption := by
        simp [hfound, Except.toOption]
      rw [hheld]
      exact .cons hfound (ih hlater)

/-- If no key occurs twice, an item has one row at most. -/
theorem length_rowsWith_le_one (h : (rows.filterMap (target.keyOf? · names)).Nodup)
    (key : Option (List Value)) : (target.rowsWith names rows key).length ≤ 1 := by
  cases key with
  | none => simp [Schema.rowsWith]
  | some values =>
      have hcount := List.nodup_iff_count_le_one.1 h (keyTuple values)
      rw [List.count_filterMap] at hcount
      rw [Schema.rowsWith, ← List.countP_eq_length_filter]
      simpa [beq_eq_decide] using hcount

/-- An item that takes what the index has for its key takes what its rows hold. -/
theorem receives_of_place {source : String} {item item' : M.Item source}
    {key : Option (List Value)} (h : Mergeable M lookup entity target rows)
    (hplace : place M lookup entity item (Index.matching
      (rows.filterMap (keyedItem? M entity target lookup.foreignKeys)) key) = .ok item') :
    Receives M lookup entity target rows item key item' := by
  have hfound := forall₂_matching h.readable key
  refine ⟨_, hfound, fun hmany => ?_, fun hmany => ?_⟩
  · rwa [place, if_pos hmany] at hplace
  · rw [place, if_neg (by simp [hmany])] at hplace
    have hlength := length_rowsWith_le_one (h.distinct hmany) key
    rw [hfound.length_eq] at hlength
    refine ⟨_, ?_, hplace⟩
    rcases hmatching : Index.matching (rows.filterMap
        (keyedItem? M entity target lookup.foreignKeys)) key with _ | ⟨one, _ | ⟨two, more⟩⟩
    · rfl
    · rfl
    · simp [hmatching] at hlength

/-- Merging rows into items that take what is put into them succeeds if and only if the rows can be
merged, and then every item takes what the rows with its key hold. -/
theorem merge_attaches_matching {source : String} {items : List (M.Item source)}
    (hset : M.SettersSucceed source entity) (hlength : items.length = lookup.itemKeys.length) :
    (∀ registry : Registry, registry.get lookup.target = .ok target →
      lookup.attach M registry entity rows items = lookup.merge M entity target rows items) ∧
    ((lookup.merge M entity target rows items).1 = .ok () ↔
      Mergeable M lookup entity target rows) ∧
    ((lookup.merge M entity target rows items).1 = .ok () →
      List.Forall₂ (fun entry item' =>
          Receives M lookup entity target rows entry.1 entry.2 item')
        (items.zip lookup.itemKeys) (lookup.merge M entity target rows items).2) := by
  obtain ⟨hiff, hplaced⟩ := merge_spec (exists_place hset lookup) hlength
  rw [← mergeable_iff] at hiff
  refine ⟨fun registry htarget => attach_eq_merge htarget rows items, hiff, fun hok => ?_⟩
  exact (hplaced hok).imp fun _ _ hplace => receives_of_place (hiff.1 hok) hplace

/-- The lookup of the customers of three sales, the second without a key. -/
def sampleMerge : Lookup :=
  ⟨"Sale", "Customer", "Customer", false, ["Region", "CustomerNo"], ["Region", "No"],
    [some [.int32 2, .int64 9], none, some [.int64 2, .int64 9]]⟩

/-- The rows of two customers, and between them one without a region. -/
def sampleCustomerRows : List Row :=
  [⟨[("region", .int32 1), ("no", .int32 7)]⟩, ⟨[("region", .null)]⟩,
    ⟨[("region", .int32 2), ("no", .int32 9)]⟩]

theorem merge_attaches_matching_sample :
    (sampleMerge.merge sampleModel "Customer" sampleCustomer sampleCustomerRows sampleSales).1 =
        .ok () ∧
      List.Forall₂ (fun entry sale =>
          Receives sampleModel sampleMerge "Customer" sampleCustomer sampleCustomerRows
            entry.1 entry.2 sale)
        (sampleSales.zip sampleMerge.itemKeys) sampleLoaded := by
  have hset : sampleModel.SettersSucceed "Sale" "Customer" :=
    ⟨fun _ _ _ => ⟨_, rfl⟩, fun _ _ _ => ⟨_, rfl⟩⟩
  have hmergeable :
      Mergeable sampleModel sampleMerge "Customer" sampleCustomer sampleCustomerRows := by
    refine ⟨?_, ?_, ?_, fun _ => by decide +kernel⟩
    · exact List.forall_mem_cons.2 ⟨⟨_, rfl⟩, List.forall_mem_singleton.2 ⟨_, rfl⟩⟩
    · decide +kernel
    · refine List.forall_mem_cons.2 ⟨fun _ => ⟨_, rfl⟩, List.forall_mem_cons.2 ⟨fun hkey => ?_,
        List.forall_mem_singleton.2 fun _ => ⟨_, rfl⟩⟩⟩
      exact absurd (by decide +kernel) hkey
  obtain ⟨-, hiff, hreceives⟩ := merge_attaches_matching hset
    (show sampleSales.length = sampleMerge.itemKeys.length from rfl)
  have hmerged : (sampleMerge.merge sampleModel "Customer" sampleCustomer sampleCustomerRows
      sampleSales).2 = sampleLoaded := by
    decide +kernel
  have hok := hiff.2 hmergeable
  exact ⟨hok, hmerged ▸ hreceives hok⟩

end Lookup

end EntityQuery
