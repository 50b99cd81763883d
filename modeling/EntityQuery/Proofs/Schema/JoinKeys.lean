import EntityQuery.Proofs.Results
import EntityQuery.Schema.JoinKeys

/-!
# Join keys

Derived keys are there on both sides, in pairs, and are fields. A relationship that can be followed
both ways has one foreign key for both: the side that declares it finds it as its own, the other
side as the inverse one. So the keys are the same both ways, with the sides exchanged.
-/
namespace EntityQuery.JoinKeys

/-- Names that may be required are those of fields. -/
theorem requireFields_eq_ok_iff {schema : Schema} {names : List String} :
    requireFields schema names = .ok () ↔
      ∀ name ∈ names, ∃ field, schema.field name = .ok field := by
  induction names with
  | nil => simp [requireFields]
  | cons name names ih =>
      rw [requireFields, except_bind_eq_ok_iff, List.forall_mem_cons, ← ih]
      exact exists_and_right

/-- Keys that pass the check are there, in pairs, and are fields of the two schemas. -/
structure Checked (source target : Schema) (keys : JoinKeys) : Prop where
  foreign_ne_nil : keys.foreignKeys ≠ []
  paired : keys.referenceKeys.length = keys.foreignKeys.length
  references : ∀ name ∈ keys.referenceKeys, ∃ field, source.field name = .ok field
  foreigns : ∀ name ∈ keys.foreignKeys, ∃ field, target.field name = .ok field

variable {source target : Schema} {field back : String} {keys chosen : JoinKeys}
  {navigation : Navigation} {key : ForeignKey}

theorem Checked.reference_ne_nil (h : Checked source target keys) : keys.referenceKeys ≠ [] := by
  intro hnil
  have hlength := h.paired
  rw [hnil, List.length_nil, eq_comm, List.length_eq_zero_iff] at hlength
  exact h.foreign_ne_nil hlength

theorem check_eq_ok_iff :
    check source field target keys = .ok () ↔ Checked source target keys := by
  constructor
  · intro h
    unfold check at h
    by_cases hreference : keys.referenceKeys.isEmpty = true
    · rw [if_pos hreference] at h
      cases h
    rw [if_neg hreference] at h
    by_cases hforeign : keys.foreignKeys.isEmpty = true
    · rw [if_pos hforeign] at h
      cases h
    rw [if_neg hforeign] at h
    by_cases hpaired : keys.referenceKeys.length ≠ keys.foreignKeys.length
    · rw [if_pos hpaired] at h
      cases h
    rw [if_neg hpaired] at h
    obtain ⟨_, hreferences, hforeigns⟩ := except_bind_eq_ok_iff.1 h
    exact ⟨by simpa using hforeign, not_not.1 hpaired, requireFields_eq_ok_iff.1 hreferences,
      requireFields_eq_ok_iff.1 hforeigns⟩
  · intro h
    have hreference : ¬ keys.referenceKeys.isEmpty = true := by simpa using h.reference_ne_nil
    have hforeign : ¬ keys.foreignKeys.isEmpty = true := by simpa using h.foreign_ne_nil
    unfold check
    rw [if_neg hreference, if_neg hforeign, if_neg (not_not.2 h.paired)]
    exact except_bind_eq_ok_iff.2
      ⟨(), requireFields_eq_ok_iff.2 h.references, requireFields_eq_ok_iff.2 h.foreigns⟩

/-- Keys are derived if the field leads to the target and the keys that are chosen for it pass the
check. -/
theorem derive_eq_ok_iff : derive source field target = .ok keys ↔
    ∃ navigation, source.navigation field = .ok navigation ∧ navigation.target = target.entity ∧
      choose source field navigation target = .ok keys ∧ Checked source target keys := by
  unfold derive
  rw [except_bind_eq_ok_iff]
  refine exists_congr fun navigation => and_congr_right fun _ => ?_
  by_cases htarget : navigation.target = target.entity
  · rw [if_neg (not_not.2 htarget), and_iff_right htarget]
    constructor
    · intro h
      obtain ⟨chosen, hchosen, h⟩ := except_bind_eq_ok_iff.1 h
      obtain ⟨_, hcheck, h⟩ := except_bind_eq_ok_iff.1 h
      cases h
      exact ⟨hchosen, check_eq_ok_iff.1 hcheck⟩
    · rintro ⟨hchosen, hchecked⟩
      exact except_bind_eq_ok_iff.2
        ⟨keys, hchosen, except_bind_eq_ok_iff.2 ⟨(), check_eq_ok_iff.2 hchecked, rfl⟩⟩
  · rw [if_pos htarget]
    refine iff_of_false ?_ fun h => htarget h.1
    intro h
    cases h

/-- Derived keys have been checked. -/
theorem checked_of_derive (h : derive source field target = .ok keys) :
    Checked source target keys := by
  obtain ⟨_, -, -, -, hchecked⟩ := derive_eq_ok_iff.1 h
  exact hchecked

/-! ### The order of preference -/

/-- A field that leads to the target and does not declare the keys of both sides. -/
def LeadsWithoutKeys (source : Schema) (field : String) (target : Schema) : Prop :=
  ∃ navigation, source.navigation field = .ok navigation ∧ navigation.target = target.entity ∧
    (navigation.localKeys = [] ∨ navigation.foreignKeys = [])

theorem ofNavigation?_eq_none_iff :
    ofNavigation? navigation = none ↔ navigation.localKeys = [] ∨ navigation.foreignKeys = [] := by
  simp [ofNavigation?, or_iff_not_imp_left]

/-- If one choice is made for every navigation that does not declare both keys, it is derived
whenever it passes the check. -/
theorem derive_of_leadsWithoutKeys (hleads : LeadsWithoutKeys source field target)
    (hchosen : ∀ navigation, ofNavigation? navigation = none →
      choose source field navigation target = .ok chosen) :
    derive source field target = .ok keys ↔ keys = chosen ∧ Checked source target chosen := by
  obtain ⟨navigation, hnavigation, htarget, hpartly⟩ := hleads
  have hchoice := hchosen navigation (ofNavigation?_eq_none_iff.2 hpartly)
  rw [derive_eq_ok_iff]
  constructor
  · rintro ⟨found, hfound, -, hkeys, hchecked⟩
    obtain rfl : navigation = found := Except.ok.inj (hnavigation.symm.trans hfound)
    obtain rfl : chosen = keys := Except.ok.inj (hchoice.symm.trans hkeys)
    exact ⟨rfl, hchecked⟩
  · rintro ⟨rfl, hchecked⟩
    exact ⟨navigation, hnavigation, htarget, hchoice, hchecked⟩

/-- The foreign key of the source that serves the field is chosen as it is. -/
theorem choose_of_own (hpartly : ofNavigation? navigation = none)
    (hserves : (source.foreignKeysTo target.entity).find? (·.navigation = field) = some key) :
    choose source field navigation target = .ok ⟨key.localKeys, key.foreignKeys⟩ := by
  have hown : ofSource? source field target = some ⟨key.localKeys, key.foreignKeys⟩ := by
    rw [ofSource?, hserves]
    rfl
  rw [choose, hpartly, hown]

/-- Without one, the only foreign key of the target that references the source is chosen from the
other side, whatever field it serves. -/
theorem choose_of_inverse (hpartly : ofNavigation? navigation = none)
    (hunserved : ∀ own ∈ source.foreignKeysTo target.entity, own.navigation ≠ field)
    (honly : target.foreignKeysTo source.entity = [key]) :
    choose source field navigation target = .ok ⟨key.foreignKeys, key.localKeys⟩ := by
  have hown : ofSource? source field target = none := by
    rw [ofSource?, List.find?_eq_none.2 (by simpa using hunserved)]
    rfl
  have hinverse : inverseKey? source field target = .ok (some key) := by
    rw [inverseKey?, honly]
    by_cases hserves : key.navigation = field
    · simp [hserves]
    · simp [hserves]
  rw [choose, hpartly, hown, hinverse]
  rfl

/-! ### Relationships in both directions -/

/-- The keys as they are seen from the other side. -/
def mirror (keys : JoinKeys) : JoinKeys := ⟨keys.foreignKeys, keys.referenceKeys⟩

theorem mirror_involutive : Function.Involutive mirror := fun _ => rfl

theorem mirror_inj : keys.mirror = chosen.mirror ↔ keys = chosen :=
  mirror_involutive.injective.eq_iff

/-- The check treats both sides alike. -/
theorem checked_mirror_iff : Checked target source keys.mirror ↔ Checked source target keys := by
  have hmirror {source target : Schema} {keys : JoinKeys} (h : Checked source target keys) :
      Checked target source keys.mirror :=
    ⟨h.reference_ne_nil, h.paired.symm, h.foreigns, h.references⟩
  exact ⟨hmirror, hmirror⟩

/-- A relationship that can be followed both ways: a field of the source leads to the target, and a
field of the target leads back over the only foreign key that references the source. -/
structure TwoWay (source : Schema) (field : String) (target : Schema) (back : String) : Prop where
  leads : LeadsWithoutKeys source field target
  leadsBack : LeadsWithoutKeys target back source
  only : ∃ key, target.foreignKeysTo source.entity = [key] ∧ key.navigation = back
  unserved : ∀ own ∈ source.foreignKeysTo target.entity, own.navigation ≠ field

/-- Keys are derived one way if and only if they are derived the other way, with the sides
exchanged. -/
theorem TwoWay.derive_eq_ok_iff (h : TwoWay source field target back) :
    derive target back source = .ok keys.mirror ↔ derive source field target = .ok keys := by
  obtain ⟨key, honly, hserves⟩ := h.only
  let found : JoinKeys := ⟨key.foreignKeys, key.localKeys⟩
  have hthere : ∀ navigation, ofNavigation? navigation = none →
      choose source field navigation target = .ok found :=
    fun _ hpartly => choose_of_inverse hpartly h.unserved honly
  have hback : ∀ navigation, ofNavigation? navigation = none →
      choose target back navigation source = .ok found.mirror := by
    intro navigation hpartly
    refine choose_of_own hpartly ?_
    rw [honly]
    simp [hserves]
  rw [derive_of_leadsWithoutKeys h.leadsBack hback, derive_of_leadsWithoutKeys h.leads hthere]
  exact and_congr mirror_inj checked_mirror_iff

/-- Both directions of a relationship have the same keys, with the sides exchanged, and one
direction has keys if and only if the other has. -/
theorem derive_both_ways (h : TwoWay source field target back) :
    ((∃ keys, derive source field target = .ok keys) ↔
      ∃ keys, derive target back source = .ok keys) ∧
    ∀ keys keys', derive source field target = .ok keys →
      derive target back source = .ok keys' →
        keys'.referenceKeys = keys.foreignKeys ∧ keys'.foreignKeys = keys.referenceKeys := by
  refine ⟨⟨?_, ?_⟩, ?_⟩
  · rintro ⟨keys, hkeys⟩
    exact ⟨keys.mirror, h.derive_eq_ok_iff.2 hkeys⟩
  · rintro ⟨keys, hkeys⟩
    exact ⟨keys.mirror, h.derive_eq_ok_iff.1 hkeys⟩
  · intro keys keys' hkeys hkeys'
    obtain rfl : keys.mirror = keys' :=
      Except.ok.inj ((h.derive_eq_ok_iff.2 hkeys).symm.trans hkeys')
    exact ⟨rfl, rfl⟩

/-- The sample schema of an employee, who has a manager and reports. -/
def sampleEmployee : Schema :=
  ⟨"Employee", "employees",
    [⟨"Id", "id", .int64, true, false, none⟩,
     ⟨"ManagerId", "manager_id", .int64, false, false, none⟩,
     .ofNavigation "Manager" ⟨"Employee", false, [], []⟩,
     .ofNavigation "Reports" ⟨"Employee", true, [], []⟩],
    [⟨"Employee", ["ManagerId"], ["Id"], "Manager"⟩]⟩

/-- The reports of an employee are found by the key with which each of them finds its manager. -/
theorem derive_both_ways_employees :
    TwoWay sampleEmployee "Reports" sampleEmployee "Manager" ∧
      derive sampleEmployee "Reports" sampleEmployee = .ok ⟨["Id"], ["ManagerId"]⟩ ∧
      derive sampleEmployee "Manager" sampleEmployee = .ok ⟨["ManagerId"], ["Id"]⟩ := by
  have htwoWay : TwoWay sampleEmployee "Reports" sampleEmployee "Manager" :=
    { leads := ⟨⟨"Employee", true, [], []⟩, by rfl, rfl, .inl rfl⟩
      leadsBack := ⟨⟨"Employee", false, [], []⟩, by rfl, rfl, .inl rfl⟩
      only := ⟨⟨"Employee", ["ManagerId"], ["Id"], "Manager"⟩, by rfl, rfl⟩
      unserved := by decide }
  have hreports : derive sampleEmployee "Reports" sampleEmployee = .ok ⟨["Id"], ["ManagerId"]⟩ :=
    by rfl
  obtain ⟨hsucceed, hmirrored⟩ := derive_both_ways htwoWay
  obtain ⟨keys, hmanager⟩ := hsucceed.1 ⟨_, hreports⟩
  obtain ⟨hreference, hforeign⟩ := hmirrored _ _ hreports hmanager
  cases keys
  cases hreference
  cases hforeign
  exact ⟨htwoWay, hreports, hmanager⟩

end EntityQuery.JoinKeys
