import Mathlib.Data.List.Infix

/-!
# Wildcards

A pattern is matched by the rule of LIKE: `%` stands for any characters, `_` for any one character,
and every other character for itself. Where a pattern has several wildcards there are many ways to
divide a text among them, and one that fits is enough. Around a text without wildcards, `%` asks
where the text is: anywhere, at the start or at the end.
-/
namespace EntityQuery.Text

/-- A text matches a pattern. -/
inductive Matches : List Char → List Char → Prop
  | done : Matches [] []
  | run (skipped : List Char) {pattern text : List Char} (rest : Matches pattern text) :
      Matches ('%' :: pattern) (skipped ++ text)
  | one (c : Char) {pattern text : List Char} (rest : Matches pattern text) :
      Matches ('_' :: pattern) (c :: text)
  | same {c : Char} (plain : c ≠ '%' ∧ c ≠ '_') {pattern text : List Char}
      (rest : Matches pattern text) : Matches (c :: pattern) (c :: text)

/-- No character is a wildcard, nor the backslash, with which databases escape one. -/
def Plain (text : List Char) : Prop := ∀ c ∈ text, c ≠ '%' ∧ c ≠ '_' ∧ c ≠ '\\'

instance (text : List Char) : Decidable (Plain text) := List.decidableBAll _ text

variable {pattern literal text : List Char}

theorem matches_nil_iff : Matches [] text ↔ text = [] := by
  constructor
  · rintro ⟨⟩
    rfl
  · rintro rfl
    exact .done

/-- What follows `%` is matched by some end of the text. -/
theorem matches_percent_iff :
    Matches ('%' :: pattern) text ↔ ∃ rest, rest <:+ text ∧ Matches pattern rest := by
  constructor
  · intro h
    cases h with
    | run skipped rest => exact ⟨_, List.suffix_append skipped _, rest⟩
    | same plain => exact absurd rfl plain.1
  · rintro ⟨rest, ⟨skipped, rfl⟩, h⟩
    exact .run skipped h

theorem matches_underscore_iff :
    Matches ('_' :: pattern) text ↔ ∃ c rest, text = c :: rest ∧ Matches pattern rest := by
  constructor
  · intro h
    cases h with
    | one c rest => exact ⟨c, _, rfl, rest⟩
    | same plain => exact absurd rfl plain.2
  · rintro ⟨c, rest, rfl, h⟩
    exact .one c h

theorem matches_cons_iff {c : Char} (plain : c ≠ '%' ∧ c ≠ '_') :
    Matches (c :: pattern) text ↔ ∃ rest, text = c :: rest ∧ Matches pattern rest := by
  constructor
  · intro h
    cases h with
    | run => exact absurd rfl plain.1
    | one => exact absurd rfl plain.2
    | same _ rest => exact ⟨_, rfl, rest⟩
  · rintro ⟨rest, rfl, h⟩
    exact .same plain h

/-- Whether a text matches a pattern, tried out. -/
def matchesPattern : List Char → List Char → Bool
  | [], text => text.isEmpty
  | '%' :: pattern, text => text.tails.any fun rest => matchesPattern pattern rest
  | '_' :: pattern, text => text.tail?.any fun rest => matchesPattern pattern rest
  | c :: pattern, text => text.head? = some c && matchesPattern pattern text.tail

theorem matchesPattern_eq_true_iff : matchesPattern pattern text = true ↔ Matches pattern text := by
  induction pattern generalizing text with
  | nil => simp [matchesPattern, matches_nil_iff]
  | cons c pattern ih =>
      by_cases hpercent : c = '%'
      · subst hpercent
        simp [matchesPattern, matches_percent_iff, ih]
      by_cases hunderscore : c = '_'
      · subst hunderscore
        cases text <;> simp [matchesPattern, matches_underscore_iff, ih]
      · rw [matches_cons_iff ⟨hpercent, hunderscore⟩, matchesPattern]
        · cases text <;> simp [ih]
        · exact hpercent
        · exact hunderscore

instance : Decidable (Matches pattern text) :=
  decidable_of_iff _ matchesPattern_eq_true_iff

/-- A text without wildcards is matched by itself. -/
theorem matches_append_iff (h : Plain literal) :
    Matches (literal ++ pattern) text ↔ ∃ rest, text = literal ++ rest ∧ Matches pattern rest := by
  induction literal generalizing text with
  | nil => simp
  | cons c literal ih =>
      obtain ⟨hc, hplain⟩ := List.forall_mem_cons.1 h
      rw [List.cons_append, matches_cons_iff ⟨hc.1, hc.2.1⟩]
      simp only [ih hplain]
      constructor
      · rintro ⟨_, rfl, rest, rfl, hrest⟩
        exact ⟨rest, rfl, hrest⟩
      · rintro ⟨rest, rfl, hrest⟩
        exact ⟨_, rfl, rest, rfl, hrest⟩

/-- A single `%` is matched by every text. -/
theorem matches_percent (text : List Char) : Matches ['%'] text :=
  matches_percent_iff.2 ⟨[], List.nil_suffix, .done⟩

theorem matches_append_percent_iff (h : Plain literal) :
    Matches (literal ++ ['%']) text ↔ literal <+: text := by
  rw [matches_append_iff h]
  constructor
  · rintro ⟨rest, rfl, -⟩
    exact List.prefix_append literal rest
  · rintro ⟨rest, rfl⟩
    exact ⟨rest, rfl, matches_percent rest⟩

theorem matches_percent_append_iff (h : Plain literal) :
    Matches ('%' :: literal) text ↔ literal <:+ text := by
  have hself (rest : List Char) : Matches literal rest ↔ rest = literal := by
    have hempty : Matches (literal ++ []) rest ↔ _ := matches_append_iff h
    simpa [matches_nil_iff] using hempty
  rw [matches_percent_iff]
  simp only [hself, exists_eq_right]

theorem matches_percent_append_percent_iff (h : Plain literal) :
    Matches ('%' :: (literal ++ ['%'])) text ↔ literal <:+: text := by
  rw [matches_percent_iff, List.infix_iff_prefix_suffix]
  simp only [matches_append_percent_iff h, and_comm]

/-- The two occurrences overlap. -/
example : Matches "%aa%".toList "baaa".toList ∧ ¬ Matches "aa%".toList "baaa".toList := by
  decide

end EntityQuery.Text
