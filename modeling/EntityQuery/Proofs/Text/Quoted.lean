import EntityQuery.Value.Text

/-!
# Reading text literals

A text literal is read by the rule of SQL: a quote opens it, two quotes inside stand for one, and a
single one closes it, for which a look at the next character is needed. Each text can be read from
its literal and from nothing else, so the literals of two texts differ. In a statement a literal
ends where it was meant to, unless a quote follows it directly, and never earlier.
-/
namespace EntityQuery.Text

/-- The text inside a literal, up to the quote that closes it, and what follows that quote. -/
def readInside? : List Char → Option (List Char × List Char)
  | [] => none
  | '\'' :: '\'' :: rest => (readInside? rest).map fun parts => ('\'' :: parts.1, parts.2)
  | '\'' :: rest => some ([], rest)
  | c :: rest => (readInside? rest).map fun parts => (c :: parts.1, parts.2)

/-- The text of the literal at the start, and what follows the literal. -/
def readQuoted? : List Char → Option (List Char × List Char)
  | '\'' :: rest => readInside? rest
  | _ => none

/-- A quote closes the literal if no other follows. -/
theorem readInside?_closing {rest : List Char} (h : rest.head? ≠ some '\'') :
    readInside? ('\'' :: rest) = some ([], rest) := by
  rw [readInside?]
  rintro after rfl
  exact h rfl

theorem readInside?_of_ne {c : Char} (h : c ≠ '\'') (rest : List Char) :
    readInside? (c :: rest) = (readInside? rest).map fun parts => (c :: parts.1, parts.2) := by
  rw [readInside?]
  · simp [h]
  · simp [h]

/-- The inside of a literal is read to its end, whatever follows. -/
theorem readInside?_append (text rest : List Char) :
    readInside? (doubleQuotes text ++ rest) =
      (readInside? rest).map fun parts => (text ++ parts.1, parts.2) := by
  induction text with
  | nil => simp [doubleQuotes]
  | cons c text ih =>
      rw [doubleQuotes]
      by_cases hc : c = '\''
      · rw [if_pos hc, List.cons_append, List.cons_append, readInside?, ih, Option.map_map, hc]
        rfl
      · rw [if_neg hc, List.cons_append, readInside?_of_ne hc, ih, Option.map_map]
        rfl

/-- A text is read from its literal only, and a quote behind it would not have closed it. -/
theorem eq_of_readInside? {cs text rest : List Char} (h : readInside? cs = some (text, rest)) :
    cs = doubleQuotes text ++ '\'' :: rest ∧ rest.head? ≠ some '\'' := by
  fun_induction readInside? cs generalizing text with
  | case1 => cases h
  | case2 cs ih =>
      obtain ⟨parts, hparts, hsame⟩ := Option.map_eq_some_iff.1 h
      cases hsame
      obtain ⟨rfl, hrest⟩ := ih hparts
      exact ⟨by simp [doubleQuotes], hrest⟩
  | case3 cs hsingle =>
      cases h
      refine ⟨rfl, fun hhead => ?_⟩
      obtain ⟨after, rfl⟩ := List.head?_eq_some_iff.1 hhead
      exact hsingle after rfl
  | case4 c cs _ hplain ih =>
      obtain ⟨parts, hparts, hsame⟩ := Option.map_eq_some_iff.1 h
      cases hsame
      obtain ⟨rfl, hrest⟩ := ih hparts
      have hc : c ≠ '\'' := hplain
      exact ⟨by simp [doubleQuotes, hc], hrest⟩

section

variable (s : String)

theorem literal_append (rest : List Char) :
    (Value.text s).literal.toList ++ rest = '\'' :: (doubleQuotes s.toList ++ '\'' :: rest) := by
  simp [Value.literal, quoted]

/-- What is read as a text is its literal, with no quote behind it. -/
theorem readQuoted?_eq_some_iff {cs rest : List Char} :
    readQuoted? cs = some (s.toList, rest) ↔
      cs = (Value.text s).literal.toList ++ rest ∧ rest.head? ≠ some '\'' := by
  rw [literal_append]
  constructor
  · intro h
    unfold readQuoted? at h
    split at h
    · obtain ⟨rfl, hrest⟩ := eq_of_readInside? h
      exact ⟨rfl, hrest⟩
    · cases h
  · rintro ⟨rfl, hrest⟩
    rw [readQuoted?, readInside?_append, readInside?_closing hrest, Option.map_some,
      List.append_nil]

/-- The quotes of a text do not close its literal. -/
theorem suffix_of_readQuoted? {text rest after : List Char}
    (h : readQuoted? ((Value.text s).literal.toList ++ rest) = some (text, after)) :
    after <:+ rest := by
  rw [literal_append, readQuoted?, readInside?_append] at h
  obtain ⟨parts, hparts, hsame⟩ := Option.map_eq_some_iff.1 h
  cases hsame
  -- Reading has come to the closing quote: either it closes the literal, or it is one of two.
  obtain ⟨hread, -⟩ := eq_of_readInside? hparts
  have hsuffix : '\'' :: parts.2 <:+ '\'' :: rest := ⟨doubleQuotes parts.1, hread.symm⟩
  rcases List.suffix_cons_iff.1 hsuffix with hall | hless
  · exact (List.cons.inj hall).2 ▸ List.suffix_rfl
  · exact (List.suffix_cons '\'' parts.2).trans hless

end

/-- From the literal of a text with anything but a quote behind it, the text is read, and all that
follows is left. Whatever follows, reading does not end inside the literal. Different texts have
different literals, also if something follows each of them that is no quote. -/
theorem literal_reads_back {s rest : String} (hrest : rest.toList.head? ≠ some '\'') :
    readQuoted? ((Value.text s).literal ++ rest).toList = some (s.toList, rest.toList) ∧
    (∀ follow text after,
      readQuoted? ((Value.text s).literal.toList ++ follow) = some (text, after) →
        after <:+ follow) ∧
    (∀ t : String, (Value.text t).literal = (Value.text s).literal → t = s) ∧
    ∀ t rest' : String, rest'.toList.head? ≠ some '\'' →
      (Value.text t).literal ++ rest' = (Value.text s).literal ++ rest → t = s ∧ rest' = rest := by
  have hread (t rest : String) (h : rest.toList.head? ≠ some '\'') :
      readQuoted? ((Value.text t).literal ++ rest).toList = some (t.toList, rest.toList) := by
    rw [readQuoted?_eq_some_iff, String.toList_append]
    exact ⟨rfl, h⟩
  have hunique (t rest' : String) (h : rest'.toList.head? ≠ some '\'')
      (hsame : (Value.text t).literal ++ rest' = (Value.text s).literal ++ rest) :
      t = s ∧ rest' = rest := by
    have hboth := congrArg (readQuoted? ·.toList) hsame
    simp only [hread t rest' h, hread s rest hrest] at hboth
    simpa [String.toList_inj] using hboth
  refine ⟨hread s rest hrest, fun follow text after h => ?_, fun t hsame => ?_, hunique⟩
  · exact suffix_of_readQuoted? s h
  · exact (hunique t rest hrest (by rw [hsame])).1

/-- The text begins and ends with a quote, and another literal follows. -/
theorem literal_reads_back_sample :
    readQuoted? ((Value.text "'it''s'").literal ++ ", 'x'").toList =
      some ("'it''s'".toList, ", 'x'".toList) ∧
    (Value.text "'it''s'").literal = "'''it''''s'''" :=
  ⟨(literal_reads_back (by decide)).1, by decide⟩

/-- A quote behind a literal makes it go on. -/
example : readQuoted? "'a''b' c".toList = some ("a'b".toList, " c".toList) := by decide

end EntityQuery.Text
