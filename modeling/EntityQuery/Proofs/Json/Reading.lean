import EntityQuery.Json.Number
import EntityQuery.Json.Read
import Mathlib.Data.List.TakeDrop
import Mathlib.Tactic.SplitIfs

/-!
# Reading written JSON

What is written is read back. A character is read as the element that it is spelled as, be it the
character itself, an escape or a code unit; an integer is read to its last digit, since nothing that
can follow a value goes on with a number; and an array or an object is read if its items are.
-/
namespace EntityQuery.Json

theorem hexDigit?_digitChar : ∀ d < 16, hexDigit? (Nat.digitChar d) = some d := by
  decide

/-- Four hexadecimal digits are read as the code unit that they were written for. -/
theorem readString?_unitEscape {n : Nat} (h : n < 0x10000) (rest : List Char) :
    readString? (unitEscape n ++ rest) =
      (readString? rest).map fun parts => (.unit n :: parts.1, parts.2) := by
  have hdigit (m : Nat) : hexDigit? (Nat.digitChar (m % 16)) = some (m % 16) :=
    hexDigit?_digitChar _ (Nat.mod_lt _ (by decide))
  have hunit : ((n / 4096 % 16 * 16 + n / 256 % 16) * 16 + n / 16 % 16) * 16 + n % 16 = n := by
    omega
  simp only [unitEscape, hex4, List.map_cons, List.map_nil, List.cons_append, List.nil_append,
    readString?, codeUnit?, hdigit, Option.bind_eq_bind, Option.bind_some, Option.pure_def, hunit]
  cases readString? rest <;> rfl

theorem readString?_escaped {letter c : Char} (hletter : letter ≠ 'u')
    (h : escaped? letter = some c) (rest : List Char) :
    readString? ('\\' :: letter :: rest) =
      (readString? rest).map fun parts => (.char c :: parts.1, parts.2) := by
  rw [readString?, h]
  · cases readString? rest <;> rfl
  · simp [hletter]

theorem readString?_plain {c : Char} (hcontrol : ¬ c < ' ') (hquote : c ≠ '"') (hescape : c ≠ '\\')
    (rest : List Char) :
    readString? (c :: rest) =
      (readString? rest).map fun parts => (.char c :: parts.1, parts.2) := by
  rw [readString?, if_neg (by simp [hcontrol, hescape])]
  · cases readString? rest <;> rfl
  · simp [hquote]
  · simp [hescape]
  · simp [hescape]

/-- A code unit outside the halves of pairs is a character of its own, whatever follows. -/
theorem text?_unit {n : Nat} (h : n < 0xd800) (elements : List Element) :
    text? (.unit n :: elements) = (text? elements).map (Char.ofNat n :: ·) := by
  rw [text?.eq_def]
  split
  · next heq => cases heq
  · next heq => cases heq
  · next heq => cases heq; rw [if_pos (.inl h)]
  · next heq => cases heq; rw [if_pos (.inl h)]

/-- A character that is no control character without a letter has an escape of its own, or stands
for itself. -/
theorem charText_cases {c : Char} (h : ¬ (c < ' ' ∧ c ∉ lettered)) :
    (∃ letter, letter ≠ 'u' ∧ escaped? letter = some c ∧ charText c = ['\\', letter]) ∨
    (¬ c < ' ' ∧ c ≠ '"' ∧ c ≠ '\\' ∧ charText c = [c]) := by
  generalize hwritten : charText c = written
  unfold charText at hwritten
  split_ifs at hwritten with hquote hescape hback hfeed hline hreturn htab
  all_goals subst hwritten
  · exact .inl ⟨'"', by decide, by rw [hquote]; rfl, rfl⟩
  · exact .inl ⟨'\\', by decide, by rw [hescape]; rfl, rfl⟩
  · exact .inl ⟨'b', by decide, by rw [hback]; rfl, rfl⟩
  · exact .inl ⟨'f', by decide, by rw [hfeed]; rfl, rfl⟩
  · exact .inl ⟨'n', by decide, by rw [hline]; rfl, rfl⟩
  · exact .inl ⟨'r', by decide, by rw [hreturn]; rfl, rfl⟩
  · exact .inl ⟨'t', by decide, by rw [htab]; rfl, rfl⟩
  · refine .inr ⟨fun hcontrol => h ⟨hcontrol, ?_⟩, hquote, hescape, rfl⟩
    simp [lettered, hback, hfeed, hline, hreturn, htab]

/-- A character is read as it is spelled. -/
theorem readString?_ofChar (c : Char) (rest : List Char) :
    readString? ((Element.ofChar c).text ++ rest) =
      (readString? rest).map fun parts => (.ofChar c :: parts.1, parts.2) := by
  unfold Element.ofChar
  split
  · next h =>
    have hsmall : c.toNat < 32 := h.1
    exact readString?_unitEscape (by omega) rest
  · next h =>
    rcases charText_cases h with ⟨letter, hletter, hc, hwritten⟩ |
      ⟨hcontrol, hquote, hescape, hwritten⟩
    · rw [Element.text, hwritten]
      exact readString?_escaped hletter hc rest
    · rw [Element.text, hwritten]
      exact readString?_plain hcontrol hquote hescape rest

/-- What a character is spelled as stands for the character, whatever follows. -/
theorem text?_ofChar (c : Char) (elements : List Element) :
    text? (.ofChar c :: elements) = (text? elements).map (c :: ·) := by
  unfold Element.ofChar
  split
  · next h =>
    have hsmall : c.toNat < 32 := h.1
    rw [text?_unit (by omega), Char.ofNat_toNat]
  · rw [text?]

/-- The characters of a text are read up to the closing quote. -/
theorem readString?_elementsOf (s : String) (rest : List Char) :
    readString? ((elementsOf s).flatMap Element.text ++ '"' :: rest) =
      some (elementsOf s, rest) := by
  unfold elementsOf
  induction s.toList with
  | nil => simp [readString?]
  | cons c cs ih =>
      rw [List.map_cons, List.flatMap_cons, List.append_assoc, readString?_ofChar, ih,
        Option.map_some]

@[simp] theorem text?_elementsOf (s : String) : text? (elementsOf s) = some s.toList := by
  unfold elementsOf
  induction s.toList with
  | nil => rw [List.map_nil, text?]
  | cons c cs ih => rw [List.map_cons, text?_ofChar, ih, Option.map_some]

/-- Whether a text can stand behind a value: the end, or what separates or closes. -/
def Follows (rest : List Char) : Prop :=
  ∀ c ∈ rest.head?, c = ',' ∨ c = ']' ∨ c = '}'

theorem Follows.cons {c : Char} (h : c = ',' ∨ c = ']' ∨ c = '}') (rest : List Char) :
    Follows (c :: rest) := by
  rintro d hd
  cases hd
  exact h

/-- What follows a number goes on neither with a digit nor with a fraction or an exponent. -/
theorem Follows.spans {rest : List Char} (h : Follows rest) :
    (∀ c ∈ rest.head?, c.isDigit = false) ∧ spanFraction? rest = some ([], rest) ∧
      spanExponent? rest = some ([], rest) := by
  cases rest with
  | nil => exact ⟨by simp, rfl, rfl⟩
  | cons c rest =>
      rcases h c rfl with rfl | rfl | rfl <;> exact ⟨by simp, rfl, rfl⟩

/-- The digits of a number start with a zero for zero alone. -/
theorem toDigits_eq_zero_cons {n : Nat} {ds : List Char} (h : Nat.toDigits 10 n = '0' :: ds) :
    ds = [] := by
  induction n using Nat.strongRecOn generalizing ds with
  | ind n ih =>
      rw [Nat.toDigits_eq_if (by decide)] at h
      split at h
      · exact (List.cons.inj h).2.symm
      · next hlarge =>
        obtain ⟨d, front, hfront⟩ := List.exists_cons_of_ne_nil (Text.toDigits_ne_nil (n / 10))
        rw [hfront, List.cons_append] at h
        obtain ⟨rfl, -⟩ := List.cons.inj h
        have hnil := ih (n / 10) (by omega) hfront
        have hzero : n / 10 = 0 := by
          have hread := Text.readNat?_toDigits (n / 10)
          rw [hfront, hnil] at hread
          exact (Option.some.inj hread).symm
        omega

theorem spanWhole?_toDigits (n : Nat) {rest : List Char} (h : ∀ c ∈ rest.head?, c.isDigit = false) :
    spanWhole? (Nat.toDigits 10 n ++ rest) = some (Nat.toDigits 10 n, rest) := by
  have hdigits : ∀ c ∈ Nat.toDigits 10 n, c.isDigit = true := fun _ => Text.isDigit_of_mem_toDigits
  have hrest : rest.takeWhile Char.isDigit = [] ∧ rest.dropWhile Char.isDigit = rest := by
    cases rest with
    | nil => exact ⟨rfl, rfl⟩
    | cons c rest => simp [h c rfl]
  have hspan : spanDigits? (Nat.toDigits 10 n ++ rest) = some (Nat.toDigits 10 n, rest) := by
    rw [spanDigits?, List.span_eq_takeWhile_dropWhile, List.takeWhile_append_of_pos hdigits,
      List.dropWhile_append_of_pos hdigits, hrest.1, hrest.2, List.append_nil]
    simp
  rw [spanWhole?.eq_def]
  split
  · next c after heq =>
    obtain ⟨d, ds, hds⟩ := List.exists_cons_of_ne_nil (Text.toDigits_ne_nil n)
    rw [hds, List.cons_append] at heq
    obtain ⟨rfl, hafter⟩ := List.cons.inj heq
    obtain rfl := toDigits_eq_zero_cons hds
    rw [List.nil_append] at hafter
    subst hafter
    rw [if_neg (by simp [h c rfl]), hds]
  · exact hspan

/-- An integer is read to its last digit. -/
theorem spanNumber?_intChars (n : Int) {rest : List Char} (h : Follows rest) :
    spanNumber? (Text.intChars n ++ rest) = some (Text.intChars n, rest) := by
  obtain ⟨hdigit, hfraction, hexponent⟩ := h.spans
  have hwhole := spanWhole?_toDigits n.natAbs hdigit
  unfold Text.intChars
  split
  · simp [spanNumber?, spanMinus, hwhole, hfraction, hexponent]
  · have hminus : spanMinus (Nat.toDigits 10 n.natAbs ++ rest) =
        ([], Nat.toDigits 10 n.natAbs ++ rest) := by
      obtain ⟨d, ds, hds⟩ := List.exists_cons_of_ne_nil (Text.toDigits_ne_nil n.natAbs)
      have hd : d.isDigit = true :=
        Text.isDigit_of_mem_toDigits (n := n.natAbs) (by simp [hds])
      rw [hds, List.cons_append, spanMinus.eq_def]
      split
      · next heq => cases heq; simp at hd
      · rfl
    simp [spanNumber?, hminus, hwhole, hfraction, hexponent]

/-- What is spelled is the integer: its spelling is never that of the negative zero. -/
theorem integer?_intChars (n : Int) : integer? (Text.intChars n) = some n := by
  have hread := Text.readInt?_intChars n
  rw [integer?, if_neg, hread]
  intro hzero
  rw [hzero] at hread
  obtain rfl : 0 = n := Option.some.inj hread
  revert hzero
  decide

/-- The data is read as it is written, whatever stands behind it, if there is fuel for its length.
The text starts neither with a blank nor with a closing bracket. -/
structure ReadsBack (j : Json) : Prop where
  starts : ∃ c cs, j.write = c :: cs ∧ isBlank c = false ∧ c ≠ ']'
  reads : ∀ fuel rest, j.write.length ≤ fuel → Follows rest →
    readValue? (fuel + 1) (j.write ++ rest) = some (j, rest)

theorem skip_cons {c : Char} (h : isBlank c = false) (cs : List Char) :
    skip (c :: cs) = c :: cs := by
  simp [skip, h]

theorem readsBack_bool (b : Bool) : ReadsBack (.bool b) := by
  cases b <;> exact ⟨⟨_, _, rfl, rfl, by decide⟩, fun _ _ _ _ => rfl⟩

theorem isBlank_eq_false {c : Char} (h : c = '-' ∨ c.isDigit = true) : isBlank c = false := by
  rw [Bool.eq_false_iff]
  intro hblank
  simp only [isBlank, Bool.or_eq_true, decide_eq_true_eq] at hblank
  rcases hblank with ((rfl | rfl) | rfl) | rfl <;> simp at h

/-- A minus or a digit is the start of a number. -/
theorem readValue?_number {c : Char} (h : c = '-' ∨ c.isDigit = true) (fuel : Nat)
    (cs : List Char) :
    readValue? (fuel + 1) (c :: cs) =
      (spanNumber? (c :: cs)).map fun parts => (.number parts.1, parts.2) := by
  rw [readValue?, skip_cons (isBlank_eq_false h)]
  split
  all_goals first
    | rfl
    | next heq => cases heq; simp at h

theorem exists_intChars_cons (n : Int) :
    ∃ c cs, Text.intChars n = c :: cs ∧ (c = '-' ∨ c.isDigit = true) := by
  unfold Text.intChars
  split
  · exact ⟨_, _, rfl, .inl rfl⟩
  · obtain ⟨d, ds, hds⟩ := List.exists_cons_of_ne_nil (Text.toDigits_ne_nil n.natAbs)
    exact ⟨d, ds, hds, .inr (Text.isDigit_of_mem_toDigits (n := n.natAbs) (by simp [hds]))⟩

theorem readsBack_ofInt (n : Int) : ReadsBack (.ofInt n) := by
  obtain ⟨c, cs, hwrite, hc⟩ := exists_intChars_cons n
  refine ⟨⟨c, cs, hwrite, isBlank_eq_false hc, ?_⟩, fun fuel rest hfuel hrest => ?_⟩
  · rintro rfl
    simp at hc
  · have hnumber := spanNumber?_intChars n hrest
    rw [hwrite, List.cons_append] at hnumber
    rw [ofInt, write, hwrite, List.cons_append, readValue?_number hc, hnumber]
    rfl

theorem readValue?_quote (fuel : Nat) (cs : List Char) :
    readValue? (fuel + 1) ('"' :: cs) =
      (readString? cs).map fun parts => (.string parts.1, parts.2) :=
  rfl

theorem stringText_append (elements : List Element) (rest : List Char) :
    stringText elements ++ rest = '"' :: (elements.flatMap Element.text ++ '"' :: rest) := by
  simp [stringText]

theorem readsBack_ofText (s : String) : ReadsBack (.ofText s) := by
  refine ⟨⟨_, _, rfl, rfl, by decide⟩, fun fuel rest hfuel _ => ?_⟩
  rw [ofText, write, stringText_append, readValue?_quote, readString?_elementsOf, Option.map_some]

/-- The items of an array are read up to the closing bracket. -/
theorem readItems?_write {items : List Json} (h : ∀ item ∈ items, ReadsBack item) :
    ∀ {first : Json}, ReadsBack first → ∀ fuel rest,
      (first.write ++ writeItems items).length ≤ fuel →
      readItems? (fuel + 1) (first.write ++ writeItems items ++ rest) =
        some (first :: items, rest) := by
  have hend (rest : List Char) : skip (']' :: rest) = ']' :: rest := skip_cons rfl rest
  have hcomma (rest : List Char) : skip (',' :: rest) = ',' :: rest := skip_cons rfl rest
  induction items with
  | nil =>
      intro first hfirst fuel rest hfuel
      simp only [writeItems, List.length_append, List.length_singleton] at hfuel
      obtain ⟨fuel, rfl⟩ : ∃ fewer, fuel = fewer + 1 := ⟨fuel - 1, by omega⟩
      have hread := hfirst.reads fuel (']' :: rest) (by omega) (.cons (by simp) _)
      simp [readItems?, writeItems, hread, hend]
  | cons next items ih =>
      intro first hfirst fuel rest hfuel
      obtain ⟨hnext, hitems⟩ := List.forall_mem_cons.1 h
      simp only [writeItems, List.length_append, List.length_cons] at hfuel
      obtain ⟨fuel, rfl⟩ : ∃ fewer, fuel = fewer + 1 := ⟨fuel - 1, by omega⟩
      have hread := hfirst.reads fuel (',' :: (next.write ++ writeItems items ++ rest)) (by omega)
        (.cons (by simp) _)
      have hrest := ih hitems hnext fuel rest (by simp only [List.length_append]; omega)
      simp only [List.append_assoc] at hread hrest
      rw [readItems?]
      simp [writeItems, hread, hrest, hcomma]

theorem readValue?_bracket {c : Char} (hblank : isBlank c = false) (hend : c ≠ ']') (fuel : Nat)
    (cs : List Char) :
    readValue? (fuel + 1) ('[' :: c :: cs) =
      (readItems? fuel (c :: cs)).map fun parts => (.array parts.1, parts.2) := by
  rw [readValue?, skip_cons rfl]
  simp [skip_cons hblank, hend]

theorem readsBack_array {items : List Json} (h : ∀ item ∈ items, ReadsBack item) :
    ReadsBack (.array items) := by
  cases items with
  | nil => exact ⟨⟨_, _, rfl, rfl, by decide⟩, fun _ _ _ _ => rfl⟩
  | cons first items =>
      obtain ⟨hfirst, hitems⟩ := List.forall_mem_cons.1 h
      refine ⟨⟨_, _, rfl, rfl, by decide⟩, fun fuel rest hfuel _ => ?_⟩
      simp only [write, List.length_cons, List.cons_append] at hfuel
      obtain ⟨fuel, rfl⟩ : ∃ fewer, fuel = fewer + 1 := ⟨fuel - 1, by omega⟩
      have hread := readItems?_write hitems hfirst fuel rest (by omega)
      obtain ⟨c, cs, hwrite, hblank, hc⟩ := hfirst.starts
      simp only [write, List.cons_append, hwrite] at hread ⊢
      rw [readValue?_bracket hblank hc, hread]
      rfl

theorem readValue?_brace (fuel : Nat) (cs : List Char) :
    readValue? (fuel + 1) ('{' :: '"' :: cs) =
      (readMembers? fuel ('"' :: cs)).map fun parts => (.object parts.1, parts.2) :=
  rfl

/-- An object with one member is read if the value of the member is. -/
theorem readsBack_object (name : String) {value : Json} (h : ReadsBack value) :
    ReadsBack (.object [(elementsOf name, value)]) := by
  refine ⟨⟨_, _, rfl, rfl, by decide⟩, fun fuel rest hfuel _ => ?_⟩
  simp only [write, writeMembers, List.length_append, List.length_cons] at hfuel
  obtain ⟨fuel, rfl⟩ : ∃ fewer, fuel = fewer + 2 := ⟨fuel - 2, by omega⟩
  have hread := h.reads fuel ('}' :: rest) (by omega) (.cons (by simp) _)
  have hskip (cs : List Char) : skip ('"' :: cs) = '"' :: cs ∧ skip (':' :: cs) = ':' :: cs ∧
      skip ('}' :: cs) = '}' :: cs := ⟨skip_cons rfl cs, skip_cons rfl cs, skip_cons rfl cs⟩
  have hwrite : write (.object [(elementsOf name, value)]) ++ rest =
      '{' :: '"' :: ((elementsOf name).flatMap Element.text ++
        '"' :: ':' :: (value.write ++ '}' :: rest)) := by
    simp [write, writeMembers, ← stringText_append]
  rw [hwrite, readValue?_brace]
  simp [readMembers?, hskip, readString?_elementsOf, hread]

/-- What is written is read as a whole. -/
theorem ReadsBack.read? {j : Json} (h : ReadsBack j) : read? j.write = some j := by
  have hread := h.reads j.write.length [] (Nat.le_refl _) fun _ hnone => by cases hnone
  rw [List.append_nil] at hread
  rw [Json.read?, hread]
  rfl

end EntityQuery.Json
