import EntityQuery.Proofs.Reference.Keys
import EntityQuery.Proofs.Value.Integers
import EntityQuery.Value.Native

/-!
# Coercion and back

A coercion gives null for null and a value of the type for everything else, and a value of the type
is left alone. But for floats, nothing is lost on the way: truth values, integers and bytes come
back from whatever they were converted to, and so do texts from bytes. Native data can therefore be
read from its value, from the value that is bound for it, and from the text of either.
-/
namespace EntityQuery

namespace Value

/-- The bytes of a text are the text again. -/
theorem textOfBytes?_bytesOfText (s : String) : textOfBytes? (bytesOfText s) = some s := by
  unfold textOfBytes? bytesOfText String.fromUTF8?
  rw [Array.toArray_toList, String.toUTF8_eq_toByteArray, dif_pos s.isValidUTF8]
  rfl

/-- Bytes that are a text are those of the text. -/
theorem bytesOfText_of_textOfBytes? {bs : List UInt8} {s : String}
    (h : textOfBytes? bs = some s) : bytesOfText s = bs := by
  unfold textOfBytes? String.fromUTF8? at h
  split at h
  · cases h
    rfl
  · cases h

theorem textOfBytes?_eq_some_iff {bs : List UInt8} {s : String} :
    textOfBytes? bs = some s ↔ bytesOfText s = bs :=
  ⟨bytesOfText_of_textOfBytes?, fun h => h ▸ textOfBytes?_bytesOfText s⟩

/-- A value of an integer type is what the type makes of the integer that the value denotes. -/
theorem ofInt?_of_denotes {v : Value} {type : FieldType} {n : Int} (htype : type.IsInteger)
    (hv : v.type? = some type) (hn : v.Denotes n) : type.ofInt? n = some v := by
  cases hn with
  | bool | text => cases hv; cases htype
  | int32 m =>
      cases hv
      have hlow := m.le_toInt
      have hhigh := m.toInt_lt
      rw [FieldType.ofInt?, if_pos (by omega), Int32.ofInt_toInt]
  | int64 m =>
      cases hv
      have hlow := m.le_toInt
      have hhigh := m.toInt_lt
      rw [FieldType.ofInt?, if_pos (by omega), Int64.ofInt_toInt]
  | uint64 m =>
      cases hv
      have hhigh := m.toNat_lt
      rw [FieldType.ofInt?, if_pos (by omega), Int.toNat_natCast, UInt64.ofNat_toNat]

/-- A value of the type is left alone. -/
theorem coerce?_of_type? {v : Value} {type : FieldType} (h : v.type? = some type) :
    v.coerce? type = some v := by
  have hnumber (n : Int) (htype : type.IsInteger) (hn : v.Denotes n) (hnull : v.isNull = false) :
      v.coerce? type = some v := by
    have hfloat : v.type? ≠ some .float := by cases hn <;> simp [type?]
    rw [coerce?_integer htype hnull, (readInteger?_eq_some_iff hfloat).2 hn]
    exact ofInt?_of_denotes htype h hn
  cases v with
  | null => cases h
  | bool b => cases h; cases b <;> rfl
  | int32 n => cases h; exact hnumber _ trivial (.int32 n) rfl
  | int64 n => cases h; exact hnumber _ trivial (.int64 n) rfl
  | uint64 n => cases h; exact hnumber _ trivial (.uint64 n) rfl
  | float x => cases h; rfl
  | text s => cases h; rfl
  | bytes bs => cases h; rfl

/-- A value that shows an integer as conversions leave it: a truth value or an integer of any width,
or the text of the integer. -/
inductive Shows : Value → Int → Prop
  | number {v : Value} {n : Int} (htext : v.type? ≠ some .text) (hn : v.Denotes n) : Shows v n
  | text (n : Int) : Shows (.text (Text.int n)) n

variable {u v w : Value} {type own : FieldType} {n : Int}

theorem Shows.denotes (h : w.Shows n) : w.Denotes n := by
  cases h with
  | number htext hn => exact hn
  | text =>
      have hwritten := Text.readInt?_eq_some_iff.1 (Text.readInt?_intChars n)
      refine .text ⟨[], Text.intChars n, [], ?_, by simp, by simp, hwritten⟩
      simp [Text.int]

theorem Denotes.isNull_eq_false (hn : v.Denotes n) : v.isNull = false := by
  cases hn <;> rfl

theorem Denotes.readInteger?_eq (hn : v.Denotes n) : v.readInteger? = some n :=
  (readInteger?_eq_some_iff (by cases hn <;> simp [type?])).2 hn

/-- The text of a truth value or an integer is that of the integer that it denotes. -/
theorem toText?_of_denotes (htext : v.type? ≠ some .text) (hn : v.Denotes n) :
    v.toText? = some (Text.int n) := by
  cases hn with
  | bool b => cases b <;> rfl
  | int32 m => rfl
  | int64 m => rfl
  | uint64 m =>
      have hsign : ¬ (m.toNat : Int) < 0 := by omega
      simp [toText?, listItem?, Text.nat, Text.int, Text.intChars, hsign]
  | text => exact absurd rfl htext

theorem toBool?_of_denotes (htext : v.type? ≠ some .text) (hn : v.Denotes n) :
    v.toBool? = boolOfInt? n := by
  cases hn with
  | bool | int32 | int64 | uint64 => rfl
  | text => exact absurd rfl htext

theorem boolOfInt?_eq_some_iff {b : Bool} : boolOfInt? n = some b ↔ n = if b then 1 else 0 := by
  unfold boolOfInt?
  cases b <;> split_ifs <;> simp_all

/-- Whatever a truth value or an integer is converted to shows the same integer, unless it is a
float. -/
theorem shows_of_coerce? (htext : u.type? ≠ some .text) (hn : u.Denotes n) (htype : type ≠ .float)
    (h : u.coerce? type = some w) : w.Shows n := by
  have hinteger (hinteger : type.IsInteger) : w.Shows n := by
    rw [coerce?_integer hinteger hn.isNull_eq_false, hn.readInteger?_eq] at h
    obtain ⟨hwtype, hwn⟩ := FieldType.denotes_of_ofInt? h
    refine .number (fun hwtext => ?_) hwn
    rw [hwtype] at hwtext
    cases hwtext
    exact hinteger
  have hconvert : u.convert? type = some w := by
    rwa [coerce?, if_neg (by simp [hn.isNull_eq_false])] at h
  cases type with
  | int32 | int64 | uint64 => exact hinteger trivial
  | float => exact absurd rfl htype
  | bool =>
      obtain ⟨b, hb, rfl⟩ := Option.map_eq_some_iff.1 hconvert
      rw [toBool?_of_denotes htext hn, boolOfInt?_eq_some_iff] at hb
      exact .number (by simp [type?]) (hb ▸ .bool b)
  | text =>
      obtain ⟨s, hs, rfl⟩ := Option.map_eq_some_iff.1 hconvert
      rw [toText?_of_denotes htext hn] at hs
      cases hs
      exact .text n
  | bytes =>
      obtain ⟨bs, hbs, rfl⟩ := Option.map_eq_some_iff.1 hconvert
      cases hn with
      | bool | int32 | int64 | uint64 => cases hbs
      | text => exact absurd rfl htext

/-- A value that shows an integer is converted to every truth value and every integer that denotes
it. -/
theorem coerce?_of_shows (hw : w.Shows n) (hown : v.type? = some own) (htext : own ≠ .text)
    (hn : v.Denotes n) : w.coerce? own = some v := by
  have hnull := hw.denotes.isNull_eq_false
  have hinteger (hinteger : own.IsInteger) : w.coerce? own = some v := by
    rw [coerce?_integer hinteger hnull, hw.denotes.readInteger?_eq]
    exact ofInt?_of_denotes hinteger hown hn
  cases hn with
  | int32 | int64 | uint64 => cases hown; exact hinteger trivial
  | text => cases hown; exact absurd rfl htext
  | bool b =>
      cases hown
      cases hw with
      | text => cases b <;> decide +kernel
      | number hwtext hwn =>
          rw [coerce?, if_neg (by simp [hnull]), convert?, toBool?_of_denotes hwtext hwn,
            boolOfInt?_eq_some_iff.2 rfl]
          rfl

end Value

namespace FieldType

/-- Whether the values of a type can be recovered from what they become in another type: those of
every type but float and text from all types but float, and texts from bytes. -/
def RecoverableFrom : FieldType → FieldType → Prop
  | .float, _ => False
  | .text, other => other = .bytes
  | _, other => other ≠ .float

variable {type other : FieldType}

theorem recoverableFrom_text (htype : type ≠ .float) :
    type.RecoverableFrom .text ∨ type = .text := by
  cases type with
  | float => exact absurd rfl htype
  | text => exact .inr rfl
  | _ => exact .inl (by simp [RecoverableFrom])

theorem recoverableFrom_integer (htype : type.IsInteger) (hother : other.IsInteger) :
    type.RecoverableFrom other := by
  have hfloat : other ≠ .float := by
    rintro rfl
    exact hother
  cases type with
  | int32 | int64 | uint64 => exact hfloat
  | _ => cases htype

end FieldType

namespace Value

variable {u v w : Value} {type own : FieldType}

theorem coerce?_back (hown : v.type? = some own) (hrecover : own.RecoverableFrom type)
    (h : v.coerce? type = some w) : w.coerce? own = some v := by
  have hnumber {n : Int} (hn : v.Denotes n) (htext : own ≠ .text) (htype : type ≠ .float) :
      w.coerce? own = some v := by
    have hshows := shows_of_coerce? (by simpa [hown] using htext) hn htype h
    exact coerce?_of_shows hshows hown htext hn
  cases v with
  | null => cases hown
  | float => cases hown; exact hrecover.elim
  | bool b => cases hown; exact hnumber (.bool b) (by decide) hrecover
  | int32 n => cases hown; exact hnumber (.int32 n) (by decide) hrecover
  | int64 n => cases hown; exact hnumber (.int64 n) (by decide) hrecover
  | uint64 n => cases hown; exact hnumber (.uint64 n) (by decide) hrecover
  | text s =>
      cases hown
      cases hrecover
      cases h
      exact congrArg (Option.map Value.text) (textOfBytes?_bytesOfText s)
  | bytes bs =>
      cases hown
      cases type with
      | bool | int32 | int64 | uint64 => cases h
      | float => exact absurd rfl hrecover
      | bytes => cases h; rfl
      | text =>
          obtain ⟨s, hs, rfl⟩ := Option.map_eq_some_iff.1 h
          exact congrArg (some ∘ Value.bytes) (bytesOfText_of_textOfBytes? hs)

/-- A coercion of a value of a type, or of what is bound for it, can be undone. -/
theorem coerce?_own_of_bound (hu : u = v ∨ u = v.bound) (hown : v.type? = some own)
    (hrecover : own.RecoverableFrom type ∨ own = type) (h : u.coerce? type = some w) :
    w.coerce? own = some v := by
  have hsame (hu : u = v) : w.coerce? own = some v := by
    subst hu
    rcases hrecover with hrecover | rfl
    · exact coerce?_back hown hrecover h
    · rw [coerce?_of_type? hown] at h
      cases h
      exact coerce?_of_type? hown
  rcases hu with hu | hu
  · exact hsame hu
  cases v with
  | bool b =>
      cases hown
      have htype : type ≠ .float := by
        rcases hrecover with hrecover | rfl
        · exact hrecover
        · decide
      have hbound : u.Denotes (if b then 1 else 0) := by
        subst hu
        cases b
        · exact .int32 0
        · exact .int32 1
      have hshows := shows_of_coerce? (by simp [hu, bound, type?]) hbound htype h
      exact coerce?_of_shows hshows rfl (by decide) (.bool b)
  | _ => exact hsame hu

/-- What is bound for a value of a type is converted to the value. -/
theorem coerce?_bound (hown : v.type? = some own) : v.bound.coerce? own = some v := by
  cases v with
  | bool b => cases hown; cases b <;> rfl
  | _ => exact coerce?_of_type? hown

/-- Everything but null and bytes without a text has a text. -/
theorem exists_coerce?_text_iff (hnull : u.isNull = false) :
    (∃ w, u.coerce? .text = some w) ↔ ∀ bs, u = .bytes bs → ∃ s, bytesOfText s = bs := by
  rw [coerce?, if_neg (by simp [hnull]), convert?]
  cases u with
  | null => cases hnull
  | bytes bs =>
      simp only [toText?, Option.map_eq_some_iff, textOfBytes?_eq_some_iff, bytes.injEq]
      constructor
      · rintro ⟨_, s, hs, -⟩ _ rfl
        exact ⟨s, hs⟩
      · intro h
        obtain ⟨s, hs⟩ := h bs rfl
        exact ⟨_, s, hs, rfl⟩
  | _ => exact iff_of_true ⟨_, rfl⟩ (fun _ heq => by cases heq)

end Value

namespace FieldType

variable {type : FieldType}

@[simp] theorem type?_ofNative (type : FieldType) (x : type.Native) :
    (type.ofNative x).type? = some type := by
  cases type <;> rfl

theorem read_of_coerce? {u : Value} {x : type.Native}
    (h : u.coerce? type = some (type.ofNative x)) : type.read u = .ok x := by
  rw [read, Value.coerce_eq_ok_iff.2 h]
  simp

end FieldType

namespace Value

/-- A coercion gives null for null only, and else a value of the type, which is left alone. What the
value was can be told from the result if neither type is float, except of a text, which comes back
from bytes only. So native data is read from its value, from what is bound for it, and from the text
of either, which only bytes may lack; and integers are read from every integer type that can hold
them. -/
theorem coerce_typed_idempotent_lossless :
    (∀ (v w : Value) (type : FieldType), v.coerce type = .ok w →
      (w = .null ↔ v = .null) ∧ (v ≠ .null → w.type? = some type) ∧ w.coerce type = .ok w ∧
      ∀ own : FieldType, v.type? = some own → own.RecoverableFrom type → w.coerce own = .ok v) ∧
    ∀ (type : FieldType) (x : type.Native) (u : Value), type ≠ .float →
      u = type.ofNative x ∨ u = (type.ofNative x).bound →
      type.read u = .ok x ∧
      ((∃ w, u.coerce .text = .ok w) ↔ ∀ bs, u = .bytes bs → ∃ s, bytesOfText s = bs) ∧
      (∀ w, u.coerce .text = .ok w → type.read w = .ok x) ∧
      ∀ other : FieldType, type.IsInteger → other.IsInteger →
        ((∃ w, u.coerce other = .ok w) ↔ ∃ n, u.Denotes n ∧ other.Holds n) ∧
        ∀ w, u.coerce other = .ok w → type.read w = .ok x := by
  constructor
  · intro v w type h
    rw [coerce_eq_ok_iff] at h
    by_cases hnull : v = .null
    · subst hnull
      cases h
      exact ⟨Iff.rfl, fun hne => absurd rfl hne, rfl, fun own hown => by cases hown⟩
    · have hwtype := type?_of_coerce? (Bool.eq_false_iff.2 (mt isNull_iff.1 hnull)) h
      refine ⟨⟨fun hw => ?_, fun hv => absurd hv hnull⟩, fun _ => hwtype,
        coerce_eq_ok_iff.2 (coerce?_of_type? hwtype), fun own hown hrecover => ?_⟩
      · rw [hw] at hwtype
        cases hwtype
      · exact coerce_eq_ok_iff.2 (coerce?_back hown hrecover h)
  · intro type x u htype hu
    have hown := type.type?_ofNative x
    have hnull : u.isNull = false := by
      rcases hu with rfl | rfl <;> cases type <;> rfl
    have hread {other : FieldType} (hrecover : type.RecoverableFrom other ∨ type = other)
        {w : Value} (h : u.coerce other = .ok w) : type.read w = .ok x :=
      FieldType.read_of_coerce? (coerce?_own_of_bound hu hown hrecover (coerce_eq_ok_iff.1 h))
    have hfloat : u.type? ≠ some .float := by
      rcases hu with rfl | rfl
      · simpa using htype
      · cases type <;> simp_all [FieldType.ofNative, bound, type?]
    refine ⟨FieldType.read_of_coerce? ?_, ?_, fun w => hread ?_, fun other hint hother => ⟨?_, ?_⟩⟩
    · rcases hu with rfl | rfl
      · exact coerce?_of_type? hown
      · exact coerce?_bound hown
    · simpa only [coerce_eq_ok_iff] using exists_coerce?_text_iff hnull
    · exact FieldType.recoverableFrom_text htype
    · exact exists_coerce_integer_iff hother hnull hfloat
    · exact fun w => hread (.inl (FieldType.recoverableFrom_integer hint hother))

/-- The greatest integer of 64 bits comes back from its text, and a truth value from the text of the
integer that is bound for it. -/
theorem coerce_typed_idempotent_lossless_sample :
    (uint64 18446744073709551615).coerce .text = .ok (text "18446744073709551615") ∧
    (text "18446744073709551615").coerce .uint64 = .ok (uint64 18446744073709551615) ∧
    (int32 1).coerce .text = .ok (text "1") ∧ FieldType.bool.read (text "1") = .ok true := by
  obtain ⟨hback, hread⟩ := coerce_typed_idempotent_lossless
  have hgreatest : (uint64 18446744073709551615).coerce .text = .ok (text "18446744073709551615") :=
    coerce_eq_ok_iff.2 (by decide +kernel)
  have hone : (int32 1).coerce .text = .ok (text "1") := coerce_eq_ok_iff.2 (by decide +kernel)
  obtain ⟨-, -, -, hown⟩ := hback _ _ _ hgreatest
  obtain ⟨-, -, hbound, -⟩ := hread .bool true (int32 1) (by decide) (.inr rfl)
  exact ⟨hgreatest, hown .uint64 rfl (by simp [FieldType.RecoverableFrom]), hone, hbound _ hone⟩

end Value

end EntityQuery
