import EntityQuery.Json.Codec
import EntityQuery.Proofs.Json.Format
import EntityQuery.Proofs.Json.Reading
import EntityQuery.Proofs.Value.RoundTrip

/-!
# A format and its codec

JSON data with its writer and its reader is a library for JSON that keeps the laws of one, and the
data for values and rows has the shape that derived code gives to them. A text that is written is
that of plain data, which is read as it was written; so each law comes down to the data.
-/
namespace EntityQuery

namespace Json

/-- The data that is written for values and rows. -/
inductive Plain : Json → Prop
  | bool (b : Bool) : Plain (.bool b)
  | integer (n : Int) : Plain (.ofInt n)
  | text (s : String) : Plain (.ofText s)
  | array {items : List Json} (h : ∀ item ∈ items, Plain item) : Plain (.array items)
  | object (name : String) {value : Json} (h : Plain value) :
      Plain (.object [(elementsOf name, value)])

theorem Plain.readsBack {j : Json} (h : Plain j) : ReadsBack j := by
  induction h with
  | bool b => exact readsBack_bool b
  | integer n => exact readsBack_ofInt n
  | text s => exact readsBack_ofText s
  | array _ ih => exact readsBack_array ih
  | object name _ ih => exact readsBack_object name ih

/-- The text of data. -/
def written (j : Json) : String := String.ofList j.write

/-- What the data of a text is read as. -/
def readAs? {α : Type} (decode : Json → Option α) (text : String) : Option α :=
  (read? text.toList).bind decode

/-- A text that was written for plain data is read as the data is. -/
theorem readAs?_written {α : Type} {j : Json} (h : Plain j) (decode : Json → Option α) :
    readAs? decode j.written = decode j := by
  rw [readAs?, written, String.toList_ofList, h.readsBack.read?, Option.bind_some]

/-- The texts of the items of an array. -/
def asItems? : Json → Option (List String)
  | .array items => some (items.map written)
  | _ => none

/-- The name of the only member of an object, and the text of its value. -/
def asMember? : Json → Option (String × String)
  | .object [(name, value)] => (text? name).map fun cs => (String.ofList cs, value.written)
  | _ => none

/-- JSON data with its writer and its reader as a library. -/
def format : JsonFormat where
  bool b := (Json.bool b).written
  integer n := (ofInt n).written
  string s := (ofText s).written
  array items :=
    String.ofList ('[' :: List.intercalate [','] (items.map String.toList) ++ [']'])
  object name value :=
    String.ofList ('{' :: stringText (elementsOf name) ++ ':' :: value.toList ++ ['}'])
  bool? := readAs? asBool?
  integer? := readAs? asInt?
  string? := readAs? asText?
  array? := readAs? asItems?
  object? := readAs? asMember?

theorem intercalate_write (first : Json) (items : List Json) :
    List.intercalate [','] ((first :: items).map write) ++ [']'] =
      first.write ++ writeItems items := by
  induction items generalizing first with
  | nil => simp [List.intercalate, writeItems]
  | cons next items ih =>
      have hrest := ih next
      simp only [List.intercalate, List.map_cons, List.intersperse_cons_cons, List.flatten_cons,
        List.append_assoc] at hrest ⊢
      rw [hrest, writeItems]
      simp

/-- The text of an array is put together from the texts of its items. -/
theorem format_array (items : List Json) :
    format.array (items.map written) = (Json.array items).written := by
  have htexts : (items.map written).map String.toList = items.map write := by
    simp [written, Function.comp_def]
  refine congrArg String.ofList ?_
  rw [htexts]
  cases items with
  | nil => rfl
  | cons first items => rw [List.cons_append, intercalate_write, write, List.cons_append]

theorem format_object (name : String) (value : Json) :
    format.object name value.written = (Json.object [(elementsOf name, value)]).written := by
  simp [format, written, write, writeMembers]

/-- Texts of plain data are those of a list of plain data. -/
theorem exists_plain_items {texts : List String}
    (h : ∀ text ∈ texts, ∃ j, Plain j ∧ j.written = text) :
    ∃ items : List Json, (∀ item ∈ items, Plain item) ∧ items.map written = texts := by
  induction texts with
  | nil => exact ⟨[], by simp, rfl⟩
  | cons text texts ih =>
      obtain ⟨⟨j, hj, htext⟩, hrest⟩ := List.forall_mem_cons.1 h
      obtain ⟨items, hitems, htexts⟩ := ih hrest
      exact ⟨j :: items, List.forall_mem_cons.2 ⟨hj, hitems⟩, congrArg₂ List.cons htext htexts⟩

/-- A text that is written is that of plain data. -/
theorem exists_plain {text : String} (h : format.Written text) :
    ∃ j, Plain j ∧ j.written = text := by
  induction h with
  | bool b => exact ⟨_, .bool b, rfl⟩
  | @integer n => exact ⟨_, .integer n, rfl⟩
  | string s => exact ⟨_, .text s, rfl⟩
  | array _ ih =>
      obtain ⟨items, hitems, rfl⟩ := exists_plain_items ih
      exact ⟨_, .array hitems, (format_array items).symm⟩
  | object name _ ih =>
      obtain ⟨j, hj, rfl⟩ := ih
      exact ⟨_, .object name hj, (format_object name j).symm⟩

theorem asInt?_ofInt (n : Int) : asInt? (.ofInt n) = some n := integer?_intChars n

theorem asText?_ofText (s : String) : asText? (.ofText s) = some s := by
  simp [asText?, ofText]

theorem asMember?_object (name : String) (value : Json) :
    asMember? (.object [(elementsOf name, value)]) = some (name, value.written) := by
  simp [asMember?]

/-- What is written by the library is read by it. -/
theorem format_lawful : format.Lawful where
  bool b := readAs?_written (.bool b) asBool?
  integer n _ _ := by
    dsimp only [format]
    rw [readAs?_written (.integer n), asInt?_ofInt]
  string s := by
    dsimp only [format]
    rw [readAs?_written (.text s), asText?_ofText]
  array texts h := by
    obtain ⟨items, hitems, rfl⟩ := exists_plain_items fun text hmem => exists_plain (h text hmem)
    rw [format_array]
    exact readAs?_written (.array hitems) asItems?
  object name value h := by
    obtain ⟨j, hj, rfl⟩ := exists_plain h
    rw [format_object]
    dsimp only [format]
    rw [readAs?_written (.object name hj), asMember?_object]

/-- Each item of a list is read as what its text holds, if plain data is. -/
theorem readEach?_eq_some {α : Type} {item? : Json → Option α} {Holds : String → α → Prop}
    (hitem : ∀ j x, Plain j → Holds j.written x → item? j = some x) {items : List Json}
    (hplain : ∀ item ∈ items, Plain item) {xs : List α}
    (h : List.Forall₂ Holds (items.map written) xs) : readEach? item? items = some xs := by
  rw [List.forall₂_map_left_iff] at h
  induction h with
  | nil => rfl
  | cons hfirst _ ih =>
      obtain ⟨hj, hrest⟩ := List.forall_mem_cons.1 hplain
      simp [readEach?, hitem _ _ hj hfirst, ih hrest]

theorem asByte?_of_asInt? {j : Json} {b : UInt8} (h : j.asInt? = some (b.toNat : Int)) :
    j.asByte? = some b := by
  have hb := b.toNat_lt
  rw [asByte?, h, Option.bind_some, if_pos (by omega), Int.toNat_natCast, UInt8.ofNat_toNat]

/-- What a text of plain data holds under a name is what the name makes of the data. -/
theorem ofTagged?_of_holds {name : String} {payload : Json} {v : Value} (hj : Plain payload)
    (h : format.Holds name payload.written v) : Value.ofTagged? name (some payload) = some v := by
  have hread {α : Type} {decode : Json → Option α} {x : α}
      (h : readAs? decode payload.written = some x) : decode payload = some x :=
    (readAs?_written hj decode).symm.trans h
  have hinteger {type : FieldType} {n : Int} (hint : readAs? asInt? payload.written = some n)
      (hn : type.ofInt? n = some v) : payload.asInt?.bind type.ofInt? = some v := by
    rw [hread hint, Option.bind_some, hn]
  generalize hwritten : payload.written = text at h
  cases h with
  | bool h => exact congrArg (Option.map Value.bool) (hread (hwritten ▸ h))
  | @int32 _ n h => exact hinteger (hwritten ▸ h) (Value.ofInt?_of_denotes trivial rfl (.int32 n))
  | @int64 _ n h => exact hinteger (hwritten ▸ h) (Value.ofInt?_of_denotes trivial rfl (.int64 n))
  | @uint64 _ n h => exact hinteger (hwritten ▸ h) (Value.ofInt?_of_denotes trivial rfl (.uint64 n))
  | text h => exact congrArg (Option.map Value.text) (hread (hwritten ▸ h))
  | bytes h hbytes =>
      have hitems : asItems? payload = some _ := hread (hwritten ▸ h)
      cases hj with
      | array hplain =>
          cases hitems
          refine congrArg (Option.map Value.bytes) (readEach?_eq_some (fun j b hj hb => ?_) hplain
            hbytes)
          exact asByte?_of_asInt? ((readAs?_written hj asInt?).symm.trans hb)
      | _ => cases hitems

/-- The data for values and rows with its writer and its reader. -/
def codec : DerivedCodec where
  writeValue v := v.toJson.written
  readValue? := readAs? Value.ofJson?
  writeRow row := row.toJson.written
  readRow? := readAs? Row.ofJson?

theorem ofJson?_object (name : String) (payload : Json) :
    Value.ofJson? (.object [(elementsOf name, payload)]) =
      Value.ofTagged? name (some payload) := by
  simp [Value.ofJson?, tagged?]

/-- A column is read from the data of a pair that holds it. -/
theorem columnOfJson?_of_holds {j : Json} {column : String × Value} (hj : Plain j)
    (h : codec.HoldsColumn format j.written column) : Row.columnOfJson? j = some column := by
  obtain ⟨name, value, hpair, hname, hvalue⟩ := h
  have hpair : asItems? j = some [name, value] := (readAs?_written hj asItems?).symm.trans hpair
  cases hj with
  | @array items hplain =>
      obtain hitems : items.map written = [name, value] := Option.some.inj hpair
      rcases items with _ | ⟨first, _ | ⟨second, _ | ⟨third, rest⟩⟩⟩
      · cases hitems
      · cases hitems
      · cases hitems
        have hfirst : first.asText? = some column.1 :=
          (readAs?_written (hplain first (by simp)) asText?).symm.trans hname
        have hsecond : Value.ofJson? second = some column.2 :=
          (readAs?_written (hplain second (by simp)) Value.ofJson?).symm.trans hvalue
        simp [Row.columnOfJson?, hfirst, hsecond]
      · cases hitems
  | _ => cases hpair

/-- The data for values and rows has the shape that is derived from their declarations. -/
theorem codec_follows : codec.Follows format where
  write_null := rfl
  write_tagged v name payload h := by
    cases v with
    | null => cases h
    | float x => cases h
    | bytes bs =>
        cases h
        have hitems : bs.map (fun b => format.integer b.toNat) =
            (bs.map fun b => ofInt b.toNat).map written := by
          rw [List.map_map]
          rfl
        rw [hitems, format_array, format_object]
        rfl
    | _ =>
        cases h
        exact (format_object _ _).symm
  write_row row := by
    have hcolumns : row.columns.map (codec.writeColumn format) =
        (row.columns.map fun column => Json.array [.ofText column.1, column.2.toJson]).map
          written := by
      rw [List.map_map]
      exact List.map_congr_left fun column _ =>
        format_array [.ofText column.1, column.2.toJson]
    rw [hcolumns, format_array, format_object]
    rfl
  read_null text hwritten h := by
    obtain ⟨j, hj, rfl⟩ := exists_plain hwritten
    have htext : asText? j = some "Null" := (readAs?_written hj asText?).symm.trans h
    refine (readAs?_written hj Value.ofJson?).trans ?_
    cases hj with
    | text s =>
        obtain rfl : s = "Null" := Option.some.inj ((asText?_ofText s).symm.trans htext)
        decide +kernel
    | _ => cases htext
  read_tagged text name payload v hwritten hmember h := by
    obtain ⟨j, hj, rfl⟩ := exists_plain hwritten
    have hmember : asMember? j = some (name, payload) :=
      (readAs?_written hj asMember?).symm.trans hmember
    refine (readAs?_written hj Value.ofJson?).trans ?_
    cases hj with
    | object tag hvalue =>
        rw [asMember?_object] at hmember
        cases hmember
        rw [ofJson?_object]
        exact ofTagged?_of_holds hvalue h
    | _ => cases hmember
  read_row text list items columns hwritten hmember hlist h := by
    obtain ⟨j, hj, rfl⟩ := exists_plain hwritten
    have hmember : asMember? j = some ("columns", list) :=
      (readAs?_written hj asMember?).symm.trans hmember
    refine (readAs?_written hj Row.ofJson?).trans ?_
    cases hj with
    | @object name value hvalue =>
        rw [asMember?_object] at hmember
        obtain ⟨rfl, rfl⟩ := Prod.mk.inj (Option.some.inj hmember)
        have hlist : asItems? value = some items :=
          (readAs?_written hvalue asItems?).symm.trans hlist
        cases hvalue with
        | array hplain =>
            cases hlist
            have hcolumns := readEach?_eq_some (fun _ _ => columnOfJson?_of_holds) hplain h
            simp [Row.ofJson?, Row.columnsMember?, Row.columnsOfJson?, hcolumns]
        | _ => cases hlist
    | _ => cases hmember

end Json

end EntityQuery
