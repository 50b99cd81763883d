import EntityQuery.Proofs.Json.Codec

/-!
# Values and rows from JSON

What comes back of values and rows that were written, with any library for JSON and any derived code
that keep their laws. The payload of a value is read part by part, and under the name of its variant
it is the value. So values that are no floats come back, and rows of them, whatever characters their
texts and the names of their columns have.
-/
namespace EntityQuery

namespace JsonFormat

variable {F : JsonFormat} {v : Value} {name payload : String}

theorem integer_reads_back (hF : F.Lawful) {n : Int} (hlower : -2 ^ 63 ≤ n) (hupper : n < 2 ^ 64) :
    F.Written (F.integer n) ∧ F.integer? (F.integer n) = some n :=
  ⟨.integer hlower hupper, hF.integer n hlower hupper⟩

theorem bytes_read_back (hF : F.Lawful) (bs : List UInt8) :
    (∀ item ∈ bs.map fun b => F.integer b.toNat, F.Written item) ∧
      List.Forall₂ (fun item b => F.integer? item = some (UInt8.toNat b))
        (bs.map fun b => F.integer b.toNat) bs := by
  have hbyte (b : UInt8) : F.Written (F.integer b.toNat) ∧
      F.integer? (F.integer b.toNat) = some (b.toNat : Int) := by
    have hupper := b.toNat_lt
    exact integer_reads_back hF (by omega) (by omega)
  constructor
  · intro item hmem
    obtain ⟨b, -, rfl⟩ := List.mem_map.1 hmem
    exact (hbyte b).1
  · rw [List.forall₂_map_left_iff, List.forall₂_same]
    exact fun b _ => (hbyte b).2

/-- The payload of a value is written, and holds the value. The integers of all types have 64 bits
at most. -/
theorem payload_reads_back (hF : F.Lawful) (h : F.payload? v = some (name, payload)) :
    F.Written payload ∧ F.Holds name payload v := by
  cases v with
  | null => cases h
  | float x => cases h
  | bool b =>
      cases h
      exact ⟨.bool b, .bool (hF.bool b)⟩
  | int32 n =>
      cases h
      have hlower := n.le_toInt
      have hupper := n.toInt_lt
      obtain ⟨hwritten, hread⟩ := integer_reads_back hF (n := n.toInt) (by omega) (by omega)
      exact ⟨hwritten, .int32 hread⟩
  | int64 n =>
      cases h
      have hlower := n.le_toInt
      have hupper := n.toInt_lt
      obtain ⟨hwritten, hread⟩ := integer_reads_back hF (n := n.toInt) (by omega) (by omega)
      exact ⟨hwritten, .int64 hread⟩
  | uint64 n =>
      cases h
      have hupper := n.toNat_lt
      obtain ⟨hwritten, hread⟩ := integer_reads_back hF (n := n.toNat) (by omega) (by omega)
      exact ⟨hwritten, .uint64 hread⟩
  | text s =>
      cases h
      exact ⟨.string s, .text (hF.string s)⟩
  | bytes bs =>
      cases h
      obtain ⟨hwritten, hread⟩ := bytes_read_back hF bs
      exact ⟨.array hwritten, .bytes (hF.array _ hwritten) hread⟩

end JsonFormat

namespace DerivedCodec

variable {C : DerivedCodec} {F : JsonFormat} {v : Value}

/-- A value that is neither null nor a float has a payload. -/
theorem exists_payload (hnull : v ≠ .null) (hfloat : v.type? ≠ some .float) :
    ∃ name payload, F.payload? v = some (name, payload) := by
  cases v with
  | null => exact absurd rfl hnull
  | float x => exact absurd rfl hfloat
  | _ => exact ⟨_, _, rfl⟩

/-- A value that is no float is written, and read as itself. -/
theorem value_reads_back (hF : F.Lawful) (hC : C.Follows F) (h : v.type? ≠ some .float) :
    F.Written (C.writeValue v) ∧ C.readValue? (C.writeValue v) = some v := by
  by_cases hnull : v = .null
  · rw [hnull, hC.write_null]
    exact ⟨.string _, hC.read_null _ (.string _) (hF.string _)⟩
  · obtain ⟨name, payload, hpayload⟩ := exists_payload hnull h
    obtain ⟨hwritten, hholds⟩ := JsonFormat.payload_reads_back hF hpayload
    rw [hC.write_tagged v name payload hpayload]
    exact ⟨.object name hwritten, hC.read_tagged _ name payload v (.object name hwritten)
      (hF.object name payload hwritten) hholds⟩

/-- A column of such a value is written, and holds the column. -/
theorem column_reads_back (hF : F.Lawful) (hC : C.Follows F) {column : String × Value}
    (h : column.2.type? ≠ some .float) :
    F.Written (C.writeColumn F column) ∧ C.HoldsColumn F (C.writeColumn F column) column := by
  obtain ⟨hwritten, hread⟩ := value_reads_back hF hC h
  have hparts : ∀ part ∈ [F.string column.1, C.writeValue column.2], F.Written part := by
    simpa using ⟨.string column.1, hwritten⟩
  exact ⟨.array hparts, _, _, hF.array _ hparts, hF.string _, hread⟩

/-- Values that are no floats come back from the text that is written for them, and so do rows of
such values. -/
theorem written_reads_back (hF : F.Lawful) (hC : C.Follows F) :
    (∀ v : Value, v.type? ≠ some .float → C.readValue? (C.writeValue v) = some v) ∧
    ∀ row : Row, (∀ column ∈ row.columns, column.2.type? ≠ some .float) →
      C.readRow? (C.writeRow row) = some row := by
  refine ⟨fun v h => (value_reads_back hF hC h).2, fun row h => ?_⟩
  have hitems : ∀ item ∈ row.columns.map (C.writeColumn F), F.Written item := by
    intro item hmem
    obtain ⟨column, hcolumn, rfl⟩ := List.mem_map.1 hmem
    exact (column_reads_back hF hC (h column hcolumn)).1
  have hlist : F.Written (F.array (row.columns.map (C.writeColumn F))) := .array hitems
  rw [hC.write_row]
  refine hC.read_row _ _ _ row.columns (.object _ hlist) (hF.object _ _ hlist)
    (hF.array _ hitems) ?_
  rw [List.forall₂_map_left_iff, List.forall₂_same]
  exact fun column hcolumn => (column_reads_back hF hC (h column hcolumn)).2

end DerivedCodec

namespace Json

/-- A row with two columns of one name, which has a quote and a backslash, and values at the limits
of their types, a text with control characters among them. -/
def sampleRow : Row :=
  ⟨[("\"", .uint64 18446744073709551615), ("\"", .int64 (-9223372036854775808)),
    ("a\\", .text "\t\x01\"é"), ("b", .bytes [0, 255]), ("c", .null)]⟩

theorem written_reads_back_sample :
    codec.readValue? (codec.writeValue (.int32 (-2147483648))) = some (.int32 (-2147483648)) ∧
    codec.readRow? (codec.writeRow sampleRow) = some sampleRow := by
  obtain ⟨hvalues, hrows⟩ := DerivedCodec.written_reads_back format_lawful codec_follows
  exact ⟨hvalues _ (by decide), hrows sampleRow (by decide)⟩

/-- The tab has a letter for it, the other control character only a number. -/
example : codec.writeValue (.text "\t\x01") = "\x7b\"Text\":\"\\t\\u0001\"\x7d" := by
  decide +kernel

end Json

end EntityQuery
