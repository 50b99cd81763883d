/-!
# Decimal numerals

Whole numbers as text. A numeral is read with an optional sign and at least one digit, and with
nothing else; leading zeros are allowed.
-/
namespace EntityQuery.Text

/-- The number written by decimal digits alone; at least one is needed. -/
def readNat? (cs : List Char) : Option Nat :=
  if cs.isEmpty || !cs.all Char.isDigit then none else some (Nat.ofDigitChars 10 cs 0)

/-- The whole number written by an optional sign and decimal digits. -/
def readInt? : List Char → Option Int
  | '-' :: cs => (readNat? cs).map fun n => -(n : Int)
  | '+' :: cs => (readNat? cs).map fun n => (n : Int)
  | cs => (readNat? cs).map fun n => (n : Int)

/-- The characters of a whole number in decimal notation. -/
def intChars (n : Int) : List Char :=
  if n < 0 then '-' :: Nat.toDigits 10 n.natAbs else Nat.toDigits 10 n.natAbs

/-- The number of decimal digits of a natural number. -/
def decimalLength (n : Nat) : Nat := (Nat.toDigits 10 n).length

theorem toDigits_ne_nil (n : Nat) : Nat.toDigits 10 n ≠ [] := by
  rw [Nat.toDigits_eq_if (by decide)]
  split <;> simp

theorem isDigit_of_mem_toDigits {n : Nat} {c : Char} (h : c ∈ Nat.toDigits 10 n) :
    c.isDigit = true :=
  Nat.isDigit_of_mem_toDigits (by decide) (by decide) h

theorem readNat?_toDigits (n : Nat) : readNat? (Nat.toDigits 10 n) = some n := by
  have digits : (Nat.toDigits 10 n).all Char.isDigit = true :=
    List.all_eq_true.2 fun _ h => isDigit_of_mem_toDigits h
  simp [readNat?, digits, Nat.ofDigitChars_toDigits]

/-- A text that starts with a digit is read without a sign. -/
theorem readInt?_of_isDigit {c : Char} {cs : List Char} (h : c.isDigit = true) :
    readInt? (c :: cs) = (readNat? (c :: cs)).map fun n => (n : Int) := by
  unfold readInt?
  split
  · next heq => cases heq; simp [Char.isDigit] at h
  · next heq => cases heq; simp [Char.isDigit] at h
  · rfl

/-- Reading gives back the number that was written. -/
theorem readInt?_intChars (n : Int) : readInt? (intChars n) = some n := by
  unfold intChars
  split
  · simp only [readInt?, readNat?_toDigits]
    exact congrArg some (show -(n.natAbs : Int) = n by omega)
  · obtain ⟨d, ds, hd⟩ := List.exists_cons_of_ne_nil (toDigits_ne_nil n.natAbs)
    have digit : d.isDigit = true := isDigit_of_mem_toDigits (n := n.natAbs) (by simp [hd])
    rw [hd, readInt?_of_isDigit digit, ← hd, readNat?_toDigits]
    exact congrArg some (show (n.natAbs : Int) = n by omega)

end EntityQuery.Text
