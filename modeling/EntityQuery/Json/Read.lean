import EntityQuery.Json.Basic

/-!
# Reading JSON

The strict grammar of JSON: no zeros in front of a number, a digit on both sides of a point, no
control characters in strings, and nothing but blanks around the data.
-/
namespace EntityQuery.Json

/-- The blanks between tokens. -/
def isBlank (c : Char) : Bool := c = ' ' || c = '\t' || c = '\n' || c = '\r'

/-- Skips the blanks at the start. -/
def skip (cs : List Char) : List Char := cs.dropWhile isBlank

/-- The number that a hexadecimal digit stands for. -/
def hexDigit? (c : Char) : Option Nat :=
  if c.isDigit then some (c.toNat - 48)
  else if 'a' ≤ c ∧ c ≤ 'f' then some (c.toNat - 87)
  else if 'A' ≤ c ∧ c ≤ 'F' then some (c.toNat - 55)
  else none

/-- The code unit that four hexadecimal digits spell. -/
def codeUnit? (a b c d : Char) : Option Nat := do
  let a ← hexDigit? a
  let b ← hexDigit? b
  let c ← hexDigit? c
  let d ← hexDigit? d
  return ((a * 16 + b) * 16 + c) * 16 + d

/-- The character that a letter after a backslash stands for. -/
def escaped? : Char → Option Char
  | '"' => some '"'
  | '\\' => some '\\'
  | '/' => some '/'
  | 'b' => some '\x08'
  | 'f' => some '\x0c'
  | 'n' => some '\n'
  | 'r' => some '\r'
  | 't' => some '\t'
  | _ => none

/-- The elements of a string up to the closing quote, and what follows it. -/
def readString? : List Char → Option (List Element × List Char)
  | [] => none
  | '"' :: rest => some ([], rest)
  | '\\' :: 'u' :: a :: b :: c :: d :: rest => do
      let n ← codeUnit? a b c d
      let (elements, rest) ← readString? rest
      return (.unit n :: elements, rest)
  | '\\' :: c :: rest => do
      let c ← escaped? c
      let (elements, rest) ← readString? rest
      return (.char c :: elements, rest)
  | c :: rest =>
      if c < ' ' || c = '\\' then none
      else do
        let (elements, rest) ← readString? rest
        return (.char c :: elements, rest)

/-- At least one digit, and what follows the digits. -/
def spanDigits? (cs : List Char) : Option (List Char × List Char) :=
  let parts := cs.span Char.isDigit
  if parts.1.isEmpty then none else some parts

/-- The whole digits of a number: a zero alone, or digits that do not start with one. -/
def spanWhole? : List Char → Option (List Char × List Char)
  | '0' :: c :: rest => if c.isDigit then none else some (['0'], c :: rest)
  | cs => spanDigits? cs

/-- The fraction of a number, if there is one. -/
def spanFraction? : List Char → Option (List Char × List Char)
  | '.' :: rest => (spanDigits? rest).map fun parts => ('.' :: parts.1, parts.2)
  | cs => some ([], cs)

/-- The sign of an exponent, if there is one. -/
def spanSign : List Char → List Char × List Char
  | '+' :: rest => (['+'], rest)
  | '-' :: rest => (['-'], rest)
  | cs => ([], cs)

/-- The exponent of a number, if there is one. -/
def spanExponent? : List Char → Option (List Char × List Char)
  | [] => some ([], [])
  | c :: rest =>
      if c = 'e' ∨ c = 'E' then
        let sign := spanSign rest
        (spanDigits? sign.2).map fun parts => (c :: sign.1 ++ parts.1, parts.2)
      else some ([], c :: rest)

/-- The minus of a number, if there is one. -/
def spanMinus : List Char → List Char × List Char
  | '-' :: rest => (['-'], rest)
  | cs => ([], cs)

/-- The spelling of a number, and what follows it. -/
def spanNumber? (cs : List Char) : Option (List Char × List Char) := do
  let minus := spanMinus cs
  let whole ← spanWhole? minus.2
  let fraction ← spanFraction? whole.2
  let exponent ← spanExponent? fraction.2
  return (minus.1 ++ whole.1 ++ fraction.1 ++ exponent.1, exponent.2)

mutual

/-- A value at the start of a text, and what follows it. The fuel bounds the steps. -/
def readValue? : (fuel : Nat) → List Char → Option (Json × List Char)
  | 0, _ => none
  | fuel + 1, cs =>
      match skip cs with
      | 'n' :: 'u' :: 'l' :: 'l' :: rest => some (.null, rest)
      | 't' :: 'r' :: 'u' :: 'e' :: rest => some (.bool true, rest)
      | 'f' :: 'a' :: 'l' :: 's' :: 'e' :: rest => some (.bool false, rest)
      | '"' :: rest => (readString? rest).map fun parts => (.string parts.1, parts.2)
      | '[' :: rest =>
          match skip rest with
          | ']' :: rest => some (.array [], rest)
          | rest => (readItems? fuel rest).map fun parts => (.array parts.1, parts.2)
      | '{' :: rest =>
          match skip rest with
          | '}' :: rest => some (.object [], rest)
          | rest => (readMembers? fuel rest).map fun parts => (.object parts.1, parts.2)
      | rest => (spanNumber? rest).map fun parts => (.number parts.1, parts.2)

/-- The items of an array up to the closing bracket. -/
def readItems? : (fuel : Nat) → List Char → Option (List Json × List Char)
  | 0, _ => none
  | fuel + 1, cs => do
      let (item, rest) ← readValue? fuel cs
      match skip rest with
      | ',' :: rest =>
          let (items, rest) ← readItems? fuel rest
          return (item :: items, rest)
      | ']' :: rest => return ([item], rest)
      | _ => none

/-- The members of an object up to the closing brace. -/
def readMembers? : (fuel : Nat) → List Char → Option (List (List Element × Json) × List Char)
  | 0, _ => none
  | fuel + 1, cs =>
      match skip cs with
      | '"' :: rest => do
          let (name, rest) ← readString? rest
          match skip rest with
          | ':' :: rest =>
              let (value, rest) ← readValue? fuel rest
              match skip rest with
              | ',' :: rest =>
                  let (members, rest) ← readMembers? fuel rest
                  return ((name, value) :: members, rest)
              | '}' :: rest => return ([(name, value)], rest)
              | _ => none
          | _ => none
      | _ => none

end

/-- The data that a text spells. Each step uses up a character, so the length bounds the steps. -/
def read? (text : List Char) : Option Json := do
  let (value, rest) ← readValue? (text.length + 1) text
  if (skip rest).isEmpty then some value else none

end EntityQuery.Json
