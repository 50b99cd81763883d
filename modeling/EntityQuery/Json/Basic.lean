import EntityQuery.Text.Numeral

/-!
# JSON

JSON data and its compact text, for running: one format among those that values and rows can be
exchanged in. Numbers are kept as they are spelled, and strings as characters and code units, so
that every JSON text can be held, whatever it is then read as.
-/
namespace EntityQuery

namespace Json

/-- An element of a string: a character, or a code unit that is spelled in hexadecimal. -/
inductive Element where
  | char (c : Char)
  | unit (n : Nat)
  deriving DecidableEq, Repr

end Json

/-- JSON data. The members of an object are kept in order, with repetitions. -/
inductive Json where
  | null
  | bool (b : Bool)
  | number (spelling : List Char)
  | string (elements : List Json.Element)
  | array (items : List Json)
  | object (members : List (List Json.Element × Json))
  deriving Repr, Inhabited

namespace Json

/-- The control characters that have a letter of their own after a backslash. -/
def lettered : List Char := ['\x08', '\x0c', '\n', '\r', '\t']

/-- A character as it is spelled in a string: a control character without a letter of its own is
spelled as a code unit. -/
def Element.ofChar (c : Char) : Element :=
  if c < ' ' ∧ c ∉ lettered then .unit c.toNat else .char c

/-- The elements of a text. -/
def elementsOf (s : String) : List Element := s.toList.map .ofChar

/-- A text as a string. -/
def ofText (s : String) : Json := .string (elementsOf s)

/-- An integer. -/
def ofInt (n : Int) : Json := .number (Text.intChars n)

/-- Four hexadecimal digits. -/
def hex4 (n : Nat) : List Char :=
  [n / 4096 % 16, n / 256 % 16, n / 16 % 16, n % 16].map Nat.digitChar

/-- A code unit as an escape. -/
def unitEscape (n : Nat) : List Char := '\\' :: 'u' :: hex4 n

/-- A character inside a string: quotes, backslashes and control characters with a letter of their
own are escaped. -/
def charText (c : Char) : List Char :=
  if c = '"' then ['\\', '"']
  else if c = '\\' then ['\\', '\\']
  else if c = '\x08' then ['\\', 'b']
  else if c = '\x0c' then ['\\', 'f']
  else if c = '\n' then ['\\', 'n']
  else if c = '\r' then ['\\', 'r']
  else if c = '\t' then ['\\', 't']
  else [c]

def Element.text : Element → List Char
  | .char c => charText c
  | .unit n => unitEscape n

/-- A string between quotes. -/
def stringText (elements : List Element) : List Char :=
  '"' :: elements.flatMap Element.text ++ ['"']

mutual

/-- The compact text of JSON data. -/
def write : Json → List Char
  | .null => ['n', 'u', 'l', 'l']
  | .bool true => ['t', 'r', 'u', 'e']
  | .bool false => ['f', 'a', 'l', 's', 'e']
  | .number spelling => spelling
  | .string elements => stringText elements
  | .array [] => ['[', ']']
  | .array (item :: items) => '[' :: item.write ++ writeItems items
  | .object [] => ['{', '}']
  | .object ((name, value) :: members) =>
      '{' :: stringText name ++ ':' :: value.write ++ writeMembers members

/-- The items after the first, up to the closing bracket. -/
def writeItems : List Json → List Char
  | [] => [']']
  | item :: items => ',' :: item.write ++ writeItems items

/-- The members after the first, up to the closing brace. -/
def writeMembers : List (List Element × Json) → List Char
  | [] => ['}']
  | (name, value) :: members =>
      ',' :: stringText name ++ ':' :: value.write ++ writeMembers members

end

end Json

end EntityQuery
