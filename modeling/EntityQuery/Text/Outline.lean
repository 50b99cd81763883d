import EntityQuery.Text.Combining
import EntityQuery.Text.Unprintable

/-!
# Texts in outlines

An outline shows a piece of data with its structure, for diagnostics. A text stands in it between
double quotes, and every character that could mislead a reader is escaped: the quote, the
backslash, control characters, and what is combining or unprintable. A single quote is not escaped.
-/
namespace EntityQuery.Text

/-- The code point of a character in lower-case hexadecimal, as `\u{..}`. -/
def codePointEscape (c : Char) : List Char :=
  ['\\', 'u', '{'] ++ Nat.toDigits 16 c.toNat ++ ['}']

/-- One character of a text in an outline. -/
def outlineChar (c : Char) : List Char :=
  if c = '\x00' then ['\\', '0']
  else if c = '\t' then ['\\', 't']
  else if c = '\r' then ['\\', 'r']
  else if c = '\n' then ['\\', 'n']
  else if c = '\\' ∨ c = '"' then ['\\', c]
  else if ' ' ≤ c ∧ c ≤ '~' then [c]
  else if isCombining c || isUnprintable c then codePointEscape c
  else [c]

/-- A text in an outline. -/
def outline (s : String) : String :=
  String.ofList ('"' :: s.toList.flatMap outlineChar ++ ['"'])

/-- Items in an outline, between brackets. -/
def outlineList (items : List String) : String := "[" ++ ", ".intercalate items ++ "]"

end EntityQuery.Text
