import EntityQuery.Binary64.Style
import EntityQuery.Text.Outline
import EntityQuery.Value.Basic

/-!
# Values as text

Three texts of a value: its literal in a statement, its form as a member of a comma-separated list,
and its outline, which also shows its kind. The literal of a text stands between single quotes; a
single quote inside is written twice.
-/
namespace EntityQuery

/-- The text of a whole number. -/
def Text.int (n : Int) : String := String.ofList (Text.intChars n)

/-- The text of a natural number. -/
def Text.nat (n : Nat) : String := String.ofList (Nat.toDigits 10 n)

/-- The inside of a literal: every single quote is doubled. -/
def Text.doubleQuotes : List Char → List Char
  | [] => []
  | c :: cs => if c = '\'' then '\'' :: '\'' :: doubleQuotes cs else c :: doubleQuotes cs

/-- The literal for a text. -/
def Text.quoted (s : String) : String :=
  String.ofList ('\'' :: doubleQuotes s.toList ++ ['\''])

/-- The outline of bytes. -/
def Text.outlineBytes (bs : List UInt8) : String :=
  Text.outlineList (bs.map fun b => Text.nat b.toNat)

/-- The outline of a piece of data with a constructor and one argument. -/
def Text.outlineOf (constructor argument : String) : String := constructor ++ "(" ++ argument ++ ")"

def FieldType.name : FieldType → String
  | .bool => "Bool"
  | .int32 => "Int32"
  | .int64 => "Int64"
  | .uint64 => "UInt64"
  | .float => "Float"
  | .text => "Text"
  | .bytes => "Bytes"

namespace Value

def boolName (b : Bool) : String := if b then "true" else "false"

/-- The text of a value as a member of a comma-separated list. Null and bytes have none. -/
def listItem? : Value → Option String
  | .null => none
  | .bool b => some (if b then "1" else "0")
  | .int32 n => some (Text.int n.toInt)
  | .int64 n => some (Text.int n.toInt)
  | .uint64 n => some (Text.nat n.toNat)
  | .float x => some (Binary64.Style.plain.write x)
  | .text s => some s
  | .bytes _ => none

/-- The literal of a value in a statement; bytes are only counted. -/
def literal : Value → String
  | .null => "NULL"
  | .bool b => boolName b
  | .int32 n => Text.int n.toInt
  | .int64 n => Text.int n.toInt
  | .uint64 n => Text.nat n.toNat
  | .float x => Binary64.Style.plain.write x
  | .text s => Text.quoted s
  | .bytes bs => "<" ++ Text.nat bs.length ++ " bytes>"

/-- The outline of a value. -/
def outline : Value → String
  | .null => "Null"
  | .bool b => Text.outlineOf "Bool" (boolName b)
  | .int32 n => Text.outlineOf "Int32" (Text.int n.toInt)
  | .int64 n => Text.outlineOf "Int64" (Text.int n.toInt)
  | .uint64 n => Text.outlineOf "UInt64" (Text.nat n.toNat)
  | .float x => Text.outlineOf "Float" (Binary64.Style.outline.write x)
  | .text s => Text.outlineOf "Text" (Text.outline s)
  | .bytes bs => Text.outlineOf "Bytes" (Text.outlineBytes bs)

end Value

/-- The outline of a key component; a float shows its bits as a number. -/
def KeyPart.outline : KeyPart → String
  | .null => "Null"
  | .int n => Text.outlineOf "Int" (Text.int n)
  | .float x => Text.outlineOf "Float" (Text.nat x.bits.toNat)
  | .text s => Text.outlineOf "Text" (Text.outline s)
  | .bytes bs => Text.outlineOf "Bytes" (Text.outlineBytes bs)

end EntityQuery
