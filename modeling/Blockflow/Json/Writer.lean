import Blockflow.Decimal.Text
import Blockflow.Json.Basic
import Blockflow.Text.Digits

/-!
# Writing JSON

The compact form has no spaces; the indented form has one item or member a line, two spaces deeper
than its container. Characters beyond ASCII are written as they are.
-/

namespace Blockflow.Json

/-- The written form of one character of a string. -/
def quotedChar (c : Char) : List Char :=
  if c = '"' then ['\\', '"']
  else if c = '\\' then ['\\', '\\']
  else if c = '\n' then ['\\', 'n']
  else if c = '\r' then ['\\', 'r']
  else if c = '\t' then ['\\', 't']
  else if c = '\x08' then ['\\', 'b']
  else if c = '\x0c' then ['\\', 'f']
  else if c.toNat < 0x20 then
    ['\\', 'u', '0', '0', Text.hexDigit (c.toNat / 16), Text.hexDigit (c.toNat % 16)]
  else [c]

/-- A string in quotes. -/
def quoted (s : String) : String :=
  String.ofList ('"' :: s.toList.flatMap quotedChar ++ ['"'])

/-- The written form of a number. -/
def Number.text : Json.Number → String
  | .int n => toString n
  | .real x => Decimal.exact x

mutual

/-- The compact written form. -/
def compact : Json → String
  | .null => "null"
  | .bool b => if b then "true" else "false"
  | .num n => n.text
  | .str s => quoted s
  | .arr items => "[" ++ compactItems items ++ "]"
  | .obj members => "\x7b" ++ compactMembers members ++ "\x7d"

/-- Items in compact form, with commas between them. -/
def compactItems : List Json → String
  | [] => ""
  | [item] => compact item
  | item :: rest => compact item ++ "," ++ compactItems rest

/-- Members in compact form, with commas between them. -/
def compactMembers : List (String × Json) → String
  | [] => ""
  | [(key, value)] => quoted key ++ ":" ++ compact value
  | (key, value) :: rest => quoted key ++ ":" ++ compact value ++ "," ++ compactMembers rest

end

/-- The start of a new line at the given depth. -/
def lineStart (depth : Nat) : String := String.ofList ('\n' :: List.replicate (2 * depth) ' ')

mutual

/-- The indented written form of a value at the given depth. -/
def indentedAt (depth : Nat) : Json → String
  | .arr [] => "[]"
  | .arr items => "[" ++ indentedItems (depth + 1) items ++ lineStart depth ++ "]"
  | .obj [] => "\x7b\x7d"
  | .obj members => "\x7b" ++ indentedMembers (depth + 1) members ++ lineStart depth ++ "\x7d"
  | .null => "null"
  | .bool b => if b then "true" else "false"
  | .num n => n.text
  | .str s => quoted s

/-- Items one a line, with commas between them. -/
def indentedItems (depth : Nat) : List Json → String
  | [] => ""
  | [item] => lineStart depth ++ indentedAt depth item
  | item :: rest => lineStart depth ++ indentedAt depth item ++ "," ++ indentedItems depth rest

/-- Members one a line, with commas between them. -/
def indentedMembers (depth : Nat) : List (String × Json) → String
  | [] => ""
  | [(key, value)] => lineStart depth ++ quoted key ++ ": " ++ indentedAt depth value
  | (key, value) :: rest =>
    lineStart depth ++ quoted key ++ ": " ++ indentedAt depth value ++ "," ++
      indentedMembers depth rest

end

/-- The indented written form. -/
def indented (j : Json) : String := indentedAt 0 j

end Blockflow.Json
