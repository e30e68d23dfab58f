import Blockflow.Text.Property.Binary

/-!
# Quoted texts

A text between quotation marks in which everything is escaped that a reader could not tell apart:
quotation marks, backslashes, characters that print nothing, and marks that join the character in
front of them.
-/

namespace Blockflow.Text

/-- The characters that a quoted text cannot show as they are. -/
def invisible : CharSet :=
  Property.other ∪ Property.separator.without (.single ' ') ∪ Property.graphemeExtend

/-- How a character stands in a quoted text. -/
def escapeQuoted (c : Char) : List Char :=
  match c with
  | '"' => ['\\', '"']
  | '\\' => ['\\', '\\']
  | '\n' => ['\\', 'n']
  | '\r' => ['\\', 'r']
  | '\t' => ['\\', 't']
  | '\x00' => ['\\', '0']
  | c =>
    if invisible.contains c then
      "\\u\x7b".toList ++ Nat.toDigits 16 c.toNat ++ ['\x7d']
    else [c]

/-- A text between quotation marks. -/
def quoted (s : String) : String :=
  String.ofList ('"' :: s.toList.flatMap escapeQuoted ++ ['"'])

end Blockflow.Text
