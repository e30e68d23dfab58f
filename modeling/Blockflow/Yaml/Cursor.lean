import Blockflow.Text.Utf8

/-!
# A place in a YAML text

The characters that a YAML text may hold, and a place in such a text with its line and column. All
ways to end a line count as one character, and all but the two separators of Unicode read as a
line feed.
-/

namespace Blockflow.Yaml

/-- Whether a YAML text may hold a character. -/
def isAllowed (c : Char) : Bool :=
  let n := c.toNat
  n == 0x09 || n == 0x0A || n == 0x0D || (0x20 ≤ n && n ≤ 0x7E) || n == 0x85 ||
    (0xA0 ≤ n && n ≤ 0xD7FF) || (0xE000 ≤ n && n ≤ 0xFFFD) || 0x10000 ≤ n

/-- Whether a character ends a line. -/
def isBreak (c : Char) : Bool :=
  c == '\n' || c == '\r' || c.toNat == 0x85 || c.toNat == 0x2028 || c.toNat == 0x2029

/-- Whether a character is a space or a tab. -/
def isBlank (c : Char) : Bool := c == ' ' || c == '\t'

/-- Whether a character is a blank or ends a line. -/
def isGap (c : Char) : Bool := isBlank c || isBreak c

/-- Whether a character may be part of a name. -/
def isNameChar (c : Char) : Bool := c.isAlphanum || c == '_' || c == '-'

/-- A place in a text. -/
structure Cursor where
  /-- What follows. -/
  rest : List Char
  /-- How many bytes stand before. -/
  index : Nat
  /-- How many line ends stand before. -/
  line : Nat
  /-- How many characters stand before on the same line. -/
  column : Nat

namespace Cursor

/-- The start of a text. -/
def start (cs : List Char) : Cursor := ⟨cs, 0, 0, 0⟩

/-- The next character. -/
def head? (c : Cursor) : Option Char := c.rest.head?

/-- The character after the next one. -/
def second? (c : Cursor) : Option Char := c.rest[1]?

/-- The place after so many characters of the same line. -/
def skip (c : Cursor) (n : Nat) : Cursor :=
  ⟨c.rest.drop n, c.index + Text.Utf8.size (c.rest.take n), c.line, c.column + n⟩

/-- Whether the text ends here, or a gap follows. -/
def atGap (c : Cursor) : Bool := c.rest.head?.all isGap

/-- Whether the text ends after the next character, or a gap follows there. -/
def gapAfterNext (c : Cursor) : Bool := (c.rest.drop 1).head?.all isGap

/-- Whether a space or tab follows. -/
def atBlank (c : Cursor) : Bool := c.rest.head?.any isBlank

/-- Whether a line end follows. -/
def atBreak (c : Cursor) : Bool := c.rest.head?.any isBreak

/-- Whether the text ends here, or a line end follows. -/
def atLineEnd (c : Cursor) : Bool := c.rest.head?.all isBreak

/-- Whether the text ends here. -/
def atEnd (c : Cursor) : Bool := c.rest.isEmpty

/-- The text of a line end that follows, and the place after it; nothing if none follows. -/
def readBreak (c : Cursor) : List Char × Cursor :=
  match c.rest with
  | '\r' :: '\n' :: rest => (['\n'], ⟨rest, c.index + 2, c.line + 1, 0⟩)
  | d :: rest =>
    if isBreak d then
      let text := if d.toNat == 0x2028 || d.toNat == 0x2029 then d else '\n'
      ([text], ⟨rest, c.index + d.utf8Size, c.line + 1, 0⟩)
    else ([], c)
  | [] => ([], c)

/-- The characters up to one of which a condition does not hold, and the place there. -/
def takeWhile (c : Cursor) (p : Char → Bool) : List Char × Cursor :=
  let taken := c.rest.takeWhile p
  (taken, c.skip taken.length)

/-- The place after the characters of which a condition holds. -/
def skipWhile (c : Cursor) (p : Char → Bool) : Cursor := (c.takeWhile p).2

/-- Whether three given characters and then a gap stand at the start of a line here. -/
def atMark (c : Cursor) (mark : Char) : Bool :=
  c.column == 0 &&
    match c.rest with
    | x :: y :: z :: rest => x == mark && y == mark && z == mark && rest.head?.all isGap
    | _ => false

/-- Whether the mark of a document's start or end stands here. -/
def atDocumentMark (c : Cursor) : Bool := c.atMark '-' || c.atMark '.'

end Cursor

end Blockflow.Yaml
