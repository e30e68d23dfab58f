import Blockflow.Text.Blank

/-!
# Texts in pieces

Cutting a text at a separator, replacing one piece of text by another, and the last occurrence of
a piece. All work on the list of characters.
-/

namespace Blockflow.Text

/-- The pieces between the occurrences of a separator; there is always at least one. -/
def cut (separator : Char) : List Char → List (List Char)
  | [] => [[]]
  | c :: cs =>
    if c = separator then [] :: cut separator cs
    else
      match cut separator cs with
      | [] => [[c]]
      | piece :: pieces => (c :: piece) :: pieces

/-- The pieces of a text between the occurrences of a separator. -/
def pieces (separator : Char) (s : String) : List String :=
  (cut separator s.toList).map String.ofList

/-- The trimmed pieces of a comma-separated text that hold more than blanks. -/
def listed (s : String) : List String := (pieces ',' s).filterMap nonBlank?

/-- What follows the given start, if the text has it. -/
def afterStart? : List Char → List Char → Option (List Char)
  | [], cs => some cs
  | _ :: _, [] => none
  | p :: ps, c :: cs => if p = c then afterStart? ps cs else none

/-- Whether the text holds the piece somewhere. -/
def holds (piece : List Char) : List Char → Bool
  | [] => piece.isEmpty
  | c :: cs => (afterStart? piece (c :: cs)).isSome || holds piece cs

/-- Whether one text holds another one somewhere. -/
def contains (s piece : String) : Bool := holds piece.toList s.toList

/-- What stands before the first occurrence of a piece, if there is one. -/
def beforeFirst? (piece : List Char) : List Char → Option (List Char)
  | [] => if piece.isEmpty then some [] else none
  | c :: cs =>
    if (afterStart? piece (c :: cs)).isSome then some []
    else (beforeFirst? piece cs).map (c :: ·)

/-- What stands before the last occurrence of a piece, if there is one. -/
def beforeLast? (piece : List Char) : List Char → Option (List Char)
  | [] => if piece.isEmpty then some [] else none
  | c :: cs =>
    match beforeLast? piece cs with
    | some before => some (c :: before)
    | none => if (afterStart? piece (c :: cs)).isSome then some [] else none

/-- What stands after the last occurrence of a character, or everything if it does not occur. -/
def afterLast (separator : Char) (cs : List Char) : List Char :=
  (cs.reverse.takeWhile (· ≠ separator)).reverse

/-- The lower-case form of a character as far as it can hold an ASCII letter: besides the ASCII
capitals these are the Kelvin sign and the capital I with a dot. Any other character is kept. -/
def lowerAscii (c : Char) : List Char :=
  if c.toNat = 0x212A then ['k']
  else if c.toNat = 0x130 then ['i', Char.ofNat 0x307]
  else [c.toLower]

theorem cut_ne_nil (separator : Char) (cs : List Char) : cut separator cs ≠ [] := by
  cases cs with
  | nil => simp [cut]
  | cons c cs =>
    rw [cut]
    split
    · simp
    · split <;> simp

end Blockflow.Text
