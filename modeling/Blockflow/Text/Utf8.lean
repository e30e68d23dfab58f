import Blockflow.Text.CharSet

/-!
# Characters as bytes

The bytes of a character in UTF-8, and sets of characters as rows of byte ranges: a row stands for
the characters whose bytes lie in its ranges, each in the one at its place.
-/

namespace Blockflow.Text.Utf8

/-- The bytes of the character with the given number. -/
def bytes (n : Nat) : List Nat :=
  if n < 0x80 then [n]
  else if n < 0x800 then [0xC0 + n / 64, 0x80 + n % 64]
  else if n < 0x10000 then [0xE0 + n / 4096, 0x80 + n / 64 % 64, 0x80 + n % 64]
  else [0xF0 + n / 262144, 0x80 + n / 4096 % 64, 0x80 + n / 64 % 64, 0x80 + n % 64]

/-- A range without the numbers that are no characters. -/
def valid (r : Nat × Nat) : List (Nat × Nat) :=
  if r.1 < 0xE000 && 0xD7FF < r.2 then
    [(r.1, 0xD7FF), (0xE000, r.2)].filter fun r ↦ r.1 ≤ r.2
  else [r]

/-- A range cut after a number. -/
def cutAfter (n : Nat) (r : Nat × Nat) : List (Nat × Nat) :=
  if r.1 ≤ n && n < r.2 then [(r.1, n), (n + 1, r.2)] else [r]

/-- A range cut where blocks of the given size begin and end: what lies before the first whole
block, the whole blocks, and what lies behind them. Within a block nothing is cut, nor in ASCII. -/
def blocks (size : Nat) (r : Nat × Nat) : List (Nat × Nat) :=
  if r.2 < 0x80 || r.1 / size = r.2 / size then [r]
  else
    let first := (r.1 + size - 1) / size * size
    let last := (r.2 + 1) / size * size
    (if r.1 < first then [(r.1, first - 1)] else []) ++
      (if first < last then [(first, last - 1)] else []) ++
      (if last ≤ r.2 then [(last, r.2)] else [])

/-- The rows of byte ranges for a range of characters, in ascending order. -/
def rowsOf (r : Nat × Nat) : List (List (Nat × Nat)) :=
  let ofOneLength := (((valid r).flatMap (cutAfter 0x7F)).flatMap (cutAfter 0x7FF)).flatMap
    (cutAfter 0xFFFF)
  (((ofOneLength.flatMap (blocks 64)).flatMap (blocks 4096)).flatMap (blocks 262144)).map
    fun r ↦ (bytes r.1).zip (bytes r.2)

/-- The rows of byte ranges for a set of characters, in ascending order. -/
def rows (s : CharSet) : List (List (Nat × Nat)) := s.normal.ranges.flatMap rowsOf

/-- How many bytes a text takes. -/
def size (cs : List Char) : Nat := cs.foldl (fun n c ↦ n + c.utf8Size) 0

/-- The bytes of a text. -/
def bytesOf (cs : List Char) : List Nat := cs.flatMap fun c ↦ bytes c.toNat

example : bytesOf ['a', 'é', '日', '😀'] =
    [0x61, 0xC3, 0xA9, 0xE6, 0x97, 0xA5, 0xF0, 0x9F, 0x98, 0x80] := by decide

example : rowsOf (0x80, 0x7FF) = [[(0xC2, 0xDF), (0x80, 0xBF)]] := by decide

end Blockflow.Text.Utf8
