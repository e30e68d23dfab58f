/-!
# Sets of characters

A set of characters is a list of ranges of character numbers. The normal form of a set has its
ranges in ascending order and apart from each other.
-/

namespace Blockflow.Text

/-- A set of characters, as ranges of their numbers with both ends included. -/
structure CharSet where
  /-- The ranges. -/
  ranges : List (Nat × Nat)
deriving DecidableEq, Inhabited

namespace CharSet

/-- The greatest number of a character. -/
def top : Nat := 0x10FFFF

/-- The set without characters. -/
def empty : CharSet := ⟨[]⟩

/-- The set of all characters. -/
def all : CharSet := ⟨[(0, top)]⟩

/-- The characters from one to another. -/
def range (first last : Nat) : CharSet := ⟨[(first, last)]⟩

/-- The set of one character. -/
def single (c : Char) : CharSet := range c.toNat c.toNat

/-- The set of the characters with the given numbers. -/
def ofList (l : List Nat) : CharSet := ⟨l.map fun n ↦ (n, n)⟩

/-- Whether the character with the given number is in the set. -/
def has (s : CharSet) (n : Nat) : Bool := s.ranges.any fun r ↦ r.1 ≤ n && n ≤ r.2

/-- Whether a character is in the set. -/
def contains (s : CharSet) (c : Char) : Bool := s.has c.toNat

/-- Whether a set holds ASCII characters alone. -/
def isAscii (s : CharSet) : Bool := s.ranges.all fun r ↦ r.2 < 128

instance : Union CharSet := ⟨fun a b ↦ ⟨a.ranges ++ b.ranges⟩⟩

/-! ### Normal form -/

/-- Ascending ranges with those that meet made one; `first` and `last` are the ends of the range
that is being made. -/
def joinFrom (first last : Nat) : List (Nat × Nat) → List (Nat × Nat)
  | [] => [(first, last)]
  | q :: rest =>
    if q.1 ≤ last + 1 then joinFrom first (max last q.2) rest
    else (first, last) :: joinFrom q.1 q.2 rest

/-- The same set in normal form. -/
def normal (s : CharSet) : CharSet :=
  match s.ranges.mergeSort (fun a b ↦ a.1 ≤ b.1) with
  | [] => empty
  | r :: rest => ⟨joinFrom r.1 r.2 rest⟩

/-! ### Operations -/

/-- The number of the character after one; there is none from U+D800 to U+DFFF. -/
def next (n : Nat) : Nat := if n = 0xD7FF then 0xE000 else n + 1

/-- The number of the character before one. -/
def previous (n : Nat) : Nat := if n = 0xE000 then 0xD7FF else n - 1

/-- What ascending ranges leave out from a number on. Where one range ends with the last character
before the numbers that are no characters, and the following one starts with the first character
after them, `seam` is left out. -/
def gapsFrom (seam : List (Nat × Nat)) (first : Nat) : List (Nat × Nat) → List (Nat × Nat)
  | [] => if first ≤ top then [(first, top)] else []
  | q :: rest =>
    let more := gapsFrom seam (next q.2) rest
    if first < q.1 then (first, previous q.1) :: more
    else if first = 0xE000 && q.1 = 0xE000 then seam ++ more
    else more

/-- The characters that are not in the set. Two ranges that meet at U+D7FF and U+E000 without being
one leave out these two characters. -/
def complement (s : CharSet) : CharSet := ⟨gapsFrom [(0xD7FF, 0xE000)] 0 s.normal.ranges⟩

/-- What two lists of ascending ranges have in common. -/
def meet : List (Nat × Nat) → List (Nat × Nat) → List (Nat × Nat)
  | [], _ => []
  | _, [] => []
  | a :: as, b :: bs =>
    let rest := if a.2 ≤ b.2 then meet as (b :: bs) else meet (a :: as) bs
    if max a.1 b.1 ≤ min a.2 b.2 then (max a.1 b.1, min a.2 b.2) :: rest else rest
termination_by as bs => as.length + bs.length

/-- The characters in both sets. -/
def inter (a b : CharSet) : CharSet := ⟨meet a.normal.ranges b.normal.ranges⟩

/-- The characters in the first set but not in the second. -/
def without (a b : CharSet) : CharSet := ⟨meet a.normal.ranges (gapsFrom [] 0 b.normal.ranges)⟩

/-- The characters in exactly one of two sets. -/
def either (a b : CharSet) : CharSet := (a ∪ b).without (a.inter b)

/-! ### Written sets -/

/-- The number that hexadecimal digits write; other characters count as nothing. -/
def hexNumber (ds : List Char) : Nat :=
  ds.foldl (fun n d ↦
    if d.isDigit then n * 16 + (d.toNat - 48)
    else if 'A' ≤ d && d ≤ 'F' then n * 16 + (d.toNat - 55)
    else n) 0

/-- The ranges that a word stands for: one number, the two ends of a range with a dash between
them, or the two ends with a colon, where only every second number counts. -/
def ofWord (word : List Char) : List (Nat × Nat) :=
  match word.splitOn '-', word.splitOn ':' with
  | [m, n], _ => [(hexNumber m, hexNumber n)]
  | _, [m, n] =>
    (List.range ((hexNumber n - hexNumber m) / 2 + 1)).map fun i ↦
      (hexNumber m + 2 * i, hexNumber m + 2 * i)
  | _, _ => if word.isEmpty then [] else [(hexNumber word, hexNumber word)]

/-- The set that a text lists: words of hexadecimal numbers with blanks or breaks of lines between
them. -/
def ofHex (s : String) : CharSet :=
  ⟨(s.toList.splitOnP fun c ↦ c == ' ' || c == '\n').flatMap ofWord⟩

end CharSet

end Blockflow.Text
