import Blockflow.Pattern.Normal
import Blockflow.Text.Blank
import Blockflow.Text.Digits
import Blockflow.Text.Folding
import Blockflow.Text.Pieces
import Blockflow.Text.Property

/-!
# Escapes of patterns

The flags that say how a pattern is read, the blanks and comments that may be skipped in it, and
what a backslash and the characters after it stand for.
-/

namespace Blockflow.Pattern

open Text (CharSet)

/-- How the next part of a pattern is read. -/
structure Flags where
  /-- Capitals and small letters are the same. -/
  ignoreCase : Bool := false
  /-- `^` and `$` stand for the ends of lines. -/
  lines : Bool := false
  /-- `.` stands for line ends too. -/
  dotAll : Bool := false
  /-- Classes and the difference of capitals and small letters go beyond ASCII. -/
  unicode : Bool := true
  /-- Blanks and comments are skipped. -/
  spaced : Bool := false
  /-- A carriage return ends a line too. -/
  carriage : Bool := false
  /-- Repetitions are sparing without a `?`, and not sparing with it. -/
  sparing : Bool := false

/-- One element of a pattern, before it is known where it stands. -/
inductive Atom where
  /-- A character. -/
  | char (c : Char)
  /-- A set of characters. -/
  | set (s : CharSet)
  /-- An assertion. -/
  | edge (e : Edge)

/-! ### Blanks and comments -/

/-- The text after blanks and comments; a comment goes from `#` to the end of its line. The first
argument tells whether the text begins within a comment. -/
def skipFrom (comment : Bool) : List Char → List Char
  | [] => []
  | c :: cs =>
    if comment then skipFrom (c != '\n') cs
    else if c == '#' then skipFrom true cs
    else if Text.isBlank c then skipFrom false cs
    else c :: cs

/-- The text after blanks and comments, if those are to be skipped. -/
def skip (f : Flags) (cs : List Char) : List Char := if f.spaced then skipFrom false cs else cs

/-- The characters that pass a test, up to the first that does not, and the text from there. Blanks
and comments between them do not count, if those are to be skipped. -/
def readWhileFrom (f : Flags) (test : Char → Bool) (comment : Bool) :
    List Char → List Char × List Char
  | [] => ([], [])
  | c :: cs =>
    if comment then readWhileFrom f test (c != '\n') cs
    else if f.spaced && c == '#' then readWhileFrom f test true cs
    else if f.spaced && Text.isBlank c then readWhileFrom f test false cs
    else if test c then
      let (ds, rest) := readWhileFrom f test false cs
      (c :: ds, rest)
    else ([], c :: cs)

/-- The characters that pass a test, and the text from the first that does not. -/
def readWhile (f : Flags) (test : Char → Bool) (cs : List Char) : List Char × List Char :=
  readWhileFrom f test false cs

/-- What stands before a character and after it. -/
def until? (f : Flags) (mark : Char) (cs : List Char) : Option (List Char × List Char) :=
  match readWhile f (· != mark) cs with
  | (_, []) => none
  | (ds, _ :: rest) => some (ds, rest)

/-- So many characters, and what stands after them. -/
def take? (f : Flags) : Nat → List Char → Option (List Char × List Char)
  | 0, cs => some ([], cs)
  | n + 1, cs =>
    match skip f cs with
    | [] => none
    | c :: cs => (take? f n cs).map fun (ds, rest) ↦ (c :: ds, rest)

/-! ### Characters by number -/

/-- The character whose number the given hexadecimal digits write. -/
def hexChar? (ds : List Char) : Option Char := do
  let n ← Text.natural? 16 ds
  if n ≤ CharSet.top && !(0xD800 ≤ n && n ≤ 0xDFFF) then some (Char.ofNat n) else none

/-- A character given by number: in braces, or with so many digits. Two digits beyond ASCII stand
for a byte, which is no character, unless classes go beyond ASCII. -/
def numbered? (f : Flags) (width : Nat) (cs : List Char) : Option (Atom × List Char) :=
  match skip f cs with
  | '\x7b' :: rest => do
    let (ds, rest) ← until? f '\x7d' rest
    return (.char (← hexChar? ds), rest)
  | cs => do
    let (ds, rest) ← take? f width cs
    let c ← hexChar? ds
    if !f.unicode && width = 2 && c.toNat ≥ 0x80 then none
    return (.char c, rest)

/-! ### Sets by name -/

/-- The ASCII characters of words. -/
def asciiWord : CharSet := .ofHex "30-39 41-5A 5F 61-7A"

/-- The characters of words. -/
def wordSet (f : Flags) : CharSet := if f.unicode then Text.Property.word else asciiWord

/-- The set that `\d`, `\s` or `\w` stands for, or its complement for a capital letter. Within
ASCII there are no complements: they would hold bytes that are no characters. -/
def shortClass? (f : Flags) (c : Char) : Option CharSet :=
  let base : Option CharSet :=
    match c.toLower with
    | 'd' => some (if f.unicode then Text.Property.decimalNumber else .ofHex "30-39")
    | 's' => some (if f.unicode then Text.Property.blank else .ofHex "9-D 20")
    | 'w' => some (wordSet f)
    | _ => none
  if c.isUpper then (if f.unicode then base.map CharSet.complement else none) else base

/-- A set with the variants of its characters, if capitals and small letters are the same. -/
def folded (f : Flags) (s : CharSet) : CharSet :=
  if !f.ignoreCase then s
  else if f.unicode then Text.Folding.close s
  else Text.Folding.closeAscii s

/-- The set of the characters with a property that is named after `\p` or `\P`: by its own name, or
by the name of a property and that of a value with `!=`, `:` or `=` between them, which all mean
the same. -/
def property? (f : Flags) (negated : Bool) (cs : List Char) : Option (Atom × List Char) := do
  if !f.unicode then none
  let (name, rest) ←
    match skip f cs with
    | '\x7b' :: rest => until? f '\x7d' rest
    | c :: rest => if c == '\\' then none else some ([c], rest)
    | [] => none
  let value? (sign : List Char) : Option (Option CharSet) :=
    (Text.beforeFirst? sign name).map fun key ↦
      Text.Property.byValue? (String.ofList key)
        (String.ofList (name.drop (key.length + sign.length)))
  let set ←
    (((value? ['!', '=']).or (value? [':'])).or (value? ['='])).getD
      (Text.Property.byName? (String.ofList name))
  let set := folded f set
  return (.set (if negated then set.complement else set), rest)

/-! ### Escapes -/

/-- The assertion that `\b` and a name in braces after it stand for. Braces with something else
than a letter or a dash in them belong to a repetition. -/
def wordEdge? (f : Flags) : List Char → Option (Edge × List Char)
  | '\x7b' :: cs =>
    match skip f cs with
    | [] => none
    | c :: _ =>
      if c.isAlpha || c == '-' then do
        let (name, rest) ← until? f '\x7d' cs
        match String.ofList name with
        | "start" => some (.wordStart, rest)
        | "end" => some (.wordEnd, rest)
        | "start-half" => some (.wordStartHalf, rest)
        | "end-half" => some (.wordEndHalf, rest)
        | _ => none
      else some (.wordEdge, '\x7b' :: cs)
  | cs => some (.wordEdge, cs)

/-- The element that an escape stands for; the backslash has been read. -/
def escape? (f : Flags) : List Char → Option (Atom × List Char)
  | [] => none
  | c :: cs =>
    match c with
    | 'x' => numbered? f 2 cs
    | 'u' => numbered? f 4 cs
    | 'U' => numbered? f 8 cs
    | 'p' => property? f false cs
    | 'P' => property? f true cs
    | 'd' | 's' | 'w' | 'D' | 'S' | 'W' => (shortClass? f c).map fun s ↦ (.set s, cs)
    | 'a' => some (.char '\x07', cs)
    | 'f' => some (.char '\x0c', cs)
    | 't' => some (.char '\t', cs)
    | 'n' => some (.char '\n', cs)
    | 'r' => some (.char '\r', cs)
    | 'v' => some (.char '\x0b', cs)
    | 'A' => some (.edge .textStart, cs)
    | 'z' => some (.edge .textEnd, cs)
    | 'b' => (wordEdge? f cs).map fun (e, cs) ↦ (.edge e, cs)
    | 'B' => some (.edge .noWordEdge, cs)
    | '<' => some (.edge .wordStart, cs)
    | '>' => some (.edge .wordEnd, cs)
    | c => if c.toNat < 128 && !c.isAlphanum then some (.char c, cs) else none

end Blockflow.Pattern
