import Blockflow.Pattern.Class
import Blockflow.Pattern.Room

/-!
# Reading patterns

The written form of patterns: literals, `.`, classes with ranges and set operations, `*`, `+`,
`?` and counted repetition, groups, alternatives, assertions, and flags. There are no references
to groups and no assertions about the text around a match. A pattern is refused if it is nested too
deep or takes too much room.
-/

namespace Blockflow.Pattern

open Text (CharSet)

/-- What is still to be read, and the names of the groups read so far. -/
structure Cursor where
  /-- The rest of the text. -/
  rest : List Char
  /-- The names given to groups. -/
  names : List String

/-- A part of a pattern as it has been read. -/
structure Piece where
  /-- What the part matches. -/
  pattern : Pattern
  /-- How deep the part is nested. -/
  depth : Nat
  /-- Whether the part is one that a sign after it may repeat. -/
  repeatable : Bool

/-- How deep patterns may be nested. -/
def maxDepth : Nat := 250

/-- Pieces as one, with what is made of several of them; one piece alone is itself. The pieces are
given from the last to the first. -/
def combine (f : List Pattern → Pattern) : List Piece → Piece
  | [p] => p
  | [] => ⟨f [], 0, false⟩
  | pieces =>
    ⟨f (pieces.reverse.map (·.pattern)), (pieces.map (·.depth)).foldl max 0 + 1, true⟩

/-! ### Repetition -/

/-- A number in a counted repetition, with blanks around it. -/
def count? (f : Flags) (cs : List Char) : Option (Nat × List Char) :=
  let (ds, rest) := readWhile f Char.isDigit (Text.trimLeft cs)
  let n := ds.foldl (fun n d ↦ n * 10 + (d.toNat - 48)) 0
  if ds.isEmpty || n ≥ Nat.pow 2 32 then none else some (n, Text.trimLeft rest)

/-- The limits of a counted repetition, after the opening brace. -/
def limits? (f : Flags) (cs : List Char) : Option (Nat × Option Nat × List Char) := do
  let (least, rest) ← count? f (skip f cs)
  match rest with
  | '\x7d' :: rest => return (least, some least, rest)
  | ',' :: rest =>
    match skip f rest with
    | '\x7d' :: rest => return (least, none, rest)
    | rest =>
      let (most, rest) ← count? f rest
      let rest ← Text.afterStart? ['\x7d'] rest
      if least ≤ most then return (least, some most, rest) else none
  | _ => none

/-- A piece so many times in a row. A `?` after the sign turns a repetition that takes as much as it
can into one that takes as little as it can, and the other way round. -/
def Piece.repeated? (p : Piece) (f : Flags) (least : Nat) (most : Option Nat) (cs : List Char) :
    Option (Piece × List Char) :=
  if !p.repeatable then none
  else
    let turned := cs.head? == some '?'
    some (⟨p.pattern.repeated least most (f.sparing != turned), p.depth + 1, true⟩,
      if turned then cs.drop 1 else cs)

/-- The repetition that a sign asks for: the limits, and the text after the sign. -/
def repetition? (f : Flags) : List Char → Option (Option (Nat × Option Nat × List Char))
  | '*' :: rest => some (some (0, none, rest))
  | '+' :: rest => some (some (1, none, rest))
  | '?' :: rest => some (some (0, some 1, rest))
  | '\x7b' :: rest =>
    some ((limits? f rest).map fun (least, most, rest) ↦ (least, most, skip f rest))
  | _ => none

/-! ### Flags and names of groups -/

/-- The flags with one of them set. -/
def Flags.set? (f : Flags) (on : Bool) : Char → Option Flags
  | 'i' => some { f with ignoreCase := on }
  | 'm' => some { f with lines := on }
  | 's' => some { f with dotAll := on }
  | 'u' => some { f with unicode := on }
  | 'x' => some { f with spaced := on }
  | 'R' => some { f with carriage := on }
  | 'U' => some { f with sparing := on }
  | _ => none

/-- Flags up to the colon or parenthesis that ends them, with the letters read so far. -/
def flags? (f : Flags) (on : Bool) (seen : List Char) :
    List Char → Option (Flags × List Char × List Char)
  | [] => none
  | c :: cs =>
    if c == ':' || c == ')' then
      if seen.head? == some '-' then none else some (f, seen, c :: cs)
    else if seen.contains c then none
    else if c == '-' then flags? f false (c :: seen) cs
    else
      match f.set? on c with
      | some f => flags? f on (c :: seen) cs
      | none => none

/-- Whether a text can name a group. -/
def isGroupName : List Char → Bool
  | [] => false
  | c :: cs =>
    let letter := Text.Property.alphabetic
    let number := Text.Property.number
    (c == '_' || letter.contains c) &&
      cs.all fun d ↦ d == '_' || d == '.' || d == '[' || d == ']' || letter.contains d ||
        number.contains d

/-- The name of a group, up to the mark behind it; no two groups share a name. -/
def groupName? (cs : List Char) (names : List String) : Option (String × List Char) := do
  let (name, rest) ← until? {} '>' cs
  let text := String.ofList name
  if isGroupName name && !names.contains text then some (text, rest) else none

/-! ### Single elements -/

/-- A character as a pattern. -/
def literal (f : Flags) (c : Char) : Pattern :=
  if !f.ignoreCase then .text [c]
  else if f.unicode then ofSet (.ofList (Text.Folding.variants c.toNat))
  else ofSet (.ofList (Text.Folding.asciiVariants c.toNat))

/-- An element as a pattern. -/
def Atom.pattern (f : Flags) : Atom → Pattern
  | .char c => literal f c
  | .set s => ofSet s
  | .edge e => .edge e (wordSet f)

/-- What a single character other than those of structure stands for. -/
def plain? (f : Flags) : Char → Option Pattern
  | '.' =>
    if !f.unicode then none
    else if f.dotAll then some (.one .all)
    else
      let ends : CharSet := if f.carriage then .ofHex "A D" else .ofHex "A"
      some (.one ends.complement)
  | '^' =>
    let e : Edge :=
      if f.lines then (if f.carriage then .anyLineStart else .lineStart) else .textStart
    some (.edge e .empty)
  | '$' =>
    let e : Edge := if f.lines then (if f.carriage then .anyLineEnd else .lineEnd) else .textEnd
    some (.edge e .empty)
  | c => some (literal f c)

/-- A class, an escape or a single character. -/
def element? (f : Flags) : List Char → Option (Piece × List Char)
  | [] => none
  | '[' :: rest =>
    (class? (2 * rest.length + 2) (maxDepth + 1) f rest).map fun (s, depth, rest) ↦
      (⟨ofSet s, depth, true⟩, rest)
  | '\\' :: rest => (escape? f rest).map fun (a, rest) ↦ (⟨a.pattern f, 0, true⟩, rest)
  | c :: rest => (plain? f c).map fun p ↦ (⟨p, 0, true⟩, rest)

/-! ### Groups and sequences -/

/-- How a group begins. -/
inductive Opening where
  /-- There is no group: flags are set for what follows. -/
  | flags (f : Flags)
  /-- The group begins, with the flags that count in it. -/
  | plain (f : Flags)
  /-- The group begins, and what it matches is remembered. -/
  | remembered

/-- What stands between an opening parenthesis and the content of its group. -/
def opening? (f : Flags) (cursor : Cursor) : Option (Opening × Cursor) :=
  match skip f cursor.rest with
  | '?' :: '=' :: _ | '?' :: '!' :: _ | '?' :: '<' :: '=' :: _ | '?' :: '<' :: '!' :: _ => none
  | '?' :: 'P' :: '<' :: rest | '?' :: '<' :: rest =>
    (groupName? rest cursor.names).map fun (name, rest) ↦
      (.remembered, ⟨rest, name :: cursor.names⟩)
  | '?' :: rest =>
    match flags? f true [] rest with
    | some (f, seen, ')' :: rest) =>
      if seen.isEmpty then none else some (.flags f, { cursor with rest })
    | some (f, _, _ :: rest) => some (.plain f, { cursor with rest })
    | _ => none
  | rest => some (.remembered, { cursor with rest })

mutual

/-- Alternatives up to a closing parenthesis or the end: those that have been read, from the last
to the first, and the pieces of the one that is being read. The first argument bounds the steps,
the second one how deep groups may be nested. -/
def alternatives? : Nat → Nat → Flags → List Piece → List Piece → Cursor →
    Option (Piece × Cursor)
  | 0, _, _, _, _, _ => none
  | fuel + 1, level, f, before, pieces, cursor =>
    match skip f cursor.rest with
    | [] => some (combine anyOf (combine joined pieces :: before), { cursor with rest := [] })
    | ')' :: rest =>
      some (combine anyOf (combine joined pieces :: before), { cursor with rest := ')' :: rest })
    | '|' :: rest =>
      alternatives? fuel level f (combine joined pieces :: before) [] { cursor with rest }
    | '(' :: rest =>
      match group? fuel level f { cursor with rest } with
      | some (f, p, cursor) => alternatives? fuel level f before (p :: pieces) cursor
      | none => none
    | cs =>
      match repetition? f cs with
      | some limits =>
        match limits, pieces with
        | some (least, most, rest), p :: pieces =>
          match p.repeated? f least most rest with
          | some (p, rest) => alternatives? fuel level f before (p :: pieces) { cursor with rest }
          | none => none
        | _, _ => none
      | none =>
        match element? f cs with
        | some (p, rest) => alternatives? fuel level f before (p :: pieces) { cursor with rest }
        | none => none

/-- A group after its opening parenthesis, and the flags that count after it. -/
def group? : Nat → Nat → Flags → Cursor → Option (Flags × Piece × Cursor)
  | 0, _, _, _ => none
  | _, 0, _, _ => none
  | fuel + 1, level + 1, f, cursor =>
    match opening? f cursor with
    | none => none
    | some (.flags f, cursor) => some (f, ⟨.empty, 0, false⟩, cursor)
    | some (.plain inner, cursor) =>
      match alternatives? fuel level inner [] [] cursor with
      | some (p, { rest := ')' :: rest, names }) =>
        some (f, ⟨p.pattern, p.depth + 1, true⟩, ⟨rest, names⟩)
      | _ => none
    | some (.remembered, cursor) =>
      match alternatives? fuel level f [] [] cursor with
      | some (p, { rest := ')' :: rest, names }) =>
        some (f, ⟨.group p.pattern, p.depth + 1, true⟩, ⟨rest, names⟩)
      | _ => none

end

/-- The pattern that a text writes. -/
def read? (s : String) : Option Pattern :=
  let cs := s.toList
  match alternatives? (2 * cs.length + 2) (maxDepth + 1) {} [] [] ⟨cs, []⟩ with
  | some (p, cursor) =>
    if cursor.rest.isEmpty && p.depth ≤ maxDepth && p.pattern.fits then some p.pattern else none
  | none => none

end Blockflow.Pattern
