import Blockflow.Pattern.Basic

/-!
# Patterns in normal form

Patterns are put together by functions that keep them in normal form: rows and choices are flat,
characters in a row are one text, a choice between characters is a set, the beginning that all
alternatives share stands before the choice, and a pattern that matches nothing but the empty text
is not repeated. The normal form matches the same texts, and it is what the room of a pattern is
measured by.
-/

namespace Blockflow.Pattern

open Text (CharSet)

/-! ### Sameness -/

mutual

/-- Whether two patterns are the same. A group is the same as no other: each one is remembered by
itself. -/
def same : Pattern → Pattern → Bool
  | .empty, .empty => true
  | .text cs, .text ds => cs == ds
  | .one s, .one t => s == t
  | .edge e v, .edge f w => e == f && v == w
  | .row ps, .row qs => sameAll ps qs
  | .choice ps, .choice qs => sameAll ps qs
  | .times p m n b, .times q k l c => m == k && n == l && b == c && same p q
  | _, _ => false

/-- Whether two lists hold the same patterns. -/
def sameAll : List Pattern → List Pattern → Bool
  | [], [] => true
  | p :: ps, q :: qs => same p q && sameAll ps qs
  | _, _ => false

end

/-- The beginning that two lists of patterns share. -/
def shared : List Pattern → List Pattern → List Pattern
  | p :: ps, q :: qs => if same p q then p :: shared ps qs else []
  | _, _ => []

/-! ### Lengths of matches -/

/-- The sum of two numbers that are known. -/
def sum? (m n : Option Nat) : Option Nat := m.bind fun m ↦ n.map (m + ·)

mutual

/-- The least number of characters that a match takes; it is not told of a pattern with a set that
holds nothing. -/
def least? : Pattern → Option Nat
  | .empty => some 0
  | .text cs => some cs.length
  | .one s => if s.ranges.isEmpty then none else some 1
  | .edge _ _ => some 0
  | .group p => least? p
  | .row ps => leastSum? ps
  | .choice ps => leastOf? ps
  | .times p m _ _ => (least? p).map (· * m)

/-- The least number of characters that matches of all the patterns take together. -/
def leastSum? : List Pattern → Option Nat
  | [] => some 0
  | p :: ps => sum? (least? p) (leastSum? ps)

/-- The least number of characters that a match of one of the patterns takes. -/
def leastOf? : List Pattern → Option Nat
  | [] => none
  | [p] => least? p
  | p :: ps => (least? p).bind fun m ↦ (leastOf? ps).map (min m)

end

mutual

/-- The greatest number of characters that a match takes, if there is a limit; it is not told of a
pattern with a set that holds nothing. -/
def greatest? : Pattern → Option Nat
  | .empty => some 0
  | .text cs => some cs.length
  | .one s => if s.ranges.isEmpty then none else some 1
  | .edge _ _ => some 0
  | .group p => greatest? p
  | .row ps => greatestSum? ps
  | .choice ps => greatestOf? ps
  | .times p _ n _ => (greatest? p).bind fun m ↦ n.map (m * ·)

/-- The greatest number of characters that matches of all the patterns take together. -/
def greatestSum? : List Pattern → Option Nat
  | [] => some 0
  | p :: ps => sum? (greatest? p) (greatestSum? ps)

/-- The greatest number of characters that a match of one of the patterns takes. -/
def greatestOf? : List Pattern → Option Nat
  | [] => none
  | [p] => greatest? p
  | p :: ps => (greatest? p).bind fun m ↦ (greatestOf? ps).map (max m)

end

/-- Whether a pattern matches the empty text alone, if it matches at all. -/
def isEmptyOnly (p : Pattern) : Bool := p.greatest? == some 0

/-- Whether every match takes a character. -/
def consumes (p : Pattern) : Bool := p.least?.any (0 < ·)

/-! ### Putting patterns together -/

/-- One character of a set. -/
def ofSet (s : CharSet) : Pattern :=
  match s.normal.ranges with
  | [(m, n)] => if m = n then .text [Char.ofNat m] else .one s.normal
  | _ => .one s.normal

/-- The patterns that a pattern in a row stands for. -/
def elements : Pattern → List Pattern
  | .empty => []
  | .row ps => ps
  | p => [p]

/-- Patterns in a row with neighbouring texts made one. -/
def mergeTexts : List Pattern → List Pattern
  | [] => []
  | p :: ps =>
    match p, mergeTexts ps with
    | .text cs, .text ds :: rest => .text (cs ++ ds) :: rest
    | p, rest => p :: rest

/-- One pattern after the other. -/
def joined (ps : List Pattern) : Pattern :=
  match mergeTexts (ps.flatMap elements) with
  | [] => .empty
  | [p] => p
  | ps => .row ps

/-- The patterns that a pattern among alternatives stands for. -/
def alternatives : Pattern → List Pattern
  | .choice ps => ps
  | p => [p]

/-- The character that a pattern matches, if it is the only one. -/
def char? : Pattern → Option Char
  | .text [c] => some c
  | _ => none

/-- The set whose characters a pattern matches, if it is written as a set. -/
def set? : Pattern → Option CharSet
  | .one s => some s
  | _ => none

/-- Alternatives that are characters, or else sets, as one set. -/
def smallChoice? (ps : List Pattern) : Option Pattern :=
  match ps.mapM char? with
  | some cs => some (ofSet (.ofList (cs.map Char.toNat)))
  | none => (ps.mapM set?).map fun sets ↦ ofSet ⟨sets.flatMap CharSet.ranges⟩

/-- Alternatives as one pattern, where they need not start alike. -/
def choiceOf (ps : List Pattern) : Pattern :=
  match ps.flatMap alternatives with
  | [p] => p
  | ps => (smallChoice? ps).getD (.choice ps)

/-- The beginning that all alternatives share, if they are rows. -/
def sharedStart : List Pattern → List Pattern
  | [] => []
  | [.row qs] => qs
  | .row qs :: ps => shared qs (sharedStart ps)
  | _ => []

/-- Any of several patterns. -/
def anyOf (ps : List Pattern) : Pattern :=
  match choiceOf ps with
  | .choice ps =>
    let start := sharedStart ps
    if start.isEmpty then .choice ps
    else joined (start ++ [choiceOf (ps.map fun p ↦ joined (p.elements.drop start.length))])
  | p => p

/-- A pattern so many times in a row. -/
def repeated (p : Pattern) (least : Nat) (most : Option Nat) (sparing : Bool) : Pattern :=
  let (least, most) :=
    if p.isEmptyOnly then (min least 1, some (min (most.getD 1) 1)) else (least, most)
  if least = 0 && most == some 0 then .empty
  else if least = 1 && most == some 1 then p
  else .times p least most sparing

end Blockflow.Pattern
