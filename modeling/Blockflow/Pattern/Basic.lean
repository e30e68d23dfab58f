import Blockflow.Text.CharSet

/-!
# Patterns

A pattern is a regular expression over characters, with assertions about the place where it
matches. What a pattern matches is said by the places it leads to: from a set of places in a text
to the set of places where a match that starts at one of them may end.
-/

namespace Blockflow

open Text (CharSet)

/-- An assertion about a place in a text. -/
inductive Pattern.Edge where
  /-- The start of the text. -/
  | textStart
  /-- The end of the text. -/
  | textEnd
  /-- The start of a line; lines end with a line feed. -/
  | lineStart
  /-- The end of a line; lines end with a line feed. -/
  | lineEnd
  /-- The start of a line; a carriage return ends a line too. -/
  | anyLineStart
  /-- The end of a line; a carriage return ends a line too. -/
  | anyLineEnd
  /-- The start or the end of a word. -/
  | wordEdge
  /-- Neither the start nor the end of a word. -/
  | noWordEdge
  /-- The start of a word. -/
  | wordStart
  /-- The end of a word. -/
  | wordEnd
  /-- No character of a word before. -/
  | wordStartHalf
  /-- No character of a word after. -/
  | wordEndHalf
deriving DecidableEq, Inhabited

/-- A regular expression. -/
inductive Pattern where
  /-- Matches the empty text. -/
  | empty
  /-- Matches some characters in a row. -/
  | text (cs : List Char)
  /-- Matches one character of a set. -/
  | one (set : CharSet)
  /-- Matches the empty text where the assertion holds; the set holds the characters of words. -/
  | edge (e : Pattern.Edge) (word : CharSet)
  /-- Matches what the pattern in parentheses matches. -/
  | group (p : Pattern)
  /-- Matches one after the other. -/
  | row (ps : List Pattern)
  /-- Matches any of several. -/
  | choice (ps : List Pattern)
  /-- Matches so many times in a row: at least, and at most if there is a limit. The sparing ones
  would rather match fewer times than more, which changes where a match ends but not whether there
  is one. -/
  | times (p : Pattern) (least : Nat) (most : Option Nat) (sparing : Bool)
deriving Inhabited

namespace Pattern

/-- Whether an assertion holds between two characters. -/
def Edge.holds (e : Edge) (word : CharSet) (before after : Option Char) : Bool :=
  let left := before.any word.contains
  let right := after.any word.contains
  match e with
  | .textStart => before.isNone
  | .textEnd => after.isNone
  | .lineStart => before.all (· == '\n')
  | .lineEnd => after.all (· == '\n')
  | .anyLineStart => before.all fun c ↦ c == '\n' || (c == '\r' && after != some '\n')
  | .anyLineEnd => after.all fun c ↦ c == '\r' || (c == '\n' && before != some '\r')
  | .wordEdge => left != right
  | .noWordEdge => left == right
  | .wordStart => !left && right
  | .wordEnd => left && !right
  | .wordStartHalf => !left
  | .wordEndHalf => !right

/-- A place and two ascending lists behind it made one. The function puts the first list together
with what is left of the second. -/
def mergeFrom (a : Nat) (merge : List Nat → List Nat) : List Nat → List Nat
  | [] => a :: merge []
  | b :: bs =>
    if a < b then a :: merge (b :: bs)
    else if b < a then b :: mergeFrom a merge bs
    else a :: merge bs

/-- Two ascending lists of places made one. -/
def mergePlaces : List Nat → List Nat → List Nat
  | [], bs => bs
  | a :: as, bs => mergeFrom a (mergePlaces as) bs

/-- A step taken so many times. Once it leads nowhere else, it need not be taken again. -/
def iterate (step : List Nat → List Nat) : Nat → List Nat → List Nat
  | 0, places => places
  | n + 1, places =>
    let next := step places
    if next = places then places else iterate step n next

/-- A place, unless it is in an ascending list, and what a function leaves of the places behind it
once what comes before them is gone from the list. -/
def newFrom (a : Nat) (rest : List Nat → List Nat) : List Nat → List Nat
  | [] => a :: rest []
  | b :: bs =>
    if a < b then a :: rest (b :: bs)
    else if b < a then newFrom a rest bs
    else rest bs

/-- The places of one ascending list that are not in another. -/
def newPlaces : List Nat → List Nat → List Nat
  | [], _ => []
  | a :: as, bs => newFrom a (newPlaces as) bs

/-- Everything that a step leads to when it is taken at most so many times: what has been reached,
and what is reached from the places that the last step has found. -/
def spread (step : List Nat → List Nat) : Nat → List Nat → List Nat → List Nat
  | 0, reached, _ => reached
  | n + 1, reached, latest =>
    let found := newPlaces (step latest) reached
    if found.isEmpty then reached else spread step n (mergePlaces reached found) found

/-- The character before a place. -/
def before? (text : Array Char) (place : Nat) : Option Char :=
  if place = 0 then none else text[place - 1]?

/-- The places after one character that passes a test. -/
def advance (text : Array Char) (test : Char → Bool) (places : List Nat) : List Nat :=
  (places.filter fun i ↦ text[i]?.any test).map (· + 1)

mutual

/-- The places where a match may end that starts at one of the given places. -/
def leads (text : Array Char) : Pattern → List Nat → List Nat
  | .empty, places => places
  | .text cs, places => cs.foldl (fun places c ↦ advance text (· == c) places) places
  | .one set, places => advance text set.contains places
  | .edge e word, places => places.filter fun i ↦ e.holds word (before? text i) text[i]?
  | .group p, places => leads text p places
  | .row ps, places => leadsAlong text ps places
  | .choice ps, places => leadsAny text ps places
  | .times p least most _, places =>
    let step := leads text p
    let rounds :=
      match most with
      | some most => most - least
      | none => text.size + 1
    let start := iterate step least places
    spread step rounds start start

/-- The places where a match of all the patterns one after the other may end. -/
def leadsAlong (text : Array Char) : List Pattern → List Nat → List Nat
  | [], places => places
  | p :: ps, places => leadsAlong text ps (leads text p places)

/-- The places where a match of one of the patterns may end. -/
def leadsAny (text : Array Char) : List Pattern → List Nat → List Nat
  | [], _ => []
  | p :: ps, places => mergePlaces (leads text p places) (leadsAny text ps places)

end

/-- Whether the pattern matches somewhere in a text. -/
def isFoundIn (p : Pattern) (s : String) : Bool :=
  let text := s.toList.toArray
  !(p.leads text (List.range (text.size + 1))).isEmpty

end Pattern

end Blockflow
