import Blockflow.Pattern.Normal
import Blockflow.Text.Utf8

/-!
# The room of patterns

A pattern is accepted only if the machines that look for it fit into a given room. There are two
machines: one goes through a text forwards, byte by byte, and remembers where groups begin and
end; the other goes backwards and remembers nothing. The room of a machine is that of its states
and of the lists of ways that lead from them.
-/

namespace Blockflow.Pattern

open Text (CharSet)

/-! ### Machines -/

/-- What has been built of a machine. -/
structure Machine where
  /-- How many states there are. -/
  states : Nat
  /-- The room of the lists of ways. -/
  lists : Nat
  /-- States that may be used again: each with the numbers that tell it from others, at the place
  that these numbers point to. A state that comes later takes the place of one that it meets
  there. -/
  known : Array (List Nat × Nat)

namespace Machine

/-- The room of a state. -/
def stateRoom : Nat := 32

/-- The room of a way to another state in a list of ways. -/
def wayRoom : Nat := 4

/-- The room of a step over a byte in a list of steps. -/
def stepRoom : Nat := 8

/-- The room that a machine may take. -/
def limit : Nat := 10485760

/-- A machine without states that can keep so many states to be used again. -/
def start (places : Nat) : Machine := ⟨0, 0, Array.replicate places ([], 0)⟩

/-- A machine with more states and longer lists, if it still fits. -/
def grow (m : Machine) (states lists : Nat) : Option Machine :=
  let m := { m with states := m.states + states, lists := m.lists + lists }
  if stateRoom * m.states + m.lists ≤ limit then some m else none

/-- The place that numbers point to: the numbers are mixed into a word of 64 bits one after the
other, each by exclusive or and a multiplication. -/
def placeOf (places : Nat) (key : List Nat) : Nat :=
  let mixed := key.foldl (fun h n ↦ (h ^^^ UInt64.ofNat n) * 1099511628211) 14695981039346656037
  mixed.toNat % places

/-- The state that the given numbers tell from others, with lists of the given room: one that is
kept, or else a new one. -/
def reuse (m : Machine) (key : List Nat) (lists : Nat) : Nat × Machine :=
  let place := placeOf m.known.size key
  match m.known[place]?.bind fun entry ↦ if entry.1 = key then some entry.2 else none with
  | some state => (state, m)
  | none =>
    (m.states, ⟨m.states + 1, m.lists + lists, m.known.setIfInBounds place (key, m.states)⟩)

end Machine

/-! ### Parts -/

/-- What a machine is built of. -/
inductive Part where
  /-- So many states, with lists of the given room. -/
  | states (count lists : Nat)
  /-- A set, as rows of byte ranges. States with the same steps are made once. -/
  | branching (rows : List (List (Nat × Nat)))
  /-- A set, as rows of byte ranges that are gone through backwards. -/
  | gathering (rows : List (List (Nat × Nat)))
  /-- A part between a state that remembers where it begins and one that remembers where it ends. -/
  | remembered (p : Part)
  /-- One part after the other. -/
  | row (ps : List Part)
  /-- Any of several parts. -/
  | choice (first second : Part) (rest : List Part)
  /-- A part so many times in a row; whether it takes a byte each time. -/
  | times (p : Part) (least : Nat) (most : Option Nat) (consumes : Bool)
deriving Inhabited

/-- Words by their first letter: each letter with what follows it in the words. Words with the same
first letter count together where they stand side by side. -/
def byFirst {α : Type} [BEq α] : List (List α) → List (α × List (List α))
  | [] => []
  | [] :: words => byFirst words
  | (c :: cs) :: words =>
    match byFirst words with
    | [] => [(c, [cs])]
    | (d, ends) :: rest =>
      if c == d then (d, cs :: ends) :: rest else (c, [cs]) :: (d, ends) :: rest

/-- States and room put together. -/
def together (p q : Nat × Nat) : Nat × Nat := (p.1 + q.1, p.2 + q.2)

/-- The states and the room of lists for a choice between words: a state for each beginning that is
not a whole word alone. Where a word ends, the ways to longer words that come later are kept in a
list of their own. The first argument bounds the length of the words. -/
def wordTree : Nat → List (List Nat) → Nat × Nat
  | 0, _ => (0, 0)
  | fuel + 1, words =>
    if words.all List.isEmpty then (0, 0)
    else
      let ended := words.takeWhile List.isEmpty
      let lists := ((ended.take 1) ++ words.drop ended.length).splitOnP List.isEmpty
      lists.foldl (fun total list ↦
        let letters := byFirst (list.mergeSort fun u v ↦ u.headD 0 ≤ v.headD 0)
        let own :=
          match letters.length with
          | 0 => (0, 0)
          | 1 => (1, Machine.wayRoom)
          | n => (1, Machine.wayRoom + Machine.stepRoom * n)
        letters.foldl (fun total letter ↦ together total (wordTree fuel letter.2))
          (together total own))
        (1, Machine.wayRoom * (lists.length - 1))

/-- A choice between texts. -/
def textsPart (back : Bool) (texts : List (List Char)) : Part :=
  let words := texts.map Text.Utf8.bytesOf
  let words := if back then words.map List.reverse else words
  let (states, lists) := wordTree (words.foldl (fun n w ↦ max n w.length) 0 + 1) words
  .states (states + 1) lists

/-- A set as a part of a machine. -/
def setPart (back : Bool) (s : CharSet) : Part :=
  if s.isAscii then .states 2 (Machine.stepRoom * s.ranges.length)
  else if back then .gathering (Text.Utf8.rows s)
  else .branching (Text.Utf8.rows s)

/-- The characters of a pattern that is a text. -/
def text? : Pattern → Option (List Char)
  | .text cs => some cs
  | _ => none

mutual

/-- A pattern as a part of the machine that goes forwards or back. -/
def part (back : Bool) : Pattern → Part
  | .empty => .states 1 0
  | .text cs => .states (Text.Utf8.size cs) 0
  | .one s => setPart back s
  | .edge _ _ => .states 1 0
  | .group p => if back then part back p else .remembered (part back p)
  | .row ps => .row (if back then (parts back ps).reverse else parts back ps)
  | .choice ps =>
    match ps.mapM text? with
    | some texts => textsPart back texts
    | none =>
      match parts back ps with
      | p :: q :: rest => .choice p q rest
      | ps => .row ps
  | .times p least most _ => .times (part back p) least most p.consumes

/-- Patterns as parts of the machine that goes forwards or back. -/
def parts (back : Bool) : List Pattern → List Part
  | [] => []
  | p :: ps => part back p :: parts back ps

end

/-! ### Building -/

/-- The room that a way from the end of a part takes: it is a way in a list if the part ends where
its repetition may go on. -/
def wayFrom (loops : Bool) : Nat := if loops then Machine.wayRoom else 0

/-- The state from which rows of byte ranges lead to a target, and the machine with it. The first
argument bounds the length of the rows. -/
def branch (target : Nat) : Nat → List (List (Nat × Nat)) → Machine → Nat × Machine
  | 0, _, m => (target, m)
  | fuel + 1, rows, m =>
    if rows.all List.isEmpty then (target, m)
    else
      let (steps, m) := (byFirst rows).foldl (fun (steps, m) (range, rows) ↦
        let (next, m) := branch target fuel rows m
        (steps ++ [range.1, range.2, next], m)) ([], m)
      m.reuse steps (Machine.stepRoom * (steps.length / 3))

/-- The machine with the states for a row of byte ranges that is gone through backwards. -/
def gather (target : Nat) (row : List (Nat × Nat)) (m : Machine) : Machine :=
  (row.foldl (fun (target, m) range ↦ m.reuse [target, range.1, range.2] 0) (target, m)).2

/-- So many copies of a part, one after the other; `loops` tells where what stands before ends. -/
def copies (build : Machine → Option (Bool × Machine)) :
    Nat → Bool → Machine → Option (Bool × Machine)
  | 0, loops, m => some (loops, m)
  | n + 1, loops, m =>
    match (m.grow 0 (wayFrom loops)).bind build with
    | none => none
    | some (loops, m) => copies build n loops m

/-- So many copies of a part, each of which may be the last one. -/
def optionalCopies (build : Machine → Option (Bool × Machine)) :
    Nat → Bool → Machine → Option (Bool × Machine)
  | 0, loops, m => some (loops, m)
  | n + 1, loops, m =>
    match (m.grow 1 (2 * Machine.wayRoom + wayFrom loops)).bind build with
    | none => none
    | some (loops, m) => optionalCopies build n loops m

/-- Exactly so many copies of a part. -/
def exactly (build : Machine → Option (Bool × Machine)) (n : Nat) (m : Machine) :
    Option (Bool × Machine) :=
  if n = 0 then (m.grow 1 0).map (false, ·) else copies build n false m

/-- At least so many copies of a part, without a limit. -/
def atLeast (build : Machine → Option (Bool × Machine)) (consumes : Bool) (n : Nat)
    (m : Machine) : Option (Bool × Machine) :=
  match n with
  | 0 =>
    if consumes then do
      let m ← m.grow 1 Machine.wayRoom
      let (loops, m) ← build m
      return (true, ← m.grow 0 (wayFrom loops))
    else do
      let (loops, m) ← build m
      return (false, ← m.grow 3 (4 * Machine.wayRoom + wayFrom loops))
  | 1 => do
    let (loops, m) ← build m
    return (true, ← m.grow 1 (Machine.wayRoom + wayFrom loops))
  | n + 1 => do
    let (loops, m) ← exactly build n m
    let m ← m.grow 0 (wayFrom loops)
    let (loops, m) ← build m
    return (true, ← m.grow 1 (Machine.wayRoom + wayFrom loops))

/-- From so many to so many copies of a part. -/
def between (build : Machine → Option (Bool × Machine)) (least most : Nat) (m : Machine) :
    Option (Bool × Machine) :=
  if least = 0 && most = 1 then do
    let m ← m.grow 1 0
    let (loops, m) ← build m
    return (false, ← m.grow 1 (2 * Machine.wayRoom + wayFrom loops))
  else if least = most then exactly build least m
  else do
    let (loops, m) ← exactly build least m
    let m ← m.grow 1 0
    let (loops, m) ← optionalCopies build (most - least) loops m
    return (false, ← m.grow 0 (wayFrom loops))

mutual

/-- The machine with a part put to it, and whether the part ends where a repetition may go on. -/
def Part.build : Part → Machine → Option (Bool × Machine)
  | .states count lists, m => (m.grow count lists).map (false, ·)
  | .branching rows, m => do
    let m ← m.grow 1 0
    let m ← (branch (m.states - 1) 5 rows m).2.grow 0 0
    return (false, m)
  | .gathering rows, m => do
    let m ← m.grow 2 (Machine.wayRoom * rows.length)
    let target := m.states - 1
    let m ← (rows.foldl (fun m row ↦ gather target row m) m).grow 0 0
    return (false, m)
  | .remembered p, m => do
    let m ← m.grow 1 0
    let (loops, m) ← p.build m
    return (false, ← m.grow 1 (wayFrom loops))
  | .row ps, m => buildRow ps false m
  | .choice p q rest, m => do
    let (loops, m) ← p.build m
    let m ← m.grow 0 (Machine.wayRoom + wayFrom loops)
    let (loops, m) ← q.build m
    let m ← m.grow 2 (Machine.wayRoom + wayFrom loops)
    return (false, ← buildWays rest m)
  | .times p least none consumes, m => atLeast p.build consumes least m
  | .times p least (some most) _, m => between p.build least most m

/-- The machine with parts put to it, one after the other. -/
def buildRow : List Part → Bool → Machine → Option (Bool × Machine)
  | [], loops, m => some (loops, m)
  | p :: ps, loops, m => do
    let m ← m.grow 0 (wayFrom loops)
    let (loops, m) ← p.build m
    buildRow ps loops m

/-- The machine with more alternatives put to a choice. -/
def buildWays : List Part → Machine → Option Machine
  | [], m => some m
  | p :: ps, m => do
    let (loops, m) ← p.build m
    let m ← m.grow 0 (Machine.wayRoom + wayFrom loops)
    buildWays ps m

end

/-! ### Fitting -/

mutual

/-- Whether every match begins with the given assertion, or, looked at from the back, ends with
it. -/
def demands (e : Edge) (back : Bool) : Pattern → Bool
  | .edge f _ => e == f
  | .group p => demands e back p
  | .row ps => demandsSome e back ps
  | .choice ps => demandsAll e back ps
  | .times p least _ _ => 0 < least && demands e back p
  | _ => false

/-- Whether every match of patterns in a row begins, or ends, with the given assertion. -/
def demandsSome (e : Edge) (back : Bool) : List Pattern → Bool
  | [] => false
  | p :: ps =>
    if back then demandsSome e back ps || (ps.all isEmptyOnly && demands e back p)
    else demands e back p || (p.isEmptyOnly && demandsSome e back ps)

/-- Whether every match of any of the patterns begins, or ends, with the given assertion. -/
def demandsAll (e : Edge) (back : Bool) : List Pattern → Bool
  | [] => true
  | p :: ps => demands e back p && demandsAll e back ps

end

/-- Whether the machine that goes forwards fits. It remembers where a match begins and ends, and
unless a match begins with the text, it first goes to any place. -/
def fitsForward (p : Pattern) : Bool :=
  let lead := if p.demands .textStart false then Part.states 1 0 else .states 3 16
  ((Part.row [lead, .remembered (part false p), .states 1 0]).build (.start 10000)).isSome

/-- Whether the machine that goes back fits. Unless a match ends with the text, it first goes to
any place. -/
def fitsBack (p : Pattern) : Bool :=
  let lead := if p.demands .textEnd true then Part.states 1 0 else .states 3 16
  ((Part.row [lead, part true p, .states 1 0]).build (.start 1000)).isSome

/-- Whether the machines that look for a pattern fit into their room. -/
def fits (p : Pattern) : Bool := p.fitsForward && p.fitsBack

end Blockflow.Pattern
