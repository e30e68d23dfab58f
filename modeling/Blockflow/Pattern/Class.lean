import Blockflow.Pattern.Escape

/-!
# Classes of patterns

Sets of characters in brackets: characters, ranges, named sets and further classes, and the
operations between them. Reading a class also tells how deep its parts are nested.
-/

namespace Blockflow.Pattern

open Text (CharSet)

/-- The set with the given name between colons. -/
def asciiClass? : String → Option CharSet
  | "alnum" => some (.ofHex "30-39 41-5A 61-7A")
  | "alpha" => some (.ofHex "41-5A 61-7A")
  | "ascii" => some (.ofHex "0-7F")
  | "blank" => some (.ofHex "9 20")
  | "cntrl" => some (.ofHex "0-1F 7F")
  | "digit" => some (.ofHex "30-39")
  | "graph" => some (.ofHex "21-7E")
  | "lower" => some (.ofHex "61-7A")
  | "print" => some (.ofHex "20-7E")
  | "punct" => some (.ofHex "21-2F 3A-40 5B-60 7B-7E")
  | "space" => some (.ofHex "9-D 20")
  | "upper" => some (.ofHex "41-5A")
  | "word" => some asciiWord
  | "xdigit" => some (.ofHex "30-39 41-46 61-66")
  | _ => none

/-- A class of its own: with the variants of its characters, and the other characters if it is
negated. A class must keep within ASCII unless classes may go beyond. -/
def closed? (f : Flags) (negated : Bool) (s : CharSet) : Option CharSet :=
  let s := folded f s
  if f.unicode then some (if negated then s.complement else s.normal)
  else if negated || !s.isAscii then none
  else some s.normal

/-- A set with a name between colons, after its opening bracket, and what stands after it. -/
def named? (cs : List Char) : Option (CharSet × Bool × List Char) := do
  let cs ← Text.afterStart? [':'] cs
  let negated := cs.head? == some '^'
  let cs := if negated then cs.drop 1 else cs
  let (name, rest) ← until? {} ':' cs
  let rest ← Text.afterStart? [']'] rest
  return (← asciiClass? (String.ofList name), negated, rest)

/-! ### Members -/

/-- The members of a class that have been read since the last operation. -/
structure Members where
  /-- The characters. -/
  set : CharSet := .empty
  /-- How many members there are. -/
  count : Nat := 0
  /-- How deep the members are nested. -/
  depth : Nat := 0

/-- The members with one more. -/
def Members.add (m : Members) (s : CharSet) (depth : Nat) : Members :=
  ⟨m.set ∪ s, m.count + 1, max m.depth depth⟩

/-- How deep the union of the members is nested. -/
def Members.unionDepth (m : Members) : Nat := if m.count < 2 then m.depth else m.depth + 1

/-- One member before it is known whether it begins a range. -/
def member? (f : Flags) : List Char → Option (Atom × List Char)
  | [] => none
  | '\\' :: cs => escape? f cs
  | c :: cs => some (.char c, cs)

/-- A character as a member of a class; it must be ASCII unless classes may go beyond. -/
def memberChar? (f : Flags) : Atom → Option Char
  | .char c => if f.unicode || c.toNat < 128 then some c else none
  | _ => none

/-- The set that a member stands for. -/
def memberSet? (f : Flags) : Atom → Option CharSet
  | .set s => some s
  | a => (memberChar? f a).map CharSet.single

/-- The character after a dash that decides whether the dash makes a range. Where blanks are
skipped, so is one `#`, but not the comment after it; if nothing but these is left, the character
right after the dash decides. -/
def afterDash? (f : Flags) (cs : List Char) : Option Char :=
  if !f.spaced then cs.head?
  else
    let rest :=
      match Text.trimLeft cs with
      | '#' :: rest => Text.trimLeft rest
      | rest => rest
    rest.head?.or cs.head?

/-- A member of a class, or a range of characters. -/
def range? (f : Flags) (cs : List Char) : Option (CharSet × List Char) := do
  let (first, rest) ← member? f cs
  match skip f rest with
  | [] => none
  | '-' :: after =>
    if afterDash? f after == some ']' || afterDash? f after == some '-' then
      return (← memberSet? f first, '-' :: after)
    let (last, rest) ← member? f (skip f after)
    let a ← memberChar? f first
    let b ← memberChar? f last
    if a.toNat ≤ b.toNat then return (.range a.toNat b.toNat, rest) else none
  | rest => return (← memberSet? f first, rest)

/-! ### Operations -/

/-- An operation on two sets. -/
inductive SetOp where
  /-- What is in both. -/
  | inter
  /-- What is in the first alone. -/
  | without
  /-- What is in one alone. -/
  | either

/-- What an operation makes of two sets. -/
def SetOp.apply : SetOp → CharSet → CharSet → CharSet
  | .inter => CharSet.inter
  | .without => CharSet.without
  | .either => CharSet.either

/-- The first set of an operation that waits for its second one. -/
structure Waiting where
  /-- The set. -/
  set : CharSet
  /-- How deep it is nested. -/
  depth : Nat
  /-- The operation. -/
  op : SetOp

/-- What has been read of a class, and how deep it is nested: the members, or what the operation
that waits for them makes of them. -/
def settle (f : Flags) (waiting : Option Waiting) (m : Members) : CharSet × Nat :=
  match waiting with
  | none => (m.set, m.unionDepth)
  | some w => (w.op.apply (folded f w.set) (folded f m.set), max w.depth m.unionDepth + 1)

/-- What has been read of a class as the first set of an operation. -/
def await (f : Flags) (waiting : Option Waiting) (m : Members) (op : SetOp) : Waiting :=
  let (s, depth) := settle f waiting m
  ⟨s, depth, op⟩

/-! ### Classes -/

/-- The start of a class after its opening bracket: whether it is negated, and the members that can
stand only here, which are dashes, or else a closing bracket. -/
def classStart (f : Flags) (cs : List Char) : Bool × Members × List Char :=
  let cs := skip f cs
  let negated := cs.head? == some '^'
  let cs := skip f (if negated then cs.drop 1 else cs)
  let (dashes, cs) := readWhile f (· == '-') cs
  let m := dashes.foldl (fun (m : Members) c ↦ m.add (.single c) 0) {}
  match dashes, cs with
  | [], ']' :: rest => (negated, m.add (.single ']') 0, rest)
  | _, cs => (negated, m, cs)

mutual

/-- A class after its opening bracket, with how deep it is nested. The first argument bounds the
steps, the second one how deep classes may be nested. -/
def class? : Nat → Nat → Flags → List Char → Option (CharSet × Nat × List Char)
  | 0, _, _, _ => none
  | _, 0, _, _ => none
  | fuel + 1, level + 1, f, cs =>
    let (negated, m, cs) := classStart f cs
    match classRest? fuel level f none m cs with
    | some (s, depth, rest) => (closed? f negated s).map (·, depth + 1, rest)
    | none => none

/-- The rest of a class up to its closing bracket. -/
def classRest? : Nat → Nat → Flags → Option Waiting → Members → List Char →
    Option (CharSet × Nat × List Char)
  | 0, _, _, _, _, _ => none
  | fuel + 1, level, f, waiting, m, cs =>
    match skip f cs with
    | ']' :: rest =>
      let (s, depth) := settle f waiting m
      some (s, depth, rest)
    | '&' :: '&' :: rest => classRest? fuel level f (await f waiting m .inter) {} rest
    | '-' :: '-' :: rest => classRest? fuel level f (await f waiting m .without) {} rest
    | '~' :: '~' :: rest => classRest? fuel level f (await f waiting m .either) {} rest
    | '[' :: rest =>
      match named? rest with
      | some (s, negated, rest) =>
        match closed? f negated s with
        | some s => classRest? fuel level f waiting (m.add s 0) rest
        | none => none
      | none =>
        match class? fuel level f rest with
        | some (s, depth, rest) => classRest? fuel level f waiting (m.add s depth) rest
        | none => none
    | cs =>
      match range? f cs with
      | some (s, rest) => classRest? fuel level f waiting (m.add s 0) rest
      | none => none

end

end Blockflow.Pattern
