import Blockflow.Text.Digits
import Blockflow.Yaml.Cursor

/-!
# Texts over several lines

How the lines of a scalar are put together. In plain and quoted scalars a single line end becomes
a space and further ones stay; in block scalars the indentation is taken away, and the sign after
the bar says what becomes of the line ends at the bottom.
-/

namespace Blockflow.Yaml

/-- What stands between two words of a scalar. -/
structure Gap where
  /-- Blanks, as long as no line has ended. -/
  blanks : List Char
  /-- Whether a line has ended. -/
  broken : Bool
  /-- The first line end; nothing if it was written away by a backslash. -/
  first : List Char
  /-- The further line ends. -/
  further : List Char

namespace Gap

/-- Nothing at all. -/
def empty : Gap := ⟨[], false, [], []⟩

/-- A line end that a backslash takes away. -/
def escaped : Gap := ⟨[], true, [], []⟩

/-- What is read for a gap. -/
def text (g : Gap) : List Char :=
  if !g.broken then g.blanks
  else if g.first = ['\n'] then (if g.further.isEmpty then [' '] else g.further)
  else g.first ++ g.further

/-- The gap up to the next word. Where lines have to be indented so far, a tab before that column
is refused. -/
def read? (indent : Option Nat) : Nat → Gap → Cursor → Option (Gap × Cursor)
  | 0, g, c => some (g, c)
  | fuel + 1, g, c =>
    match c.head? with
    | none => some (g, c)
    | some d =>
      if isBlank d then
        if g.broken && d == '\t' && indent.any (c.column < ·) then none
        else if g.broken then read? indent fuel g (c.skip 1)
        else read? indent fuel { g with blanks := g.blanks ++ [d] } (c.skip 1)
      else if isBreak d then
        let (text, next) := c.readBreak
        if g.broken then read? indent fuel { g with further := g.further ++ text } next
        else read? indent fuel ⟨[], true, text, []⟩ next
      else some (g, c)

end Gap

/-! ### Plain scalars -/

/-- Whether a character is a bracket or comma of a flow collection. -/
def isFlowMark (d : Char) : Bool := d == ',' || d == '[' || d == ']' || d == '{' || d == '}'

/-- The next word of a plain scalar, with the characters before it in reverse. In a flow
collection a colon right before a mark is refused. -/
def plainWord? (flow : Bool) : Nat → List Char → Cursor → Option (List Char × Cursor)
  | 0, done, c => some (done.reverse, c)
  | fuel + 1, done, c =>
    match c.head? with
    | none => some (done.reverse, c)
    | some d =>
      if isGap d then some (done.reverse, c)
      else if flow && d == ':' && c.second?.any fun e ↦ isFlowMark e || e == '?' then none
      else if (d == ':' && c.gapAfterNext) || (flow && isFlowMark d) then some (done.reverse, c)
      else plainWord? flow fuel (d :: done) (c.skip 1)

/-- A plain scalar from a word on: what has been read, the gap before the word, and whether the
scalar ends at the start of a line. -/
def plainFrom? (flow : Bool) (indent : Nat) :
    Nat → List Char → Gap → Cursor → Option (List Char × Bool × Cursor)
  | 0, done, gap, c => some (done, gap.broken, c)
  | fuel + 1, done, gap, c =>
    if c.atDocumentMark || c.head? == some '#' then some (done, gap.broken, c)
    else
      match plainWord? flow (c.rest.length + 1) [] c with
      | none => none
      | some (word, c) =>
        let (done, broken) :=
          if word.isEmpty then (done, gap.broken) else (done ++ gap.text ++ word, false)
        if c.rest.head?.any isGap then
          match Gap.read? (some indent) (c.rest.length + 1) .empty c with
          | none => none
          | some (gap, c) =>
            if !flow && c.column < indent then some (done, gap.broken, c)
            else plainFrom? flow indent fuel done gap c
        else some (done, broken, c)

/-! ### Quoted scalars -/

/-- How many hexadecimal digits follow an escape letter. -/
def escapeWidth? : Char → Option Nat
  | 'x' => some 2
  | 'u' => some 4
  | 'U' => some 8
  | _ => none

/-- The character that an escape letter stands for. -/
def escaped? : Char → Option Char
  | '0' => some '\x00'
  | 'a' => some '\x07'
  | 'b' => some '\x08'
  | 't' | '\t' => some '\t'
  | 'n' => some '\n'
  | 'v' => some '\x0b'
  | 'f' => some '\x0c'
  | 'r' => some '\r'
  | 'e' => some '\x1b'
  | ' ' => some ' '
  | '"' => some '"'
  | '/' => some '/'
  | '\\' => some '\\'
  | 'N' => some '\u0085'
  | '_' => some '\u00a0'
  | 'L' => some '\u2028'
  | 'P' => some '\u2029'
  | _ => none

/-- The number that so many hexadecimal digits write. -/
def hexNumber? (width : Nat) (cs : List Char) : Option Nat :=
  if cs.length < width then none
  else Text.digitsValue? 16 (cs.take width)

/-- The character of an escape, and the place after it; the backslash comes next. -/
def readEscape? (c : Cursor) : Option (Char × Cursor) :=
  match c.second? with
  | none => none
  | some letter =>
    match escapeWidth? letter with
    | some width =>
      match hexNumber? width (c.rest.drop 2) with
      | some n =>
        if (0xD800 ≤ n && n ≤ 0xDFFF) || n > 0x10FFFF then none
        else some (Char.ofNat n, c.skip (2 + width))
      | none => none
    | none => (escaped? letter).map (·, c.skip 2)

/-- The next word of a quoted scalar, with the characters before it in reverse, and whether a
backslash at the end of its line ends it. -/
def quotedWord? (quote : Char) : Nat → List Char → Cursor → Option (List Char × Bool × Cursor)
  | 0, done, c => some (done.reverse, false, c)
  | fuel + 1, done, c =>
    match c.head? with
    | none => some (done.reverse, false, c)
    | some d =>
      if isGap d then some (done.reverse, false, c)
      else if quote == '\'' && d == '\'' && c.second? == some '\'' then
        quotedWord? quote fuel ('\'' :: done) (c.skip 2)
      else if d == quote then some (done.reverse, false, c)
      else if quote == '"' && d == '\\' then
        if (c.skip 1).atBreak then some (done.reverse, true, (c.skip 1).readBreak.2)
        else
          match readEscape? c with
          | some (e, c) => quotedWord? quote fuel (e :: done) c
          | none => none
      else quotedWord? quote fuel (d :: done) (c.skip 1)

/-- A quoted scalar after its opening quote. -/
def quotedFrom? (quote : Char) : Nat → List Char → Cursor → Option (List Char × Cursor)
  | 0, _, _ => none
  | fuel + 1, done, c =>
    if c.atDocumentMark || c.atEnd then none
    else
      match quotedWord? quote (c.rest.length + 1) [] c with
      | none => none
      | some (word, escapedBreak, c) =>
        if c.head? == some quote then some (done ++ word, c.skip 1)
        else
          let start := if escapedBreak then Gap.escaped else Gap.empty
          match Gap.read? none (c.rest.length + 1) start c with
          | none => none
          | some (gap, c) => quotedFrom? quote fuel (done ++ word ++ gap.text) c

/-! ### Block scalars -/

/-- What becomes of the line ends at the bottom of a block scalar. -/
inductive Chomp where
  /-- All are dropped. -/
  | strip
  /-- One is kept. -/
  | clip
  /-- All are kept. -/
  | keep
deriving DecidableEq

/-- The sign for what becomes of the last line ends. -/
def Chomp.ofSign? : Char → Option Chomp
  | '-' => some .strip
  | '+' => some .keep
  | _ => none

/-- The signs after the bar of a block scalar: the last line ends, and the indentation if it is
given. -/
def blockHeader? (c : Cursor) : Option (Chomp × Option Nat × Cursor) :=
  let digit? (c : Cursor) : Option (Option Nat × Cursor) :=
    match c.head? with
    | some d =>
      if d.isDigit then (if d == '0' then none else some (some (d.toNat - 48), c.skip 1))
      else some (none, c)
    | none => some (none, c)
  match c.head?.bind Chomp.ofSign? with
  | some chomp => (digit? (c.skip 1)).map fun (n, c) ↦ (chomp, n, c)
  | none =>
    match digit? c with
    | none => none
    | some (none, c) => some (.clip, none, c)
    | some (some n, c) =>
      match c.head?.bind Chomp.ofSign? with
      | some chomp => some (chomp, some n, c.skip 1)
      | none => some (.clip, some n, c)

/-- The empty lines before the next line of a block scalar: their line ends, the greatest column
that spaces lead to, and the place. A tab in the indentation is refused. -/
def blockBreaks? (indent : Option Nat) :
    Nat → List Char → Nat → Cursor → Option (List Char × Nat × Cursor)
  | 0, done, deepest, c => some (done, deepest, c)
  | fuel + 1, done, deepest, c =>
    let room := indent.map (· - c.column)
    let spaces := (c.rest.takeWhile (· == ' ')).length
    let c := c.skip (match room with | some n => min n spaces | none => spaces)
    let deepest := max deepest c.column
    if c.head? == some '\t' && indent.all (c.column < ·) then none
    else if c.atBreak then
      let (text, next) := c.readBreak
      blockBreaks? indent fuel (done ++ text) deepest next
    else some (done, deepest, c)

/-- The lines of a block scalar: what has been read, the line end before the next line, the empty
lines after that, and whether the line before started with a blank. -/
def blockLines? (folded : Bool) (indent : Nat) :
    Nat → (done lineEnd empties : List Char) → (blank : Bool) → Cursor →
      Option (List Char × List Char × List Char × Cursor)
  | 0, done, lineEnd, empties, _, c => some (done, lineEnd, empties, c)
  | fuel + 1, done, lineEnd, empties, blank, c =>
    if c.column == indent && !c.atEnd then
      let nextBlank := c.atBlank
      let joint :=
        if folded && lineEnd = ['\n'] && !blank && !nextBlank then
          if empties.isEmpty then [' '] else []
        else lineEnd
      let (line, c) := c.takeWhile fun d ↦ !isBreak d
      let (lineEnd, c) := c.readBreak
      let done := done ++ joint ++ empties ++ line
      match blockBreaks? (some indent) (c.rest.length + 1) [] 0 c with
      | none => none
      | some (empties, _, c) => blockLines? folded indent fuel done lineEnd empties nextBlank c
    else some (done, lineEnd, empties, c)

/-- A block scalar after its bar, in a block with the given indentation. -/
def blockScalar? (folded : Bool) (outer : Int) (c : Cursor) : Option (List Char × Cursor) := do
  let (chomp, step, c) ← blockHeader? c
  let c := c.skipWhile isBlank
  let c := if c.head? == some '#' then c.skipWhile (fun d ↦ !isBreak d) else c
  if !c.atLineEnd then none
  let c := c.readBreak.2
  let given := step.map fun n ↦ if outer ≥ 0 then outer.toNat + n else n
  let (empties, deepest, c) ← blockBreaks? given (c.rest.length + 1) [] 0 c
  let indent := given.getD (max (max deepest (outer + 1).toNat) 1)
  let (done, lineEnd, empties, c) ←
    blockLines? folded indent (c.rest.length + 1) [] [] empties false c
  let done := if chomp = .strip then done else done ++ lineEnd
  return (if chomp = .keep then done ++ empties else done, c)

end Blockflow.Yaml
