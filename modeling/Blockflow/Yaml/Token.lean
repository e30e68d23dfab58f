import Blockflow.Yaml.Folded

/-!
# YAML tokens

A YAML text as a list of tokens, with the indentation of blocks made explicit. Whether a scalar is
the key of a mapping shows only at the colon after it; so every place where a key may start is
kept, and the tokens that open the mapping and the key are put in there later.
-/

namespace Blockflow.Yaml

/-- A part of a YAML text. -/
inductive Token where
  /-- The end of the text. -/
  | streamEnd
  /-- A directive with the version of YAML. -/
  | version (major minor : Nat)
  /-- A directive that gives a meaning to a handle of tags. -/
  | tagDirective (handle start : String)
  /-- Three dashes. -/
  | documentStart
  /-- Three dots. -/
  | documentEnd
  /-- A list by indentation starts. -/
  | blockSequenceStart
  /-- A mapping by indentation starts. -/
  | blockMappingStart
  /-- The indentation goes back. -/
  | blockEnd
  /-- An opening bracket. -/
  | flowSequenceStart
  /-- A closing bracket. -/
  | flowSequenceEnd
  /-- An opening brace. -/
  | flowMappingStart
  /-- A closing brace. -/
  | flowMappingEnd
  /-- The dash before an item. -/
  | blockEntry
  /-- A comma. -/
  | flowEntry
  /-- A key follows. -/
  | key
  /-- A value follows. -/
  | value
  /-- A reference to a node with a name. -/
  | alias (name : String)
  /-- A name for the node that follows. -/
  | anchor (name : String)
  /-- A tag for the node that follows: a handle, and what stands after it. -/
  | tag (handle suffix : String)
  /-- A scalar, and whether it is neither quoted nor a block. -/
  | scalar (text : String) (plain : Bool)
deriving DecidableEq, Inhabited

namespace Token

/-- A place where a key may start. -/
structure KeyPlace where
  /-- How many tokens come before it. -/
  number : Nat
  /-- Whether there has to be a key. -/
  required : Bool
  /-- The place in the text. -/
  place : Cursor

/-- What is known in the middle of a text. -/
structure Scan where
  /-- The place in the text. -/
  cursor : Cursor
  /-- The indentation of the innermost block, or -1 outside of blocks. -/
  indent : Int
  /-- The indentations of the outer blocks, innermost first. -/
  outer : List Int
  /-- Whether a key may start here. -/
  keyAllowed : Bool
  /-- The place where a key may have started, for each open bracket and for the block around
  them, innermost first. -/
  keys : List (Option KeyPlace)
  /-- The tokens so far, last first. -/
  tokens : List Token

namespace Scan

/-- Before the first character. -/
def start (cs : List Char) : Scan :=
  { cursor := .start cs, indent := -1, outer := [], keyAllowed := true, keys := [none],
    tokens := [] }

/-- Whether a bracket or brace is open. -/
def inFlow (s : Scan) : Bool := s.keys.length > 1

/-- With one more token. -/
def push (s : Scan) (t : Token) : Scan := { s with tokens := t :: s.tokens }

/-- With a token put in so that so many tokens come before it. -/
def insertAt (s : Scan) (number : Nat) (t : Token) : Scan :=
  let after := s.tokens.length - number
  { s with tokens := s.tokens.take after ++ t :: s.tokens.drop after }

/-- Without the place where the innermost key may have started. A required key that did not come
is refused. -/
def dropKey? (s : Scan) : Option Scan :=
  match s.keys with
  | some k :: rest => if k.required then none else some { s with keys := none :: rest }
  | _ => some s

/-- Keeps the place as one where a key may start, if it may. -/
def saveKey? (s : Scan) : Option Scan :=
  if s.keyAllowed then
    let required := !s.inFlow && s.indent == s.cursor.column
    match s.dropKey? with
    | none => none
    | some s =>
      some { s with keys := some ⟨s.tokens.length, required, s.cursor⟩ :: s.keys.drop 1 }
  else some s

/-- Whether a key that starts at a place can no longer end here: a key is on one line and has at
most 1024 bytes. -/
def isStale (s : Scan) (k : KeyPlace) : Bool :=
  k.place.line < s.cursor.line || k.place.index + 1024 < s.cursor.index

/-- Without the places of keys that are too far back. -/
def dropStale? (s : Scan) : Option Scan :=
  if s.keys.any fun k ↦ k.any fun k ↦ s.isStale k && k.required then none
  else some { s with keys := s.keys.map fun k ↦ k.filter fun k ↦ !s.isStale k }

/-- Ends every block that is indented further than a column. -/
def unroll (s : Scan) (column : Int) : Scan :=
  if s.inFlow then s
  else
    let rec ends : List Int → Int → List Token → Int × List Int × List Token
      | [], indent, tokens => (indent, [], tokens)
      | next :: outer, indent, tokens =>
        if indent > column then ends outer next (.blockEnd :: tokens)
        else (indent, next :: outer, tokens)
    let (indent, outer, tokens) := ends s.outer s.indent s.tokens
    { s with indent, outer, tokens }

/-- Starts a block at a column if that is indented further, with its token put in so that so many
tokens come before it. -/
def roll (s : Scan) (column number : Nat) (t : Token) : Scan :=
  if s.inFlow || s.indent ≥ column then s
  else { s with indent := column, outer := s.indent :: s.outer }.insertAt number t

/-- After so many characters that make up a token. -/
def take (s : Scan) (n : Nat) (t : Token) : Scan := { s with cursor := s.cursor.skip n }.push t

/-- After blanks, comments and line ends, and a mark of byte order at the start of a line. -/
def skipGaps : Nat → Scan → Scan
  | 0, s => s
  | fuel + 1, s =>
    let c := s.cursor
    let c := if c.column == 0 && c.head? == some '\ufeff' then c.skip 1 else c
    let tabs := s.inFlow || !s.keyAllowed
    let c := c.skipWhile fun d ↦ d == ' ' || (tabs && d == '\t')
    let c := if c.head? == some '#' then c.skipWhile (fun d ↦ !isBreak d) else c
    if c.atBreak then
      skipGaps fuel { s with cursor := c.readBreak.2, keyAllowed := s.keyAllowed || !s.inFlow }
    else { s with cursor := c }

end Scan

/-! ### Names, tags and directives -/

/-- A name of a node, and the place after it; the sign before it comes next. -/
def anchorName? (c : Cursor) : Option (String × Cursor) :=
  let (name, c) := (c.skip 1).takeWhile isNameChar
  let ends := c.rest.head?.all fun d ↦
    isGap d || d == '?' || d == ':' || d == ',' || d == ']' || d == '}' || d == '%' || d == '@' ||
      d.toNat == 0x60
  if name.isEmpty || !ends then none else some (String.ofList name, c)

/-- The handle of a tag, with its exclamation marks. -/
def tagHandle? (directive : Bool) (c : Cursor) : Option (String × Cursor) :=
  if c.head? != some '!' then none
  else
    let (name, c) := (c.skip 1).takeWhile isNameChar
    if c.head? == some '!' then some (String.ofList ('!' :: name ++ ['!']), c.skip 1)
    else if directive && !name.isEmpty then none
    else some (String.ofList ('!' :: name), c)

/-- Whether a character may stand in a tag. -/
def isTagChar (verbatim : Bool) (d : Char) : Bool :=
  isNameChar d || ";/?:@&=+$.!~*'()%".toList.contains d ||
    (verbatim && (d == ',' || d == '[' || d == ']'))

/-- The bytes that percent signs write in a text, with the other characters as they are. -/
def percentDecoded? : Nat → List Char → Option (List (Char ⊕ Nat))
  | 0, _ => some []
  | _ + 1, [] => some []
  | fuel + 1, '%' :: a :: b :: rest => do
    let a ← Text.digit? 16 a
    let b ← Text.digit? 16 b
    return .inr (a * 16 + b) :: (← percentDecoded? fuel rest)
  | _ + 1, '%' :: _ => none
  | fuel + 1, c :: rest => (percentDecoded? fuel rest).map (.inl c :: ·)

/-- The characters that a list of characters and UTF-8 bytes stands for. -/
def joinBytes? : Nat → List (Char ⊕ Nat) → Option (List Char)
  | 0, _ => some []
  | _ + 1, [] => some []
  | fuel + 1, .inl c :: rest => (joinBytes? fuel rest).map (c :: ·)
  | fuel + 1, .inr b :: rest =>
    let follow? (n : Nat) (start : Nat) : Option (Nat × List (Char ⊕ Nat)) :=
      let step (v : Nat) (x : Char ⊕ Nat) : Option Nat :=
        match x with
        | .inr b => if b / 64 = 2 then some (v * 64 + b % 64) else none
        | .inl _ => none
      if rest.length < n then none
      else ((rest.take n).foldlM step start).map (·, rest.drop n)
    let char? : Option (Nat × List (Char ⊕ Nat)) :=
      if b < 0x80 then some (b, rest)
      else if b / 32 = 6 then follow? 1 (b % 32)
      else if b / 16 = 14 then follow? 2 (b % 16)
      else if b / 8 = 30 then follow? 3 (b % 8)
      else none
    match char? with
    | none => none
    | some (n, rest) =>
      if n ≤ 0x10FFFF && !(0xD800 ≤ n && n ≤ 0xDFFF) then
        (joinBytes? fuel rest).map (Char.ofNat n :: ·)
      else none

/-- What a tag says after its handle; `head` has been read before. -/
def tagText? (verbatim : Bool) (head : List Char) (c : Cursor) : Option (String × Cursor) := do
  let (text, c) := c.takeWhile (isTagChar verbatim)
  if head.isEmpty && text.isEmpty then none
  let parts ← percentDecoded? (text.length + 1) text
  let chars ← joinBytes? (parts.length + 1) parts
  return (String.ofList (head.drop 1 ++ chars), c)

/-- The handle and the suffix of a tag, and the place after them. -/
def tagParts? (c : Cursor) : Option (String × String × Cursor) := do
  if c.second? == some '<' then
    let (suffix, c) ← tagText? true [] (c.skip 2)
    if c.head? == some '>' then return ("", suffix, c.skip 1) else none
  else
    let (handle, c) ← tagHandle? false c
    if handle.length > 1 && handle.toList.getLast? == some '!' then
      let (suffix, c) ← tagText? false [] c
      return (handle, suffix, c)
    else
      let (suffix, c) ← tagText? false handle.toList c
      return if suffix.isEmpty then ("", "!", c) else ("!", suffix, c)

/-- A tag, and the place after it. -/
def tag? (flow : Bool) (c : Cursor) : Option (Token × Cursor) :=
  match tagParts? c with
  | some (handle, suffix, c) =>
    if c.atGap || (flow && c.head? == some ',') then some (.tag handle suffix, c) else none
  | none => none

/-- A number of at most nine digits, and the place after it. -/
def versionNumber? (c : Cursor) : Option (Nat × Cursor) :=
  let (ds, c) := c.takeWhile Char.isDigit
  if ds.isEmpty || ds.length > 9 then none
  else some (ds.foldl (fun n d ↦ n * 10 + (d.toNat - 48)) 0, c)

/-- What a directive with the given name says, and the place after it. -/
def directiveBody? (name : String) (c : Cursor) : Option (Token × Cursor) := do
  let c := c.skipWhile isBlank
  match name with
  | "YAML" =>
    let (major, c) ← versionNumber? c
    if c.head? != some '.' then none
    let (minor, c) ← versionNumber? (c.skip 1)
    return (.version major minor, c)
  | "TAG" =>
    let (handle, c) ← tagHandle? true c
    if !c.atBlank then none
    let (start, c) ← tagText? true [] (c.skipWhile isBlank)
    if c.atGap then return (.tagDirective handle start, c) else none
  | _ => none

/-- A directive, and the place on the next line; the percent sign comes next. -/
def directive? (c : Cursor) : Option (Token × Cursor) := do
  let (name, c) := (c.skip 1).takeWhile isNameChar
  if name.isEmpty || !c.atGap then none
  let (token, c) ← directiveBody? (String.ofList name) c
  let c := c.skipWhile isBlank
  let c := if c.head? == some '#' then c.skipWhile (fun d ↦ !isBreak d) else c
  if c.atLineEnd then return (token, c.readBreak.2) else none

/-! ### One token after the other -/

namespace Scan

/-- An opening bracket or brace. -/
def openFlow? (s : Scan) (t : Token) : Option Scan :=
  s.saveKey?.map fun s ↦ { s with keys := none :: s.keys, keyAllowed := true }.take 1 t

/-- A closing bracket or brace. -/
def closeFlow? (s : Scan) (t : Token) : Option Scan :=
  s.dropKey?.map fun s ↦
    { s with keys := if s.inFlow then s.keys.drop 1 else s.keys, keyAllowed := false }.take 1 t

/-- The start of a block by a sign, where a block may start. -/
def openBlock? (s : Scan) (t : Token) : Option Scan :=
  if s.inFlow then some s
  else if s.keyAllowed then some (s.roll s.cursor.column s.tokens.length t)
  else none

/-- The dash before an item. -/
def blockEntry? (s : Scan) : Option Scan := do
  let s ← s.openBlock? .blockSequenceStart
  let s ← s.dropKey?
  return { s with keyAllowed := true }.take 1 .blockEntry

/-- The question mark before a key. -/
def explicitKey? (s : Scan) : Option Scan := do
  let s ← s.openBlock? .blockMappingStart
  let s ← s.dropKey?
  return { s with keyAllowed := !s.inFlow }.take 1 .key

/-- The colon before a value, after a key or alone. -/
def value? (s : Scan) : Option Scan :=
  match s.keys with
  | some k :: rest =>
    let s := s.insertAt k.number .key
    let s := s.roll k.place.column k.number .blockMappingStart
    some ({ s with keys := none :: rest, keyAllowed := false }.take 1 .value)
  | _ =>
    (s.openBlock? .blockMappingStart).map fun s ↦
      { s with keyAllowed := !s.inFlow }.take 1 .value

/-- A token that may start a key and is read by the given function. -/
def keyed? (s : Scan) (read? : Cursor → Option (Token × Cursor)) : Option Scan := do
  let s ← s.saveKey?
  let (t, cursor) ← read? s.cursor
  return { s with keyAllowed := false, cursor }.push t

/-- A block scalar. -/
def block? (s : Scan) (folded : Bool) : Option Scan := do
  let s ← s.dropKey?
  let (text, cursor) ← blockScalar? folded s.indent (s.cursor.skip 1)
  return { s with keyAllowed := true, cursor }.push (.scalar (String.ofList text) false)

/-- A quoted scalar. -/
def quoted? (s : Scan) (quote : Char) : Option Scan :=
  s.keyed? fun c ↦
    (quotedFrom? quote (c.rest.length + 1) [] (c.skip 1)).map fun (text, c) ↦
      (.scalar (String.ofList text) false, c)

/-- A plain scalar. -/
def plain? (s : Scan) : Option Scan := do
  let s ← s.saveKey?
  let c := s.cursor
  let (text, broken, cursor) ←
    plainFrom? s.inFlow (s.indent + 1).toNat (c.rest.length + 1) [] .empty c
  return { s with keyAllowed := broken, cursor }.push (.scalar (String.ofList text) true)

/-- The mark of a document's start or end. -/
def documentMark? (s : Scan) (t : Token) : Option Scan :=
  (s.unroll (-1)).dropKey?.map fun s ↦ { s with keyAllowed := false }.take 3 t

/-- Whether a plain scalar may start at a place. -/
def startsPlain (s : Scan) (d : Char) : Bool :=
  let c := s.cursor
  let sign := isGap d || "-?:,[]\x7b\x7d#&*!|>'\"%@".toList.contains d || d.toNat == 0x60
  !sign || (d == '-' && !(c.second?.any isBlank)) ||
    (!s.inFlow && (d == '?' || d == ':') && !c.gapAfterNext)

/-- The next token, where the text has not ended. -/
def next? (s : Scan) (d : Char) : Option Scan :=
  let c := s.cursor
  let alone := s.inFlow || c.gapAfterNext
  if c.column == 0 && d == '%' then do
    let s ← (s.unroll (-1)).dropKey?
    let (t, cursor) ← directive? c
    return { s with keyAllowed := false, cursor }.push t
  else if c.atMark '-' then s.documentMark? .documentStart
  else if c.atMark '.' then s.documentMark? .documentEnd
  else if d == '[' then s.openFlow? .flowSequenceStart
  else if d == '{' then s.openFlow? .flowMappingStart
  else if d == ']' then s.closeFlow? .flowSequenceEnd
  else if d == '}' then s.closeFlow? .flowMappingEnd
  else if d == ',' then
    s.dropKey?.map fun s ↦ { s with keyAllowed := true }.take 1 .flowEntry
  else if d == '-' && c.gapAfterNext then s.blockEntry?
  else if d == '?' && alone then s.explicitKey?
  else if d == ':' && alone then s.value?
  else if d == '*' then s.keyed? fun c ↦ (anchorName? c).map fun (n, c) ↦ (.alias n, c)
  else if d == '&' then s.keyed? fun c ↦ (anchorName? c).map fun (n, c) ↦ (.anchor n, c)
  else if d == '!' then s.keyed? (tag? s.inFlow)
  else if d == '|' && !s.inFlow then s.block? false
  else if d == '>' && !s.inFlow then s.block? true
  else if d == '\'' || d == '"' then s.quoted? d
  else if s.startsPlain d then s.plain?
  else none

/-- The end of the text. -/
def finish? (s : Scan) : Option Scan :=
  (s.unroll (-1)).dropKey?.map (·.push .streamEnd)

/-- Every token up to the end of the text. -/
def run? : Nat → Scan → Option Scan
  | 0, _ => none
  | fuel + 1, s =>
    match (s.skipGaps (s.cursor.rest.length + 1)).dropStale? with
    | none => none
    | some s =>
      let s := s.unroll s.cursor.column
      match s.cursor.head? with
      | none => s.finish?
      | some d =>
        match s.next? d with
        | some s => run? fuel s
        | none => none

end Scan

/-- The tokens of a text. -/
def ofText? (text : String) : Option (List Token) :=
  let cs := text.toList
  if cs.all isAllowed then
    ((Scan.start cs).run? (cs.length + 1)).map fun s ↦ s.tokens.reverse
  else none

end Token

end Blockflow.Yaml
