import Blockflow.Decimal.Text
import Blockflow.Json.Basic
import Blockflow.Yaml.Cursor
import Blockflow.Yaml.Scalar

/-!
# Writing YAML

The block form of a value: two spaces deeper for each level, lists not indented under their key,
lines as long as they need to be. A text is plain if it reads back as itself that way, in single
quotes if not, a block if it has several lines, and in double quotes if nothing else will do.
-/

namespace Blockflow.Yaml

/-! ### The look of a text -/

/-- Whether a character is written as itself. -/
def isPrintable (c : Char) : Bool :=
  let n := c.toNat
  n == 0x0A || (0x20 ≤ n && n ≤ 0x7E) || (0xA0 ≤ n && n ≤ 0xD7FF) ||
    (0xE000 ≤ n && n ≤ 0xFFFD && n != 0xFEFF) || 0x10000 ≤ n

/-- The ways in which a text may be written. -/
structure Look where
  /-- Whether it has several lines. -/
  multiline : Bool
  /-- Whether it may stand without quotes. -/
  plain : Bool
  /-- Whether it may stand in single quotes. -/
  single : Bool
  /-- Whether it may stand as a block. -/
  block : Bool
deriving DecidableEq

namespace Look

/-- Whether a character, or the end of the text, leaves a gap. -/
def leavesGap (c : Option Char) : Bool := c.all fun c ↦ isGap c || c == '\x00'

/-- Whether a character at the start of a text would be read as a sign, given the next one. -/
def isOpeningSign (c : Char) (next : Option Char) : Bool :=
  "#,[]\x7b\x7d&*!|>'\"%@".toList.contains c || c.toNat == 0x60 ||
    ((c == '?' || c == ':' || c == '-') && leavesGap next)

/-- Whether a character within a text would be read as a sign, given its neighbours. -/
def isInnerSign (before : Char) (c : Char) (next : Option Char) : Bool :=
  (c == ':' && leavesGap next) || (c == '#' && leavesGap (some before))

/-- Whether some character after the given one would be read as a sign. -/
def hasInnerSign : Char → List Char → Bool
  | _, [] => false
  | before, c :: cs => isInnerSign before c cs.head? || hasInnerSign c cs

/-- Whether a text would be read as signs if it stood without quotes. -/
def hasSign : List Char → Bool
  | [] => false
  | c :: cs =>
    isOpeningSign c cs.head? || hasInnerSign c cs ||
      ['-', '-', '-'].isPrefixOf (c :: cs) || ['.', '.', '.'].isPrefixOf (c :: cs)

/-- Whether somewhere in a text a character of one kind comes right before one of another kind. -/
def adjacent (p q : Char → Bool) : List Char → Bool
  | a :: b :: cs => (p a && q b) || adjacent p q (b :: cs)
  | _ => false

/-- Whether a character is a space. -/
def isSpace (c : Char) : Bool := c == ' '

/-- The ways in which a text may be written. -/
def ofText (cs : List Char) : Look :=
  if cs.isEmpty then ⟨false, true, true, false⟩
  else
    let breaks := cs.any isBreak
    let ends := cs.head?.any (fun c ↦ isSpace c || isBreak c) ||
      cs.getLast?.any (fun c ↦ isSpace c || isBreak c)
    let spaceBreak := adjacent isSpace isBreak cs
    let breakSpace := adjacent isBreak isSpace cs
    let special := !cs.all isPrintable
    let writable := !spaceBreak && !special
    { multiline := breaks
      plain := writable && !ends && !breakSpace && !breaks && !hasSign cs
      single := writable && !breakSpace
      block := writable && !cs.getLast?.any isSpace }

end Look

/-- How a text is written. -/
inductive Style where
  /-- Without quotes. -/
  | plain
  /-- In single quotes. -/
  | single
  /-- In double quotes. -/
  | double
  /-- As a block that keeps its lines. -/
  | block
deriving DecidableEq

/-- How a text is written, as a key on one line or elsewhere. -/
def styleOf (key : Bool) (text : String) : Style :=
  let cs := text.toList
  let look := Look.ofText cs
  if key && look.multiline then .double
  else if cs.contains '\n' then (if look.block && !key then .block else .double)
  else if isOwnText text && look.plain then .plain
  else if look.single then .single
  else .double

/-! ### The page -/

/-- What has been written, and where the next character stands. -/
structure Page where
  /-- The characters so far, last first. -/
  done : List Char
  /-- How many characters the last line has. -/
  column : Nat
  /-- Whether the next word can follow without a space. -/
  spaced : Bool
  /-- Whether there are only spaces and signs on the last line. -/
  fresh : Bool

namespace Page

/-- The empty page. -/
def empty : Page := ⟨[], 0, true, true⟩

/-- The text of a page. -/
def text (p : Page) : String := String.ofList p.done.reverse

/-- With characters of one line. -/
def put (p : Page) (cs : List Char) : Page :=
  { p with done := cs.reverse ++ p.done, column := p.column + cs.length }

/-- With a character that ends the line. -/
def putBreak (p : Page) (c : Char) : Page := { p with done := c :: p.done, column := 0 }

/-- At the given column of a fresh line. -/
def indentTo (p : Page) (column : Nat) : Page :=
  let p :=
    if !p.fresh || p.column > column || (p.column == column && !p.spaced) then p.putBreak '\n'
    else p
  { p.put (List.replicate (column - p.column) ' ') with spaced := true, fresh := true }

/-- With a sign: after a space if it needs one, and followed by one if the next word needs it. -/
def sign (p : Page) (cs : List Char) (apart : Bool) (spaced fresh : Bool) : Page :=
  let p := if apart && !p.spaced then p.put [' '] else p
  { p.put cs with spaced, fresh := p.fresh && fresh }

/-- With a word that needs a space before it. -/
def word (p : Page) (cs : List Char) : Page :=
  let p := if p.spaced || cs.isEmpty then p else p.put [' ']
  { p.put cs with spaced := false, fresh := false }

/-- With the characters of a text in single quotes; lines after the first are indented. -/
def singleQuoted (p : Page) (indent : Nat) : (broken : Bool) → List Char → Page
  | broken, [] => if broken then p.indentTo indent else p
  | broken, c :: cs =>
    if isBreak c then
      let p := if !broken && c == '\n' then p.putBreak '\n' else p
      ({ p.putBreak c with fresh := true }).singleQuoted indent true cs
    else
      let p := if broken && c != ' ' then p.indentTo indent else p
      let p := p.put (if c == '\'' then ['\'', '\''] else [c])
      if c == ' ' then p.singleQuoted indent broken cs
      else ({ p with fresh := false }).singleQuoted indent false cs

/-- The escape of a character by its number. -/
def numberEscape (c : Char) : List Char :=
  let n := c.toNat
  let digits (width : Nat) : List Char :=
    (List.range width).reverse.map fun i ↦ Text.capitalHexDigit (n / Nat.pow 16 i % 16)
  if n ≤ 0xFF then 'x' :: digits 2
  else if n ≤ 0xFFFF then 'u' :: digits 4
  else 'U' :: digits 8

/-- What stands for a character in double quotes. -/
def doubleQuotedChar (c : Char) : List Char :=
  if isPrintable c && !isBreak c && c != '"' && c != '\\' then [c]
  else
    '\\' ::
      match c with
      | '\x00' => ['0']
      | '\x07' => ['a']
      | '\x08' => ['b']
      | '\t' => ['t']
      | '\n' => ['n']
      | '\x0b' => ['v']
      | '\x0c' => ['f']
      | '\r' => ['r']
      | '\x1b' => ['e']
      | '"' => ['"']
      | '\\' => ['\\']
      | '\u0085' => ['N']
      | '\u00a0' => ['_']
      | '\u2028' => ['L']
      | '\u2029' => ['P']
      | c => numberEscape c

/-- The signs after the bar of a block: the indentation where the text starts with a gap, and what
becomes of the last line ends. -/
def blockSigns (cs : List Char) : List Char :=
  let hint := if cs.head?.any fun c ↦ c == ' ' || isBreak c then ['2'] else []
  let chomp :=
    match cs.reverse with
    | [] => ['-']
    | c :: rest =>
      if !isBreak c then ['-']
      else
        match rest with
        | [] => ['+']
        | d :: _ => if isBreak d then ['+'] else []
  hint ++ chomp

/-- With the lines of a block. -/
def blockLines (p : Page) (indent : Nat) : (broken : Bool) → List Char → Page
  | _, [] => p
  | broken, c :: cs =>
    if isBreak c then ({ p.putBreak c with fresh := true }).blockLines indent true cs
    else
      let p := if broken then p.indentTo indent else p
      ({ p.put [c] with fresh := false }).blockLines indent false cs

/-- With a text in a style; its own further lines have the given indentation. -/
def scalar (p : Page) (indent : Nat) (style : Style) (text : String) : Page :=
  let cs := text.toList
  match style with
  | .plain => p.word cs
  | .single =>
    let p := (p.sign ['\''] true false false).singleQuoted indent false cs
    { p.sign ['\''] false false false with fresh := false }
  | .double =>
    let p := (p.sign ['"'] true false false).put (cs.flatMap doubleQuotedChar)
    { p.sign ['"'] false false false with fresh := false }
  | .block =>
    let p := (p.sign ['|'] true false false).put (blockSigns cs)
    ({ p.putBreak '\n' with fresh := true, spaced := true }).blockLines indent true cs

/-- What stands for a character in a tag. -/
def tagChar (c : Char) : List Char :=
  if isNameChar c || ";/?:@&=+$,_.~*'()[]".toList.contains c then [c]
  else Text.percentEncoded c

/-- What follows the exclamation mark of a tag with a name. -/
def tagRest (name : String) : List Char :=
  match name.toList with
  | '!' :: cs => cs
  | cs => cs

/-- With a tag. One that is only an exclamation mark is written in angle brackets. -/
def tag (p : Page) : Option String → Page
  | none => p
  | some name =>
    match tagRest name with
    | [] => p.sign ("!<".toList ++ tagChar '!' ++ ['>']) true false false
    | cs => p.sign ('!' :: cs.flatMap tagChar) true false false

end Page

/-! ### Values -/

/-- The text of a number that is no integer. -/
def realText (x : Float) : String :=
  if x.isNaN then ".nan"
  else if x.isInf then (if x < 0 then "-.inf" else ".inf")
  else Decimal.exact x

/-- The text of a scalar that is no text itself. -/
def wordOf : Yaml → String
  | .bool b => if b then "true" else "false"
  | .int n => toString n
  | .real x => realText x
  | _ => "null"

/-- How many bytes a key on one line has at most. -/
def maxKeyBytes : Nat := 128

/-- The length of a tag. -/
def tagBytes : Option String → Nat
  | none => 0
  | some name => 1 + (String.ofList (Page.tagRest name)).utf8ByteSize

/-- Whether a value under a tag can be a key on one line. -/
def isShortKey (tag : Option String) : Yaml → Bool
  | .tagged name v => isShortKey (some name) v
  | .seq items => items.isEmpty && tagBytes tag ≤ maxKeyBytes
  | .map entries => entries.isEmpty && tagBytes tag ≤ maxKeyBytes
  | .str s => !s.toList.any isBreak && tagBytes tag + s.utf8ByteSize ≤ maxKeyBytes
  | v => tagBytes tag + (wordOf v).utf8ByteSize ≤ maxKeyBytes

/-- The indentation of a collection within another one. -/
def deeper : Option Nat → Nat
  | none => 0
  | some n => n + 2

/-- The indentation of the further lines of a text. -/
def textIndent : Option Nat → Nat
  | none => 2
  | some n => n + 2

mutual

/-- With a value. The indentation is that of the collection around it, if there is one; the value
is part of a mapping or not, and a key on one line or not. -/
def write (indent : Option Nat) (inMap key : Bool) (tag : Option String) : Yaml → Page → Page
  | .tagged name v, p => write indent inMap key (some name) v p
  | .seq [], p => ((p.tag tag).sign ['['] true true false).sign [']'] false false false
  | .map [], p => ((p.tag tag).sign ['{'] true true false).sign ['}'] false false false
  | .seq items, p =>
    let p := p.tag tag
    let inner := if inMap && !p.fresh then indent.getD 0 else deeper indent
    writeItems inner items p
  | .map entries, p => writeEntries (deeper indent) entries (p.tag tag)
  | .str s, p => (p.tag tag).scalar (textIndent indent) (styleOf key s) s
  | .null, p => (p.tag tag).word "null".toList
  | .bool b, p => (p.tag tag).word (wordOf (.bool b)).toList
  | .int n, p => (p.tag tag).word (wordOf (.int n)).toList
  | .real x, p => (p.tag tag).word (wordOf (.real x)).toList

/-- With the items of a list. -/
def writeItems (indent : Nat) : List Yaml → Page → Page
  | [], p => p
  | item :: rest, p =>
    let p := (p.indentTo indent).sign ['-'] true false true
    writeItems indent rest (write (some indent) false false none item p)

/-- With the entries of a mapping. -/
def writeEntries (indent : Nat) : List (Yaml × Yaml) → Page → Page
  | [], p => p
  | (k, v) :: rest, p =>
    let p := p.indentTo indent
    let p :=
      if isShortKey none k then
        (write (some indent) true true none k p).sign [':'] false false false
      else
        let p := write (some indent) true false none k (p.sign ['?'] true false true)
        (p.indentTo indent).sign [':'] true false true
    writeEntries indent rest (write (some indent) true false none v p)

end

mutual

/-- Whether a value can be written. What cannot is a mapping of one entry without a tag whose key
is again such a mapping, or a value with a tag. -/
def isWritable : Yaml → Bool
  | .seq items => areWritable items
  | .map [(k, v)] => isLoneKey k && isWritable k && isWritable v
  | .map entries => entriesWritable entries
  | .tagged _ v => isWritableTagged v
  | _ => true

/-- Whether a value can be written under a tag; there is no second one. -/
def isWritableTagged : Yaml → Bool
  | .seq items => areWritable items
  | .map entries => entriesWritable entries
  | .tagged _ _ => false
  | _ => true

/-- Whether a value can be the key of a mapping of one entry. -/
def isLoneKey : Yaml → Bool
  | .map [_] => false
  | .tagged _ _ => false
  | _ => true

/-- Whether every value of a list can be written. -/
def areWritable : List Yaml → Bool
  | [] => true
  | item :: rest => isWritable item && areWritable rest

/-- Whether every key and value of a mapping can be written. -/
def entriesWritable : List (Yaml × Yaml) → Bool
  | [] => true
  | (k, v) :: rest => isWritable k && isWritable v && entriesWritable rest

end

/-- The text of a value, unless it cannot be written. -/
def text? (v : Yaml) : Option String :=
  if isWritable v then
    let p := write none false false none v .empty
    some (p.indentTo 0).text
  else none

end Blockflow.Yaml
