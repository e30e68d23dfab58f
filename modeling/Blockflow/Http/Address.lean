import Blockflow.Http
import Blockflow.Text.Digits
import Blockflow.Text.Pieces

/-!
# Addresses of requests

Where a request goes: a host, a port, a path and a query, read out of the text of an address after
the living standard for them. Blanks at the ends and breaks of lines do not count, a backslash is
a slash, what stands before an `@` is no part of the host, and a path is freed of its dots. A text
that is no address cannot be sent to; neither can a header hold just any text.
-/

namespace Blockflow.Http

/-! ### Percent signs -/

/-- The bytes of characters in which a percent sign and two hexadecimal digits stand for a byte. -/
def percentDecoded : List Char → List UInt8
  | [] => []
  | '%' :: a :: b :: rest =>
    match Text.digit? 16 a, Text.digit? 16 b with
    | some high, some low => UInt8.ofNat (high * 16 + low) :: percentDecoded rest
    | _, _ => 0x25 :: percentDecoded (a :: b :: rest)
  | c :: rest => c.toString.toUTF8.data.toList ++ percentDecoded rest

/-- Whether a character is written with percent signs wherever it stands in an address. -/
def isEscaped (c : Char) : Bool :=
  c ≤ ' ' || '\x7f' ≤ c || c == '"' || c == '#' || c == '<' || c == '>'

/-- A character in the path of an address. -/
def inPath (c : Char) : List Char :=
  if isEscaped c || "?\x60\x7b\x7d".toList.contains c then Text.percentEncoded c else [c]

/-- A character in the query of an address. -/
def inQuery (c : Char) : List Char :=
  if isEscaped c || c == '\'' then Text.percentEncoded c else [c]

/-! ### Hosts -/

/-- A part of an address of four bytes, which may be written with the base eight or sixteen. -/
def quadPart? : List Char → Option Nat
  | [] => none
  | '0' :: 'x' :: cs | '0' :: 'X' :: cs => Text.digitsValue? 16 cs
  | '0' :: c :: cs => Text.digitsValue? 8 (c :: cs)
  | cs => Text.digitsValue? 10 cs

/-- The parts of a name between its dots, without an empty one at its end. -/
def labels (cs : List Char) : List (List Char) :=
  match (Text.cut '.' cs).reverse with
  | [] :: first :: others => (first :: others).reverse
  | parts => parts.reverse

/-- Whether a name ends in a number, so that it has to be an address of four bytes. -/
def endsInNumber (cs : List Char) : Bool :=
  (labels cs).getLast?.any fun l ↦
    (!l.isEmpty && l.all Char.isDigit) || (quadPart? l).isSome

/-- Whether a name is an address of four bytes. The last part stands for all bytes that are left. -/
def isQuad (cs : List Char) : Bool :=
  match (labels cs).mapM quadPart? with
  | none => false
  | some parts =>
    parts.length ≤ 4 && parts.dropLast.all (· < 256) &&
      parts.getLast?.any (· < Nat.pow 256 (5 - parts.length))

/-- Whether a part is four decimal numbers with dots between them. -/
def isDotted (cs : List Char) : Bool :=
  let parts := Text.cut '.' cs
  parts.length = 4 && parts.all fun p ↦
    p.all Char.isDigit && (p.length = 1 || p.head?.any (· ≠ '0')) &&
      (Text.digitsValue? 10 p).any (· < 256)

/-- How many of its eight groups a part of a long address has. Only the end may be dotted. -/
def groupCount? (atEnd : Bool) (cs : List Char) : Option Nat :=
  let parts := Text.cut ':' cs
  if cs.isEmpty then some 0
  else
    let isGroup (p : List Char) : Bool :=
      !p.isEmpty && p.length ≤ 4 && p.all fun c ↦ (Text.digit? 16 c).isSome
    if parts.all isGroup then some parts.length
    else if atEnd && parts.dropLast.all isGroup && parts.getLast?.any isDotted then
      some (parts.length + 1)
    else none

/-- Whether a text is an address of sixteen bytes. Two colons stand for one group or more. -/
def isLong (cs : List Char) : Bool :=
  match Text.beforeFirst? [':', ':'] cs with
  | none => groupCount? true cs = some 8
  | some before =>
    match groupCount? false before, groupCount? true (cs.drop (before.length + 2)) with
    | some m, some n => m + n < 8
    | _, _ => false

/-- Whether a character can stand in the name of a host. -/
def inHost (c : Char) : Bool :=
  ' ' < c && c ≠ '\x7f' && !"#/:<>?@[\\]^|%".toList.contains c

/-- A host: a name, or the bytes of an address. -/
def host? (cs : List Char) : Option String :=
  match cs with
  | '[' :: rest =>
    if rest.getLast? = some ']' && isLong rest.dropLast then some (String.ofList cs) else none
  | _ =>
    (String.fromUTF8? ⟨(percentDecoded cs).toArray⟩).filter fun name ↦
      let name := name.toList
      !name.isEmpty && name.all inHost && (!endsInNumber name || isQuad name)

/-- The number of a port; there may be no digits. -/
def port? (default : Nat) (digits : List Char) : Option Nat :=
  if digits.isEmpty then some default
  else if digits.all Char.isDigit then (Text.digitsValue? 10 digits).filter (· < Nat.pow 2 16)
  else none

/-- What stands before the colon of the port, and what stands after it. -/
def hostAndPort : List Char → List Char × List Char
  | [] => ([], [])
  | '[' :: cs =>
    let inside := cs.takeWhile (· ≠ ']')
    let after := (cs.dropWhile (· ≠ ']')).drop 1
    let close := if inside.length < cs.length then [']'] else []
    ('[' :: inside ++ close ++ after.takeWhile (· ≠ ':'), (after.dropWhile (· ≠ ':')).drop 1)
  | cs => (cs.takeWhile (· ≠ ':'), (cs.dropWhile (· ≠ ':')).drop 1)

/-! ### Paths -/

/-- Whether a part of a path stands for the place itself. -/
def isDot (cs : List Char) : Bool :=
  [".", "%2e"].contains (String.ofList (cs.map Char.toLower))

/-- Whether a part of a path stands for the place above. -/
def isDoubleDot (cs : List Char) : Bool :=
  ["..", ".%2e", "%2e.", "%2e%2e"].contains (String.ofList (cs.map Char.toLower))

/-- The parts of a path without those that are dots, after the given ones in reverse. -/
def withoutDots : List (List Char) → List (List Char) → List (List Char)
  | done, [] => done.reverse
  | done, [last] =>
    if isDoubleDot last then ([] :: done.tail).reverse
    else if isDot last then ([] :: done).reverse
    else (last :: done).reverse
  | done, part :: parts =>
    if isDoubleDot part then withoutDots done.tail parts
    else if isDot part then withoutDots done parts
    else withoutDots (part :: done) parts

/-- A path as it is sent. -/
def pathText (cs : List Char) : String :=
  let parts := withoutDots [] (Text.cut '/' (cs.map fun c ↦ if c = '\\' then '/' else c))
  String.join (parts.map fun p ↦ "/" ++ String.ofList (p.flatMap inPath))

/-! ### Addresses -/

/-- Where a request goes. -/
structure Address where
  /-- Whether it is sent through the secure layer. -/
  secure : Bool
  /-- The name of the host. -/
  host : String
  /-- The port. -/
  port : Nat
  /-- The path. -/
  path : String
  /-- The query. -/
  query : Option String
deriving DecidableEq

/-- Whether a character is a slash in an address. -/
def isSlash (c : Char) : Bool := c == '/' || c == '\\'

/-- A text without blanks and controls at its ends, and without tabs and breaks of lines. -/
def cleaned (s : String) : List Char :=
  let ends := s.toList.dropWhile (· ≤ ' ')
  (ends.reverse.dropWhile (· ≤ ' ')).reverse.filter fun c ↦ c ≠ '\t' && c ≠ '\n' && c ≠ '\r'

/-- Whether an address is a secure one, and what follows its scheme. -/
def scheme? (cs : List Char) : Option (Bool × List Char) :=
  let name := String.ofList ((cs.takeWhile (· ≠ ':')).map Char.toLower)
  let rest := cs.dropWhile (· ≠ ':')
  if rest.isEmpty then none
  else if name = "http" then some (false, rest.drop 1)
  else if name = "https" then some (true, rest.drop 1)
  else none

/-- The address that a text writes. -/
def Address.parse? (s : String) : Option Address := do
  let (secure, rest) ← scheme? (cleaned s)
  let rest := rest.dropWhile isSlash
  let ends (c : Char) : Bool := isSlash c || c == '?' || c == '#'
  let authority := rest.takeWhile (!ends ·)
  let rest := (rest.dropWhile (!ends ·)).takeWhile (· ≠ '#')
  let (host, port) := hostAndPort (Text.afterLast '@' authority)
  let host ← host? host
  let port ← port? (if secure then 443 else 80) port
  let path := (rest.takeWhile (· ≠ '?')).drop 1
  let query := match rest.dropWhile (· ≠ '?') with
    | [] => none
    | _ :: query => some (String.ofList (query.flatMap inQuery))
  return { secure, host, port, path := pathText path, query }

/-! ### Headers -/

/-- Whether a text can be the value of a header. -/
def isHeaderValue (s : String) : Bool :=
  s.toList.all fun c ↦ c == '\t' || (' ' ≤ c && c ≠ '\x7f')

/-- Whether a request can be written at all. -/
def Request.isWritable (r : Request) : Bool :=
  (Address.parse? r.url).isSome && r.headers.all fun h ↦ isHeaderValue h.2

end Blockflow.Http
