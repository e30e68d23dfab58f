import Blockflow.Decimal.Binary
import Blockflow.Json.Basic
import Blockflow.Text.Digits

/-!
# Reading JSON

JSON text after RFC 8259, with three rules of this library: a number that no double can hold is
refused, a number is read into 64 bits of significand before it is scaled, and containers nest at
most 127 deep. `Json.parse?` keeps the members of an object as they stand in the text;
`Json.read?` gives the canonical form.
-/

namespace Blockflow.Json

/-- Whether a character may stand between the parts of a JSON text. -/
def isSpace (c : Char) : Bool := c == ' ' || c == '\n' || c == '\t' || c == '\r'

/-- The text after its leading spaces. -/
def skipSpace (cs : List Char) : List Char := cs.dropWhile isSpace

/-- The value of a decimal digit. -/
def digitValue (c : Char) : Nat := c.toNat - 48

/-- The number written by four hexadecimal digits, and what follows them. -/
def hex4? : List Char → Option (Nat × List Char)
  | a :: b :: c :: d :: rest => do
    let a ← Text.digit? 16 a
    let b ← Text.digit? 16 b
    let c ← Text.digit? 16 c
    let d ← Text.digit? 16 d
    return (((a * 16 + b) * 16 + c) * 16 + d, rest)
  | _ => none

/-- The character of a `\u` escape whose digits come next. Two escapes make one character beyond
the basic plane; half of such a pair alone is refused. -/
def unicodeEscape? (cs : List Char) : Option (Char × List Char) := do
  let (high, rest) ← hex4? cs
  if 0xD800 ≤ high && high ≤ 0xDBFF then
    match rest with
    | '\\' :: 'u' :: rest =>
      let (low, rest) ← hex4? rest
      if 0xDC00 ≤ low && low ≤ 0xDFFF then
        return (Char.ofNat (0x10000 + (high - 0xD800) * 1024 + (low - 0xDC00)), rest)
      else none
    | _ => none
  else if 0xDC00 ≤ high && high ≤ 0xDFFF then none
  else return (Char.ofNat high, rest)

/-- The character that an escape letter stands for. -/
def escaped? : Char → Option Char
  | '"' => some '"'
  | '\\' => some '\\'
  | '/' => some '/'
  | 'b' => some '\x08'
  | 'f' => some '\x0c'
  | 'n' => some '\n'
  | 'r' => some '\r'
  | 't' => some '\t'
  | _ => none

/-- The rest of a string after its opening quote, and what follows the closing one. The characters
read so far stand in reverse. -/
def stringRest? : Nat → List Char → List Char → Option (String × List Char)
  | 0, _, _ => none
  | _ + 1, _, [] => none
  | fuel + 1, done, c :: rest =>
    if c = '"' then some (String.ofList done.reverse, rest)
    else if c = '\\' then
      match rest with
      | 'u' :: rest =>
        match unicodeEscape? rest with
        | some (c, rest) => stringRest? fuel (c :: done) rest
        | none => none
      | e :: rest =>
        match escaped? e with
        | some c => stringRest? fuel (c :: done) rest
        | none => none
      | [] => none
    else if c.toNat < 0x20 then none
    else stringRest? fuel (c :: done) rest

/-- Digits added to a 64-bit significand until the next one does not fit: the significand, and how
many digits were left over. -/
def accumulate : Nat → List Char → Nat × Nat
  | significand, [] => (significand, 0)
  | significand, d :: ds =>
    let next := significand * 10 + digitValue d
    if next < Nat.pow 2 64 then accumulate next ds else (significand, ds.length + 1)

/-- A double from its parts. -/
def realOf? (negative : Bool) (significand : Nat) (exponent : Int) : Option Json.Number :=
  (Decimal.ofSignificand (UInt64.ofNat significand) exponent).map fun x ↦
    .real (if negative then -x else x)

/-- A number from an exponent mark on, given what stands before the mark. -/
def exponentPart? (negative : Bool) (significand : Nat) (exponent : Int) (cs : List Char) :
    Option (Json.Number × List Char) :=
  let (minus, cs) :=
    match cs with
    | '+' :: cs => (false, cs)
    | '-' :: cs => (true, cs)
    | cs => (false, cs)
  let digits := cs.takeWhile Char.isDigit
  let rest := cs.dropWhile Char.isDigit
  if digits.isEmpty then none
  else
    let shift := digits.foldl (fun n d ↦ n * 10 + digitValue d) 0
    if shift < Nat.pow 2 31 then
      let exponent := if minus then exponent - shift else exponent + shift
      (realOf? negative significand exponent).map (·, rest)
    else if significand ≠ 0 && !minus then none
    else some (.real (if negative then -0.0 else 0.0), rest)

/-- A number after its sign. -/
def afterSign? (negative : Bool) (cs : List Char) : Option (Json.Number × List Char) :=
  let whole := cs.takeWhile Char.isDigit
  let rest := cs.dropWhile Char.isDigit
  if whole.isEmpty || (whole.head? == some '0' && whole.length ≠ 1) then none
  else
    let (significand, dropped) := accumulate 0 whole
    match rest with
    | '.' :: rest =>
      let places := rest.takeWhile Char.isDigit
      let rest := rest.dropWhile Char.isDigit
      if places.isEmpty then none
      else
        let (significand, left) := accumulate significand places
        let exponent : Int := (dropped : Int) - ((places.length - left : Nat) : Int)
        match rest with
        | 'e' :: rest | 'E' :: rest => exponentPart? negative significand exponent rest
        | rest => (realOf? negative significand exponent).map (·, rest)
    | 'e' :: rest | 'E' :: rest => exponentPart? negative significand dropped rest
    | rest =>
      if dropped ≠ 0 then (realOf? negative significand dropped).map (·, rest)
      else if !negative then some (.int significand, rest)
      else if significand = 0 || significand > Nat.pow 2 63 then
        (realOf? true significand 0).map (·, rest)
      else some (.int (-(significand : Int)), rest)

/-- A number, and what follows it. -/
def number? : List Char → Option (Json.Number × List Char)
  | '-' :: cs => afterSign? true cs
  | cs => afterSign? false cs

mutual

/-- A value at most `depth - 1` containers deep, and what follows it. -/
def readValue? : Nat → Nat → List Char → Option (Json × List Char)
  | 0, _, _ => none
  | fuel + 1, depth, cs =>
    match skipSpace cs with
    | 'n' :: 'u' :: 'l' :: 'l' :: rest => some (.null, rest)
    | 't' :: 'r' :: 'u' :: 'e' :: rest => some (.bool true, rest)
    | 'f' :: 'a' :: 'l' :: 's' :: 'e' :: rest => some (.bool false, rest)
    | '"' :: rest => (stringRest? (rest.length + 1) [] rest).map fun (s, rest) ↦ (.str s, rest)
    | '[' :: rest =>
      if depth ≤ 1 then none
      else
        match skipSpace rest with
        | ']' :: rest => some (.arr [], rest)
        | rest => (readItems? fuel (depth - 1) rest).map fun (l, rest) ↦ (.arr l, rest)
    | '\x7b' :: rest =>
      if depth ≤ 1 then none
      else
        match skipSpace rest with
        | '\x7d' :: rest => some (.obj [], rest)
        | rest => (readMembers? fuel (depth - 1) rest).map fun (l, rest) ↦ (.obj l, rest)
    | cs => (number? cs).map fun (n, rest) ↦ (.num n, rest)

/-- The items of an array up to its end, at least one. -/
def readItems? : Nat → Nat → List Char → Option (List Json × List Char)
  | 0, _, _ => none
  | fuel + 1, depth, cs =>
    match readValue? fuel depth cs with
    | none => none
    | some (item, rest) =>
      match skipSpace rest with
      | ',' :: rest => (readItems? fuel depth rest).map fun (l, rest) ↦ (item :: l, rest)
      | ']' :: rest => some ([item], rest)
      | _ => none

/-- The members of an object up to its end, at least one. -/
def readMembers? : Nat → Nat → List Char → Option (List (String × Json) × List Char)
  | 0, _, _ => none
  | fuel + 1, depth, cs =>
    match skipSpace cs with
    | '"' :: rest =>
      match stringRest? (rest.length + 1) [] rest with
      | none => none
      | some (key, rest) =>
        match skipSpace rest with
        | ':' :: rest =>
          match readValue? fuel depth rest with
          | none => none
          | some (item, rest) =>
            match skipSpace rest with
            | ',' :: rest =>
              (readMembers? fuel depth rest).map fun (l, rest) ↦ ((key, item) :: l, rest)
            | '\x7d' :: rest => some ([(key, item)], rest)
            | _ => none
        | _ => none
    | _ => none

end

/-- The value that a text writes, with the members of objects as they stand in the text. -/
def parse? (s : String) : Option Json :=
  let cs := s.toList
  match readValue? (2 * cs.length + 2) 128 cs with
  | some (j, rest) => if (skipSpace rest).isEmpty then some j else none
  | none => none

/-- The value that a text writes, in canonical form. -/
def read? (s : String) : Option Json := (parse? s).map canonical

end Blockflow.Json
