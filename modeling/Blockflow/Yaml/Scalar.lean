import Blockflow.Decimal.Binary
import Blockflow.Text.Digits
import Blockflow.Yaml.Basic

/-!
# Plain scalars

What a scalar without quotes stands for: nothing, a truth value, a number, or else its text. A
row of digits that starts with a zero is a text.
-/

namespace Blockflow.Yaml

/-- Whether a text says that there is no value. -/
def isNullWord (s : String) : Bool := s == "null" || s == "Null" || s == "NULL" || s == "~"

/-- The truth value that a text writes. -/
def truth? (s : String) : Option Bool :=
  if s == "true" || s == "True" || s == "TRUE" then some true
  else if s == "false" || s == "False" || s == "FALSE" then some false
  else none

/-- Whether a text is a row of at least two digits that starts with a zero, after a sign or
without. -/
def isZeroLed (cs : List Char) : Bool :=
  let ds :=
    match cs with
    | '-' :: ds => ds
    | '+' :: ds => ds
    | ds => ds
  ds.length > 1 && ds.head? == some '0' && ds.all Char.isDigit

/-- The size of the number that digits write, after the sign of their base if they have one. -/
def magnitude? (cs : List Char) : Option Nat :=
  match cs with
  | '0' :: 'x' :: ds => Text.natural? 16 ds
  | '0' :: 'o' :: ds => Text.natural? 8 ds
  | '0' :: 'b' :: ds => Text.natural? 2 ds
  | ds => Text.natural? 10 ds

/-- The integer that a text writes. -/
def integer? (cs : List Char) : Option Int :=
  if isZeroLed cs then none
  else
    match cs with
    | '+' :: ds => (magnitude? ds).map fun n ↦ (n : Int)
    | '-' :: ds => (magnitude? ds).map fun n ↦ -(n : Int)
    | ds => (magnitude? ds).map fun n ↦ (n : Int)

/-- Whether an integer can be kept: it has at most 64 bits. -/
def isKept (n : Int) : Bool := -(Nat.pow 2 63 : Int) ≤ n && n < Nat.pow 2 64

/-- Whether an integer that cannot be kept is refused: it has at most 128 bits. Greater ones are
read as other numbers. -/
def isRefused (n : Int) : Bool := !isKept n && -(Nat.pow 2 127 : Int) ≤ n && n < Nat.pow 2 128

/-- The finite number that a text writes with digits, a point and an exponent. -/
def decimal? (cs : List Char) : Option Float :=
  let (negative, cs) :=
    match cs with
    | '-' :: cs => (true, cs)
    | '+' :: cs => (false, cs)
    | cs => (false, cs)
  let whole := cs.takeWhile Char.isDigit
  let rest := cs.dropWhile Char.isDigit
  let (places, rest) :=
    match rest with
    | '.' :: rest => (rest.takeWhile Char.isDigit, rest.dropWhile Char.isDigit)
    | rest => ([], rest)
  let exponent? : Option Int :=
    match rest with
    | [] => some 0
    | e :: rest =>
      if e == 'e' || e == 'E' then
        match rest with
        | '-' :: ds => (Text.natural? 10 ds).map fun n ↦ -(n : Int)
        | '+' :: ds => (Text.natural? 10 ds).map fun n ↦ (n : Int)
        | ds => (Text.natural? 10 ds).map fun n ↦ (n : Int)
      else none
  if whole.isEmpty && places.isEmpty then none
  else
    match exponent?, Text.natural? 10 (whole ++ places) with
    | some exponent, some digits =>
      let x := Decimal.nearest digits (exponent - places.length)
      if x.isFinite then some (if negative then -x else x) else none
    | _, _ => none

/-- The number that a text writes, the infinities and the indefinite number included. -/
def number? (s : String) : Option Float :=
  let cs := s.toList
  let unsigned :=
    match cs with
    | '+' :: rest => rest
    | rest => rest
  let text := String.ofList unsigned
  if cs.head? == some '+' && (unsigned.head? == some '+' || unsigned.head? == some '-') then none
  else if text == ".inf" || text == ".Inf" || text == ".INF" then some (1.0 / 0.0)
  else if s == "-.inf" || s == "-.Inf" || s == "-.INF" then some (-1.0 / 0.0)
  else if s == ".nan" || s == ".NaN" || s == ".NAN" then some (0.0 / 0.0)
  else decimal? unsigned

/-- What a plain scalar stands for. Nothing is read of an integer that is refused. -/
def ofPlain? (s : String) : Option Yaml :=
  if s.isEmpty || isNullWord s then some .null
  else
    match truth? s with
    | some b => some (.bool b)
    | none =>
      let whole := (integer? s.toList).filter fun n ↦ isKept n || isRefused n
      match whole with
      | some n => if isKept n then some (.int n) else none
      | none =>
        if isZeroLed s.toList then some (.str s)
        else
          match number? s with
          | some x => some (.real x)
          | none => some (.str s)

/-- What a scalar with one of the tags of the core schema stands for, if there is one. -/
def ofCoreTag? (tag text : String) : Option (Option Yaml) :=
  match tag with
  | "tag:yaml.org,2002:bool" => some ((truth? text).map .bool)
  | "tag:yaml.org,2002:int" =>
    some ((integer? text.toList).bind fun n ↦ if isKept n then some (.int n) else none)
  | "tag:yaml.org,2002:float" => some ((number? text).map .real)
  | "tag:yaml.org,2002:null" => some (if isNullWord text then some .null else none)
  | _ => none

/-- Whether a plain scalar stands for its own text. -/
def isOwnText (s : String) : Bool :=
  match ofPlain? s with
  | some (.str _) => !isZeroLed s.toList
  | _ => false

end Blockflow.Yaml
