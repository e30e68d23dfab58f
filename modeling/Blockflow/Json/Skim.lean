import Blockflow.Json.Reader

/-!
# Reading a part of a JSON text

A reader that knows which members it is after does not have to understand the others. Those are
skipped: they have to follow the grammar, but their numbers may be of any size, their escapes may
stand for half a character, and they may nest to any depth.
-/

namespace Blockflow.Json

/-! ### Skipping -/

/-- What follows a string, after its opening quote. -/
def skipString? : List Char → Option (List Char)
  | [] => none
  | '"' :: rest => some rest
  | '\\' :: 'u' :: a :: b :: c :: d :: rest =>
    if [a, b, c, d].all fun c ↦ (Text.digit? 16 c).isSome then skipString? rest else none
  | '\\' :: e :: rest => if (escaped? e).isSome then skipString? rest else none
  | c :: rest => if c.toNat < 0x20 || c = '\\' then none else skipString? rest

/-- What follows digits, at least one. -/
def skipDigits? (cs : List Char) : Option (List Char) :=
  if cs.head?.any Char.isDigit then some (cs.dropWhile Char.isDigit) else none

/-- What follows the digits before the decimal point. -/
def skipWhole? : List Char → Option (List Char)
  | '0' :: rest => if rest.head?.any Char.isDigit then none else some rest
  | cs => skipDigits? cs

/-- What follows the decimal point and its digits, if they are there. -/
def skipPlaces? : List Char → Option (List Char)
  | '.' :: rest => skipDigits? rest
  | cs => some cs

/-- What follows an exponent, if it is there. -/
def skipExponent? : List Char → Option (List Char)
  | 'e' :: '+' :: rest | 'e' :: '-' :: rest | 'E' :: '+' :: rest | 'E' :: '-' :: rest =>
    skipDigits? rest
  | 'e' :: rest | 'E' :: rest => skipDigits? rest
  | cs => some cs

/-- What follows a number. -/
def skipNumber? (cs : List Char) : Option (List Char) := do
  let unsigned := match cs with
    | '-' :: rest => rest
    | cs => cs
  skipExponent? (← skipPlaces? (← skipWhole? unsigned))

mutual

/-- What follows a value. -/
def skipValue? : Nat → List Char → Option (List Char)
  | 0, _ => none
  | fuel + 1, cs =>
    match skipSpace cs with
    | 'n' :: 'u' :: 'l' :: 'l' :: rest => some rest
    | 't' :: 'r' :: 'u' :: 'e' :: rest => some rest
    | 'f' :: 'a' :: 'l' :: 's' :: 'e' :: rest => some rest
    | '"' :: rest => skipString? rest
    | '[' :: rest =>
      match skipSpace rest with
      | ']' :: rest => some rest
      | rest => skipItems? fuel rest
    | '\x7b' :: rest =>
      match skipSpace rest with
      | '\x7d' :: rest => some rest
      | rest => skipMembers? fuel rest
    | cs => skipNumber? cs

/-- What follows an array, from one of its items on. -/
def skipItems? : Nat → List Char → Option (List Char)
  | 0, _ => none
  | fuel + 1, cs =>
    match (skipValue? fuel cs).map skipSpace with
    | some (',' :: rest) => skipItems? fuel rest
    | some (']' :: rest) => some rest
    | _ => none

/-- What follows an object, from one of its members on. -/
def skipMembers? : Nat → List Char → Option (List Char)
  | 0, _ => none
  | fuel + 1, cs =>
    match skipSpace cs with
    | '"' :: rest =>
      match (skipString? rest).map skipSpace with
      | some (':' :: rest) =>
        match (skipValue? fuel rest).map skipSpace with
        | some (',' :: rest) => skipMembers? fuel rest
        | some ('\x7d' :: rest) => some rest
        | _ => none
      | _ => none
    | _ => none

end

/-! ### Reading what is of interest -/

/-- What a reader wants to know of a value. -/
inductive Interest where
  /-- All of it. -/
  | all
  /-- The fields of a record, in their order, and what to know of each of them. -/
  | record (fields : List (String × Interest))
  /-- The items of a list, and what to know of each of them. -/
  | list (items : Interest)

/-- A record of which all of the given fields are of interest. -/
def Interest.fields (keys : List String) : Interest := .record (keys.map (·, .all))

/-- What to know of the first of the items that stand for a value. -/
def Interest.first : Interest → Interest
  | .record ((_, i) :: _) => i
  | .list i => i
  | _ => .all

/-- What to know of the items after the first one. -/
def Interest.others : Interest → Interest
  | .record (_ :: fields) => .record fields
  | i => i

mutual

/-- What is of interest in a value, and what follows it. -/
def readPart? : Nat → Nat → Interest → List Char → Option (Json × List Char)
  | 0, _, _, _ => none
  | fuel + 1, depth, interest, cs =>
    match interest, skipSpace cs with
    | .record _, '[' :: rest | .list _, '[' :: rest =>
      if depth ≤ 1 then none
      else
        match skipSpace rest with
        | ']' :: rest => some (.arr [], rest)
        | rest => (readPlaced? fuel (depth - 1) interest rest).map fun (l, rest) ↦ (.arr l, rest)
    | .record fields, '\x7b' :: rest =>
      if depth ≤ 1 then none
      else
        match skipSpace rest with
        | '\x7d' :: rest => some (.obj [], rest)
        | rest => (readNamed? fuel (depth - 1) fields rest).map fun (l, rest) ↦ (.obj l, rest)
    | _, cs => readValue? (fuel + 1) depth cs

/-- What is of interest in the items of an array up to its end, at least one. -/
def readPlaced? : Nat → Nat → Interest → List Char → Option (List Json × List Char)
  | 0, _, _, _ => none
  | fuel + 1, depth, interest, cs =>
    match readPart? fuel depth interest.first cs with
    | none => none
    | some (item, rest) =>
      match skipSpace rest with
      | ',' :: rest =>
        (readPlaced? fuel depth interest.others rest).map fun (l, rest) ↦ (item :: l, rest)
      | ']' :: rest => some ([item], rest)
      | _ => none

/-- The members of an object that are of interest, up to its end. -/
def readNamed? : Nat → Nat → List (String × Interest) → List Char →
    Option (List (String × Json) × List Char)
  | 0, _, _, _ => none
  | fuel + 1, depth, fields, cs =>
    match skipSpace cs with
    | '"' :: rest =>
      match stringRest? (rest.length + 1) [] rest with
      | none => none
      | some (key, rest) =>
        match skipSpace rest with
        | ':' :: rest =>
          let member : Option (List (String × Json) × List Char) :=
            match fields.lookup key with
            | some interest =>
              (readPart? fuel depth interest rest).map fun (j, rest) ↦ ([(key, j)], rest)
            | none => (skipValue? fuel rest).map ([], ·)
          match member with
          | none => none
          | some (l, rest) =>
            match skipSpace rest with
            | ',' :: rest =>
              (readNamed? fuel depth fields rest).map fun (more, rest) ↦ (l ++ more, rest)
            | '\x7d' :: rest => some (l, rest)
            | _ => none
        | _ => none
    | _ => none

end

/-- What is of interest in the value that a text writes. -/
def parsePart? (interest : Interest) (s : String) : Option Json :=
  let cs := s.toList
  match readPart? (3 * cs.length + 3) 128 interest cs with
  | some (j, rest) => if (skipSpace rest).isEmpty then some j else none
  | none => none

end Blockflow.Json
