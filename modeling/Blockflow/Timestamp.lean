import Blockflow.Json.Basic
import Blockflow.Text.Blank

/-!
# Points in time

A point in time is a day, a second of that day and a fraction of the second, all in UTC. A leap
second counts as a fraction of one second or more. The written form is that of RFC 3339.
-/

namespace Blockflow

/-- A point in time, in UTC. -/
structure Timestamp where
  /-- Days since the first of January 1970. -/
  day : Int
  /-- The second of the day. -/
  second : Nat
  /-- Nanoseconds into the second; a billion or more within a leap second. -/
  nano : Nat
deriving DecidableEq, Inhabited

namespace Timestamp

/-- The number of a day of the proleptic Gregorian calendar. -/
def dayNumber (year : Int) (month day : Nat) : Int :=
  -- years start in March, so that the leap day is the last one
  let y := if month ≤ 2 then year - 1 else year
  let era := y.fdiv 400
  let yearOfEra := y.fmod 400
  let monthFromMarch : Int := (month + 9) % 12
  let dayOfYear := (153 * monthFromMarch + 2) / 5 + day - 1
  let dayOfEra := yearOfEra * 365 + yearOfEra / 4 - yearOfEra / 100 + dayOfYear
  era * 146097 + dayOfEra - 719468

/-- Year, month and day of a day number. -/
def civil (number : Int) : Int × Nat × Nat :=
  let z := number + 719468
  let era := z.fdiv 146097
  let dayOfEra := z.fmod 146097
  let yearOfEra := (dayOfEra - dayOfEra / 1460 + dayOfEra / 36524 - dayOfEra / 146096) / 365
  let dayOfYear := dayOfEra - (365 * yearOfEra + yearOfEra / 4 - yearOfEra / 100)
  let monthFromMarch := (5 * dayOfYear + 2) / 153
  let day := dayOfYear - (153 * monthFromMarch + 2) / 5 + 1
  let month := if monthFromMarch < 10 then monthFromMarch + 3 else monthFromMarch - 9
  let year := yearOfEra + era * 400 + (if month ≤ 2 then 1 else 0)
  (year, month.toNat, day.toNat)

/-- Whether a year has a leap day. -/
def isLeap (year : Int) : Bool :=
  year.fmod 4 == 0 && (year.fmod 100 ≠ 0 || year.fmod 400 == 0)

/-- The number of days of a month. -/
def daysIn (year : Int) (month : Nat) : Nat :=
  if month = 2 then (if isLeap year then 29 else 28)
  else if month = 4 || month = 6 || month = 9 || month = 11 then 30
  else 31

/-- So many nanoseconds after the beginning of the first of January 1970. -/
def ofNanoseconds (n : Nat) : Timestamp :=
  let seconds : Nat := n / Nat.pow 10 9
  ⟨(seconds / 86400 : Nat), seconds % 86400, n % Nat.pow 10 9⟩

/-- The years that have a calendar. -/
def firstYear : Int := -262143

/-- The last year that has a calendar. -/
def lastYear : Int := 262142

/-- Whether the first point is the earlier one. -/
def isBefore (a b : Timestamp) : Bool :=
  a.day < b.day || (a.day == b.day &&
    (a.second < b.second || (a.second == b.second && a.nano < b.nano)))

/-- The earlier of two points in time. -/
def min (a b : Timestamp) : Timestamp := if b.isBefore a then b else a

/-- The later of two points in time. -/
def max (a b : Timestamp) : Timestamp := if b.isBefore a then a else b

/-- The earliest point of a list. -/
def earliest? : List Timestamp → Option Timestamp
  | [] => none
  | t :: ts => some (ts.foldl min t)

/-- The latest point of a list. -/
def latest? : List Timestamp → Option Timestamp
  | [] => none
  | t :: ts => some (ts.foldl max t)

/-! ### Written form -/

/-- The digits of a number, with zeros in front up to a width. -/
def padded (width n : Nat) : List Char :=
  let ds := Nat.toDigits 10 n
  List.replicate (width - ds.length) '0' ++ ds

/-- A year: four digits, or a sign and at least four where that does not do. -/
def yearText (year : Int) : List Char :=
  if 0 ≤ year && year ≤ 9999 then padded 4 year.natAbs
  else (if year < 0 then '-' else '+') :: padded 4 year.natAbs

/-- The fraction of a second in as few groups of three digits as needed. -/
def fractionText (nano : Nat) : List Char :=
  if nano = 0 then []
  else if nano % 1000000 = 0 then '.' :: padded 3 (nano / 1000000)
  else if nano % 1000 = 0 then '.' :: padded 6 (nano / 1000)
  else '.' :: padded 9 nano

/-- The written form, such as `2024-01-01T00:00:00Z`. -/
def text (t : Timestamp) : String :=
  let (year, month, day) := civil t.day
  let leap := t.nano ≥ 1000000000
  let second := t.second % 60 + (if leap then 1 else 0)
  let nano := if leap then t.nano - 1000000000 else t.nano
  String.ofList <|
    yearText year ++ '-' :: padded 2 month ++ '-' :: padded 2 day ++ 'T' ::
      padded 2 (t.second / 3600) ++ ':' :: padded 2 (t.second / 60 % 60) ++ ':' ::
      padded 2 second ++ fractionText nano ++ ['Z']

/-! ### Reading -/

/-- A number of at most `width` digits after blanks, and what follows. -/
private def number? (width : Nat) (cs : List Char) : Option (Nat × List Char) :=
  let cs := Text.trimLeft cs
  let digits := (cs.takeWhile Char.isDigit).take width
  if digits.isEmpty then none
  else some (digits.foldl (fun n d ↦ n * 10 + (d.toNat - 48)) 0, cs.drop digits.length)

/-- A year after blanks: up to four digits, or a sign and any number of them. -/
private def year? (cs : List Char) : Option (Int × List Char) :=
  match Text.trimLeft cs with
  | '-' :: rest =>
    if rest.head?.any Char.isDigit then
      (number? rest.length rest).map fun (n, rest) ↦ (-(n : Int), rest)
    else none
  | '+' :: rest =>
    if rest.head?.any Char.isDigit then
      (number? rest.length rest).map fun (n, rest) ↦ ((n : Int), rest)
    else none
  | cs => (number? 4 cs).map fun (n, rest) ↦ ((n : Int), rest)

/-- The given character after blanks. -/
private def mark? (c : Char) (cs : List Char) : Option (List Char) :=
  match Text.trimLeft cs with
  | d :: rest => if d = c then some rest else none
  | [] => none

/-- The fraction of a second: nine digits count, and any further ones are skipped. -/
private def fraction? : List Char → Option (Nat × List Char)
  | '.' :: rest =>
    let digits := rest.takeWhile Char.isDigit
    if digits.isEmpty then none
    else
      let nine := (digits ++ List.replicate 9 '0').take 9
      some (nine.foldl (fun n d ↦ n * 10 + (d.toNat - 48)) 0, rest.dropWhile Char.isDigit)
  | cs => some (0, cs)

/-- Whether a character may stand between the hours and the minutes of an offset. -/
private def isOffsetSpace (c : Char) : Bool := c == ':' || Text.isBlank c

/-- The offset from UTC in seconds, and what follows it. -/
private def offset? (cs : List Char) : Option (Int × List Char) :=
  match cs with
  | 'Z' :: rest | 'z' :: rest => some (0, rest)
  | a :: b :: c :: rest =>
    if a.toUpper = 'U' && b.toUpper = 'T' && c.toUpper = 'C' then some (0, rest)
    else
      let sign? : Option Int :=
        if a = '+' then some 1 else if a = '-' || a.toNat = 0x2212 then some (-1) else none
      match sign? with
      | none => none
      | some sign =>
        if b.isDigit && c.isDigit then
          let hours := (b.toNat - 48) * 10 + (c.toNat - 48)
          match rest.dropWhile isOffsetSpace with
          | m :: n :: rest =>
            if '0' ≤ m && m ≤ '5' && n.isDigit then
              let minutes := (m.toNat - 48) * 10 + (n.toNat - 48)
              if hours < 24 then some (sign * ((hours * 3600 + minutes * 60 : Nat) : Int), rest)
              else none
            else none
          | _ => none
        else none
  | _ => none

/-- The point in time of a civil date, a second of that day and an offset from UTC. -/
def ofCivil? (year : Int) (month day second nano : Nat) (offset : Int) : Option Timestamp :=
  if firstYear ≤ year && year ≤ lastYear && 1 ≤ month && month ≤ 12 && 1 ≤ day
      && day ≤ daysIn year month then
    let total := dayNumber year month day * 86400 + second - offset
    let number := total.fdiv 86400
    let (year, _, _) := civil number
    if firstYear ≤ year && year ≤ lastYear then some ⟨number, (total.fmod 86400).toNat, nano⟩
    else none
  else none

/-- Reads a point in time. Beyond RFC 3339 it takes blanks before numbers, marks and the zone, a
blank or a small letter for `T`, fewer digits than usual, and `UTC` for the zone. -/
def parse? (s : String) : Option Timestamp := do
  let (year, cs) ← year? s.toList
  let cs ← mark? '-' cs
  let (month, cs) ← number? 2 cs
  let cs ← mark? '-' cs
  let (day, cs) ← number? 2 cs
  let cs ←
    match cs with
    | 'T' :: cs | 't' :: cs | ' ' :: cs => some cs
    | _ => none
  let (hour, cs) ← number? 2 cs
  let cs ← mark? ':' cs
  let (minute, cs) ← number? 2 cs
  let cs ← mark? ':' cs
  let (second, cs) ← number? 2 cs
  let (nano, cs) ← fraction? cs
  let (offset, cs) ← offset? (Text.trimLeft cs)
  if hour < 24 && minute < 60 && second ≤ 60 && cs.all Text.isBlank then
    let (second, nano) := if second = 60 then (59, nano + 1000000000) else (second, nano)
    ofCivil? year month day (hour * 3600 + minute * 60 + second) nano offset
  else none

/-- Reads a point in time. -/
def ofJson? (j : Json) : Option Timestamp := j.text?.bind parse?

/-- The written form of a point in time. -/
def toJson (t : Timestamp) : Json := .str t.text

end Timestamp

end Blockflow
