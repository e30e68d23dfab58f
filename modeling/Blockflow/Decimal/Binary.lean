/-!
# Binary floating-point numbers as exact quotients

A finite double is an integer times a power of two. This module splits a double into these two
parts, and reads a decimal number into a double in the two ways the program needs: rounded to the
nearest double, and by scaling a 64-bit integer with one power of ten.
-/

namespace Blockflow.Decimal

/-- A finite double in exact form: its value is the sign times `mantissa * 2 ^ exponent`. -/
structure Binary where
  /-- Whether the sign is minus. -/
  negative : Bool
  /-- The integer part of the product. -/
  mantissa : Nat
  /-- The power of two. -/
  exponent : Int
  /-- Whether the next smaller double is only half a unit away. -/
  narrowBelow : Bool
deriving DecidableEq, Repr

/-- The exact form of a double, read off its bits; an infinity reads as the next power of two. -/
def Binary.ofFloat (x : Float) : Binary :=
  let bits := x.toBits.toNat
  let fraction := bits % Nat.pow 2 52
  let biased : Nat := bits / Nat.pow 2 52 % Nat.pow 2 11
  if biased = 0 then ⟨bits / Nat.pow 2 63 = 1, fraction, -1074, false⟩
  else
    ⟨bits / Nat.pow 2 63 = 1, Nat.pow 2 52 + fraction, (biased : Int) - 1075,
      fraction = 0 && biased ≠ 1⟩

/-- The number of decimal digits of a natural number; zero has none. -/
def digitCount (n : Nat) : Nat := if n = 0 then 0 else (Nat.toDigits 10 n).length

/-- The double nearest to `mantissa * 10 ^ exponent`. Numbers beyond the range of doubles are
infinite or zero before any power is computed. -/
def nearest (mantissa : Nat) (exponent : Int) : Float :=
  if mantissa = 0 then 0
  else if (digitCount mantissa : Int) + exponent > 310 then 1 / 0
  else if (digitCount mantissa : Int) + exponent < -330 then 0
  else if exponent < 0 then Float.ofScientific mantissa true exponent.natAbs
  else Float.ofScientific mantissa false exponent.natAbs

/-- The double for a power of ten that a table of them holds, `10 ^ 0` to `10 ^ 308`. -/
def powerOfTen (n : Nat) : Float := Float.ofScientific 1 false n

/-- A 64-bit integer, rounded to a double, times or over one power of ten; further powers of
`10 ^ 308` are divided off first. `none` stands for a number too great for a double. At most
`steps` divisions are made. -/
def scaled (steps : Nat) (x : Float) (exponent : Int) : Option Float :=
  if exponent.natAbs ≤ 308 then
    if exponent ≥ 0 then
      let y := x * powerOfTen exponent.natAbs
      if y.isInf then none else some y
    else some (x / powerOfTen exponent.natAbs)
  else if x == 0 then some x
  else if exponent ≥ 0 then none
  else
    match steps with
    | 0 => some 0
    | steps + 1 => scaled steps (x / powerOfTen 308) (exponent + 308)

/-- The double read from a 64-bit significand and a decimal exponent. Three divisions by
`10 ^ 308` bring every significand to zero. -/
def ofSignificand (significand : UInt64) (exponent : Int) : Option Float :=
  scaled 4 significand.toFloat exponent

end Blockflow.Decimal
