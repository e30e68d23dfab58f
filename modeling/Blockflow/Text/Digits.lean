/-!
# Digits

The numbers that digits write, in bases up to sixteen, and the digits of base sixteen.
-/

namespace Blockflow.Text

/-- The value of a digit in a base of at most sixteen. -/
def digit? (base : Nat) (c : Char) : Option Nat :=
  let value : Option Nat :=
    if c.isDigit then some (c.toNat - 48)
    else if 'a' ≤ c && c ≤ 'f' then some (c.toNat - 87)
    else if 'A' ≤ c && c ≤ 'F' then some (c.toNat - 55)
    else none
  value.filter (· < base)

/-- The number that digits of a base write; no digits write zero. -/
def digitsValue? (base : Nat) (cs : List Char) : Option Nat :=
  cs.foldlM (fun n c ↦ (digit? base c).map (n * base + ·)) 0

/-- The number that digits of a base write, at least one. -/
def natural? (base : Nat) (cs : List Char) : Option Nat :=
  if cs.isEmpty then none else digitsValue? base cs

/-- The hexadecimal digit of a number below sixteen, with a small letter. -/
def hexDigit (n : Nat) : Char := Char.ofNat (if n < 10 then 48 + n else 87 + n)

/-- The hexadecimal digit of a number below sixteen, with a capital letter. -/
def capitalHexDigit (n : Nat) : Char := (hexDigit n).toUpper

/-- A character as its bytes, each as two digits after a percent sign. -/
def percentEncoded (c : Char) : List Char :=
  c.toString.toUTF8.data.toList.flatMap fun b ↦
    ['%', capitalHexDigit (b.toNat / 16), capitalHexDigit (b.toNat % 16)]

example : natural? 16 ['f', 'F', '0'] = some 4080 := by decide

end Blockflow.Text
