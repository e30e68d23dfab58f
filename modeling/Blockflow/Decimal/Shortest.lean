import Blockflow.Decimal.Binary

/-!
# The fewest digits that read back

A decimal number reads back as a double if it lies in the interval of reals that round to it. The
shortest decimal is looked for with one, two, … digits: if a point of a decimal grid lies in the
interval, then so does one of the two neighbours of the value on that grid.
-/

namespace Blockflow.Decimal

/-- A decimal number `digits * 10 ^ exponent`. -/
structure Scientific where
  /-- The digits, read as one integer. -/
  digits : Nat
  /-- The power of ten. -/
  exponent : Int
deriving DecidableEq, Repr

/-- How to choose between two equally near decimals. -/
inductive Tie where
  /-- The one with the even last digit. -/
  | toEven
  /-- The greater one. -/
  | up
deriving DecidableEq, Repr

/-- A quotient times a power of ten: numerator over denominator after scaling by `10 ^ (-p)`. -/
private def onGrid (num den : Nat) (p : Int) : Nat × Nat :=
  if p ≥ 0 then (num, den * Nat.pow 10 p.natAbs) else (num * Nat.pow 10 p.natAbs, den)

/-- The number of digits before the point of `num / den`; zero or less for a number below one. -/
private def magnitude (num den : Nat) : Int :=
  if num ≥ den then digitCount (num / den)
  else
    -- the count of zeros after the point, from a quotient with enough places
    let places := digitCount den
    (digitCount (num * Nat.pow 10 places / den) : Int) - places

/-- The neighbour of `num / den` on the grid of step `10 ^ p` that lies between `low` and `high`
over the same denominator, the ends included if `closed`. -/
private def candidate? (tie : Tie) (low num high den : Nat) (closed : Bool) (p : Int) :
    Option Nat :=
  let (n, d) := onGrid num den p
  let (lo, _) := onGrid low den p
  let (hi, _) := onGrid high den p
  let below := n / d
  let above := below + 1
  let inside (k : Nat) : Bool :=
    if closed then lo ≤ k * d && k * d ≤ hi else lo < k * d && k * d < hi
  let downOk := inside below && below ≠ 0
  let upOk := inside above
  if downOk && upOk then
    let distanceBelow := n - below * d
    let distanceAbove := above * d - n
    if distanceBelow < distanceAbove then some below
    else if distanceAbove < distanceBelow then some above
    else
      match tie with
      | .up => some above
      | .toEven => if below % 2 = 0 then some below else some above
  else if downOk then some below
  else if upOk then some above
  else none

private def search (tie : Tie) (low num high den : Nat) (closed : Bool) (top : Int) :
    Nat → Nat → Scientific
  | 0, _ => ⟨0, 0⟩
  | left + 1, count =>
    let p := top - (count : Int)
    match candidate? tie low num high den closed p with
    | some k => ⟨k, p⟩
    | none => search tie low num high den closed top left (count + 1)

/-- Strips the zeros at the end of the digits. -/
private def strip : Nat → Scientific → Scientific
  | 0, s => s
  | fuel + 1, s =>
    if s.digits ≠ 0 && s.digits % 10 = 0 then strip fuel ⟨s.digits / 10, s.exponent + 1⟩ else s

/-- The shortest decimal that reads back as the given positive double, and of the shortest ones
the nearest. Zero gives zero digits. -/
def shortest (tie : Tie) (b : Binary) : Scientific :=
  if b.mantissa = 0 then ⟨0, 0⟩
  else
    -- all three numbers in quarters of the last place
    let value := 4 * b.mantissa
    let high := value + 2
    let low := if b.narrowBelow then value - 1 else value - 2
    let q := b.exponent - 2
    let factor := if q ≥ 0 then Nat.pow 2 q.natAbs else 1
    let den := if q ≥ 0 then 1 else Nat.pow 2 q.natAbs
    let top := magnitude (value * factor) den
    strip 20 (search tie (low * factor) (value * factor) (high * factor) den
      (b.mantissa % 2 = 0) top 20 1)

end Blockflow.Decimal
