import Blockflow.Text.Digits

/-!
# Fresh ids

Ids come from a counter. The one who uses the library says where the counter starts, and gets back
where it stands.

Functions `next_block_id`, `next_connection_id` and `short_uuid` of the component `graph` of
`workflow-engine`.
-/

namespace Blockflow.Ids

/-- The last so many hexadecimal digits of a number, with zeros in front. -/
def hex : Nat → Nat → List Char
  | 0, _ => []
  | width + 1, n => hex width (n / 16) ++ [Text.hexDigit (n % 16)]

/-- The id of a block from a number. -/
def block (n : Nat) : String := String.ofList ("block-".toList ++ hex 12 n)

/-- The id of a connection from a number. -/
def connection (n : Nat) : String := String.ofList ("conn-".toList ++ hex 12 n)

/-- Thirty-two digits in five groups. -/
def grouped (ds : List Char) : String :=
  String.ofList <| List.intercalate ['-']
    [ds.take 8, (ds.drop 8).take 4, (ds.drop 12).take 4, (ds.drop 16).take 4, ds.drop 20]

/-- The id of an execution from a number. -/
def execution (n : Nat) : String := grouped (hex 12 n ++ List.replicate 20 '0')

/-- The id of an execution from a number that was chosen at random. -/
def random (n : Nat) : String :=
  let ds := hex 32 n
  grouped (ds.take 12 ++ '4' :: (ds.drop 13).take 3 ++ '8' :: ds.drop 17)

/-- The id of the first number from the given one on that is not taken, and the number after it, if
one of so many attempts finds it. -/
def fresh? (idOf : Nat → String) (taken : List String) : Nat → Nat → Option (String × Nat)
  | 0, _ => none
  | attempts + 1, n =>
    if taken.contains (idOf n) then fresh? idOf taken attempts (n + 1) else some (idOf n, n + 1)

end Blockflow.Ids
