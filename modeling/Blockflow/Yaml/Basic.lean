import Blockflow.Json.Basic

/-!
# YAML values

What a YAML document stands for: a null, a truth value, a number, a text, a list, a mapping, or a
value with a tag of its own. Mappings keep the order of their entries and may have any keys.
-/

namespace Blockflow

/-- A YAML value. -/
inductive Yaml where
  /-- No value. -/
  | null
  /-- A truth value. -/
  | bool (b : Bool)
  /-- An integer. -/
  | int (n : Int)
  /-- Any other number, the infinities and the indefinite number included. -/
  | real (x : Float)
  /-- A text. -/
  | str (s : String)
  /-- A list. -/
  | seq (items : List Yaml)
  /-- A mapping, as the list of its entries. -/
  | map (entries : List (Yaml × Yaml))
  /-- A value with a local tag; the name is without its exclamation mark. -/
  | tagged (tag : String) (value : Yaml)
deriving Inhabited

namespace Yaml

mutual

/-- Whether two values are the same as keys of a mapping. Integers differ from other numbers, and
the order of a mapping's entries does not count. -/
def sameKey : (a b : Yaml) → Bool
  | .null, .null => true
  | .bool a, .bool b => a == b
  | .int a, .int b => a == b
  | .real a, .real b => a == b || (a.isNaN && b.isNaN)
  | .str a, .str b => a == b
  | .seq a, .seq b => sameItems a b
  | .map a, .map b => a.length == b.length && coveredBy a b
  | .tagged s a, .tagged t b => s == t && sameKey a b
  | _, _ => false

/-- Whether two lists have the same items at the same places. -/
def sameItems : (a b : List Yaml) → Bool
  | [], [] => true
  | a :: as, b :: bs => sameKey a b && sameItems as bs
  | _, _ => false

/-- Whether every entry of the first list is in the second. -/
def coveredBy : (a b : List (Yaml × Yaml)) → Bool
  | [], _ => true
  | (k, v) :: rest, b => b.any (fun e ↦ sameKey k e.1 && sameKey v e.2) && coveredBy rest b

end

/-- The value under a key. -/
def lookup (key : Yaml) (entries : List (Yaml × Yaml)) : Option Yaml :=
  (entries.find? fun e ↦ sameKey key e.1).map (·.2)

/-- The entries, if it is a mapping. -/
def entries? : Yaml → Option (List (Yaml × Yaml))
  | .map entries => some entries
  | _ => none

/-- Whether it is a mapping, with or without a tag. -/
def isMapping : Yaml → Bool
  | .map _ => true
  | .tagged _ v => isMapping v
  | _ => false

mutual

/-- The YAML value that a JSON value stands for. -/
def ofJson : Json → Yaml
  | .null => .null
  | .bool b => .bool b
  | .num (.int n) => .int n
  | .num (.real x) => .real x
  | .str s => .str s
  | .arr items => .seq (ofJsonItems items)
  | .obj members => .map (ofJsonMembers members)

/-- The YAML values of JSON items. -/
def ofJsonItems : List Json → List Yaml
  | [] => []
  | item :: rest => ofJson item :: ofJsonItems rest

/-- The entries that JSON members stand for. -/
def ofJsonMembers : List (String × Json) → List (Yaml × Yaml)
  | [] => []
  | (key, value) :: rest => (.str key, ofJson value) :: ofJsonMembers rest

end

end Yaml

end Blockflow
