import Blockflow.Dict

/-!
# JSON values

JSON values keep integers and doubles apart: `1` and `1.0` are different numbers. An object is the
list of its members, so it can say in which order they are written; its canonical form has them in
ascending order of their keys.
-/

namespace Blockflow

/-- A JSON number: an integer, or a double. -/
inductive Json.Number where
  /-- A number written without point and exponent. -/
  | int (n : Int)
  /-- Any other number. -/
  | real (x : Float)
deriving DecidableEq, Inhabited

/-- A JSON value. -/
inductive Json where
  /-- `null`. -/
  | null
  /-- A truth value. -/
  | bool (b : Bool)
  /-- A number. -/
  | num (n : Json.Number)
  /-- A string. -/
  | str (s : String)
  /-- An array. -/
  | arr (items : List Json)
  /-- An object, as the list of its members. -/
  | obj (members : List (String × Json))
deriving Inhabited

namespace Json

mutual

/-- Whether two JSON values are equal. -/
def decEq : (a b : Json) → Decidable (a = b)
  | .null, .null => isTrue rfl
  | .bool a, .bool b =>
    if h : a = b then isTrue (h ▸ rfl) else isFalse (fun e ↦ h (Json.bool.inj e))
  | .num a, .num b =>
    if h : a = b then isTrue (h ▸ rfl) else isFalse (fun e ↦ h (Json.num.inj e))
  | .str a, .str b =>
    if h : a = b then isTrue (h ▸ rfl) else isFalse (fun e ↦ h (Json.str.inj e))
  | .arr a, .arr b =>
    match decEqItems a b with
    | isTrue h => isTrue (h ▸ rfl)
    | isFalse h => isFalse (fun e ↦ h (Json.arr.inj e))
  | .obj a, .obj b =>
    match decEqMembers a b with
    | isTrue h => isTrue (h ▸ rfl)
    | isFalse h => isFalse (fun e ↦ h (Json.obj.inj e))
  | .null, .bool _ | .null, .num _ | .null, .str _ | .null, .arr _ | .null, .obj _
  | .bool _, .null | .bool _, .num _ | .bool _, .str _ | .bool _, .arr _ | .bool _, .obj _
  | .num _, .null | .num _, .bool _ | .num _, .str _ | .num _, .arr _ | .num _, .obj _
  | .str _, .null | .str _, .bool _ | .str _, .num _ | .str _, .arr _ | .str _, .obj _
  | .arr _, .null | .arr _, .bool _ | .arr _, .num _ | .arr _, .str _ | .arr _, .obj _
  | .obj _, .null | .obj _, .bool _ | .obj _, .num _ | .obj _, .str _ | .obj _, .arr _ =>
    isFalse (fun e ↦ nomatch e)

/-- Whether two lists of JSON values are equal. -/
def decEqItems : (a b : List Json) → Decidable (a = b)
  | [], [] => isTrue rfl
  | a :: as, b :: bs =>
    match decEq a b, decEqItems as bs with
    | isTrue h, isTrue t => isTrue (h ▸ t ▸ rfl)
    | isFalse h, _ => isFalse (fun e ↦ h (List.cons.inj e).1)
    | _, isFalse t => isFalse (fun e ↦ t (List.cons.inj e).2)
  | [], _ :: _ | _ :: _, [] => isFalse (fun e ↦ nomatch e)

/-- Whether two lists of members are equal. -/
def decEqMembers : (a b : List (String × Json)) → Decidable (a = b)
  | [], [] => isTrue rfl
  | (k, a) :: as, (l, b) :: bs =>
    if hk : k = l then
      match decEq a b, decEqMembers as bs with
      | isTrue h, isTrue t => isTrue (hk ▸ h ▸ t ▸ rfl)
      | isFalse h, _ => isFalse (fun e ↦ h (Prod.mk.inj (List.cons.inj e).1).2)
      | _, isFalse t => isFalse (fun e ↦ t (List.cons.inj e).2)
    else isFalse (fun e ↦ hk (Prod.mk.inj (List.cons.inj e).1).1)
  | [], _ :: _ | _ :: _, [] => isFalse (fun e ↦ nomatch e)

end

instance : DecidableEq Json := decEq

mutual

/-- The value with the members of every object in ascending order of their keys; of two members
with one key the later one stays. -/
def canonical : Json → Json
  | .arr items => .arr (canonicalItems items)
  | .obj members => .obj (Dict.ofList (canonicalMembers members)).entries
  | .null => .null
  | .bool b => .bool b
  | .num n => .num n
  | .str s => .str s

/-- Every item of a list in canonical form. -/
def canonicalItems : List Json → List Json
  | [] => []
  | item :: rest => canonical item :: canonicalItems rest

/-- Every member of a list with its value in canonical form. -/
def canonicalMembers : List (String × Json) → List (String × Json)
  | [] => []
  | (key, value) :: rest => (key, canonical value) :: canonicalMembers rest

end

/-- A whole number. -/
def ofInt (n : Int) : Json := .num (.int n)

/-- A natural number. -/
def ofNat (n : Nat) : Json := .num (.int n)

/-- A double; `null` stands for the ones that JSON cannot write. -/
def ofFloat (x : Float) : Json := if x.isFinite then .num (.real x) else .null

/-- A value, or `null` if there is none. -/
def ofOption {α : Type} (toJson : α → Json) : Option α → Json
  | none => .null
  | some a => toJson a

/-- A list of values as an array. -/
def ofList {α : Type} (toJson : α → Json) (l : List α) : Json := .arr (l.map toJson)

/-- A map as an object. -/
def ofDict {α : Type} (toJson : α → Json) (d : Dict α) : Json :=
  .obj (d.entries.map fun e ↦ (e.1, toJson e.2))

/-- A member that is left out if there is no value. -/
def optional {α : Type} (key : String) (toJson : α → Json) : Option α → List (String × Json)
  | none => []
  | some a => [(key, toJson a)]

/-- The value of an object's member. -/
def member? (j : Json) (key : String) : Option Json :=
  match j with
  | .obj members => members.lookup key
  | _ => none

/-- The truth value, if it is one. -/
def bool? : Json → Option Bool
  | .bool b => some b
  | _ => none

/-- The text, if it is one. -/
def text? : Json → Option String
  | .str s => some s
  | _ => none

/-- The items, if it is an array. -/
def items? : Json → Option (List Json)
  | .arr items => some items
  | _ => none

/-- The number as a double, if it is one. -/
def real? : Json → Option Float
  | .num (.int n) => some (Float.ofInt n)
  | .num (.real x) => some x
  | _ => none

/-- Whether it is a number. -/
def isNumber : Json → Bool
  | .num _ => true
  | _ => false

/-- Whether it is `null`. -/
def isNull : Json → Bool
  | .null => true
  | _ => false

/-- The map that an object stands for, if it is one. -/
def dict? : Json → Option (Dict Json)
  | .obj members => some (Dict.ofList (canonicalMembers members))
  | _ => none

end Json

end Blockflow
