import Blockflow.Json.Basic

/-!
# Reading records out of JSON

A record is written as an object, whose members are its fields by name, or as an array of its
fields in order. An unknown member is skipped; a field that stands twice and an array that is too
long are refused. A reader takes the fields one after the other in their order.
-/

namespace Blockflow.Json

/-- What is left to read of a record. -/
inductive Parts where
  /-- The members of an object. -/
  | named (members : List (String × Json))
  /-- The items of an array that no field has taken yet. -/
  | placed (items : List Json)

/-- The value of the next field: the member with its key, or the next item. There is no value where
the field is missing, and nothing is read of a record that has the member twice. -/
def Parts.next? (key : String) : Parts → Option (Option Json × Parts)
  | .named members =>
    match members.filter fun m ↦ m.1 == key with
    | [] => some (none, .named members)
    | [m] => some (some m.2, .named members)
    | _ => none
  | .placed [] => some (none, .placed [])
  | .placed (j :: rest) => some (some j, .placed rest)

/-- A reader of fields. -/
abbrev RecordReader (α : Type) : Type := StateT Parts Option α

namespace RecordReader

variable {α : Type}

/-- A field that has to be there. -/
def required (key : String) (read? : Json → Option α) : RecordReader α := fun parts ↦
  match parts.next? key with
  | some (some j, parts) => (read? j).map (·, parts)
  | _ => none

/-- A field that has a default value where it is missing. -/
def defaulted (key : String) (read? : Json → Option α) (value : α) : RecordReader α :=
  fun parts ↦
    match parts.next? key with
    | some (some j, parts) => (read? j).map (·, parts)
    | some (none, parts) => some (value, parts)
    | none => none

/-- The reader of a value that may be `null`. -/
def orNull (read? : Json → Option α) : Json → Option (Option α)
  | .null => some none
  | j => (read? j).map some

/-- A field without a value where it is missing or `null`. -/
def optional (key : String) (read? : Json → Option α) : RecordReader (Option α) :=
  defaulted key (orNull read?) none

/-- A field without a value where it is `null` or missing in an object; an array has to hold it. -/
def nullable (key : String) (read? : Json → Option α) : RecordReader (Option α) := fun parts ↦
  match parts with
  | .named _ => optional key read? parts
  | .placed _ => required key (orNull read?) parts

end RecordReader

/-- Reads a record with the given reader of its fields. -/
def record? {α : Type} (reader : RecordReader α) : Json → Option α
  | .obj members => (reader.run (.named members)).map (·.1)
  | .arr items =>
    match reader.run (.placed items) with
    | some (a, .placed []) => some a
    | _ => none
  | _ => none

/-- Reads a record that says what it is: in an object by the member with the given key, in an array
by the first item. The other fields are read as the reader for that name says. -/
def tagged? {α : Type} (key : String) (reader? : String → Option (RecordReader α)) :
    Json → Option α
  | .obj members =>
    match members.filter fun m ↦ m.1 == key with
    | [(_, .str name)] =>
      (reader? name).bind fun reader ↦ record? reader (.obj (members.filter fun m ↦ m.1 ≠ key))
    | _ => none
  | .arr (.str name :: rest) => (reader? name).bind fun reader ↦ record? reader (.arr rest)
  | _ => none

/-- Reads the name of one of finitely many values. The name may also stand as the only member of
an object, with the value `null`. -/
def choice? {α : Type} (ofName? : String → Option α) : Json → Option α
  | .str name => ofName? name
  | .obj [(name, .null)] => ofName? name
  | _ => none

/-- Reads a list. -/
def list? {α : Type} (read? : Json → Option α) : Json → Option (List α)
  | .arr items => items.mapM read?
  | _ => none

/-- Reads a map. -/
def dictOf? {α : Type} (read? : Json → Option α) (j : Json) : Option (Dict α) :=
  match j with
  | .obj members => (members.mapM fun m ↦ (read? m.2).map (m.1, ·)).map Dict.ofList
  | _ => none

/-- Reads a natural number below the given power of two. -/
def unsigned? (bits : Nat) : Json → Option Nat
  | .num (.int (.ofNat n)) => if n < Nat.pow 2 bits then some n else none
  | _ => none

/-- The member of an object as a text, or the empty text. -/
def textAt (j : Json) (key : String) : String :=
  match j.member? key with
  | some (.str s) => s
  | _ => ""

end Blockflow.Json
