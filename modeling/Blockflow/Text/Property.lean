import Blockflow.Text.Property.Age
import Blockflow.Text.Property.Break
import Blockflow.Text.Property.Script

/-!
# Properties of characters by their names

The set of the characters with a property, found by the name of the property or by its name and
the name of a value. Names are compared without the difference of small letters and capitals,
without blanks, dashes and underscores, and without an `is` in front.
-/

namespace Blockflow.Text.Property

/-- A name as names are compared. Only ASCII counts; an `is` in front does not, but `isc` is a name
of its own. -/
def plainName (s : String) : String :=
  let cs := s.toList.map Char.toLower
  let plain (cs : List Char) : List Char :=
    cs.filter fun c ↦ c.toNat < 128 && c ≠ ' ' && c ≠ '_' && c ≠ '-'
  match cs with
  | 'i' :: 's' :: rest => if plain rest = ['c'] then "isc" else String.ofList (plain rest)
  | cs => String.ofList (plain cs)

/-- The set with a plain name in a list of sets. -/
def find? (sets : List (List String × CharSet)) (name : String) : Option CharSet :=
  (sets.find? fun s ↦ s.1.contains name).map (·.2)

/-- The characters with the property, of the category or of the script with the given name. -/
def byName? (name : String) : Option CharSet :=
  let name := plainName name
  (find? binaries name).or ((find? categories name).or (script? name))

/-- The characters for which a property has the given value. -/
def byValue? (property value : String) : Option CharSet :=
  let value := plainName value
  match plainName property with
  | "generalcategory" | "gc" | "category" => find? categories value
  | "script" | "sc" => script? value
  | "scriptextensions" | "scx" => scriptExtension? value
  | "age" => age? value
  | "graphemeclusterbreak" | "gcb" => find? graphemeBreaks value
  | "wordbreak" | "wb" => find? wordBreaks value
  | "sentencebreak" | "sb" => find? sentenceBreaks value
  | _ => none

end Blockflow.Text.Property
