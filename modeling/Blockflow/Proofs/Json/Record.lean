import Blockflow.Json.Record
import Mathlib.Data.Option.Basic

/-!
# Records, written and read

What a reader of fields gets out of the object that a record is written as: each field from the only
member with its key, and a field that was left out as what it is without one.
-/

namespace Blockflow

namespace Json

variable {α β : Type} {members : List (String × Json)}

namespace RecordReader

/-- Whether a reader gets a value out of the members of an object. -/
def Gets (reader : RecordReader α) (members : List (String × Json)) (a : α) : Prop :=
  reader.run (.named members) = some (a, .named members)

namespace Gets

variable {a : α} {key : String} {read? : Json → Option α} {j : Json}

theorem pure (a : α) : Gets (Pure.pure a) members a := rfl

theorem bind {b : β} {reader : RecordReader α} {next : α → RecordReader β}
    (h : Gets reader members a) (hnext : Gets (next a) members b) :
    Gets (reader >>= next) members b := by
  rw [Gets, StateT.run_bind, h]
  exact hnext

/-- A field is got from the only member with its key. -/
theorem required (hkey : (members.filter fun m ↦ m.1 == key) = [(key, j)])
    (hread : read? j = some a) : Gets (RecordReader.required key read?) members a := by
  simp [Gets, StateT.run, RecordReader.required, Parts.next?, hkey, hread]

/-- A field with a default value is got from the only member with its key. -/
theorem defaulted {value : α} (hkey : (members.filter fun m ↦ m.1 == key) = [(key, j)])
    (hread : read? j = some a) : Gets (RecordReader.defaulted key read? value) members a := by
  simp [Gets, StateT.run, RecordReader.defaulted, Parts.next?, hkey, hread]

/-- A field that may be missing is got from the member that is left out without a value. -/
theorem optional {f : α → Json} {value : Option α}
    (hkey : (members.filter fun m ↦ m.1 == key) = Json.optional key f value)
    (hread : ∀ a, orNull read? (f a) = some (some a)) :
    Gets (RecordReader.optional key read?) members value := by
  cases value with
  | none => simp [Gets, StateT.run, RecordReader.optional, RecordReader.defaulted, Parts.next?,
      hkey, Json.optional]
  | some a => exact .defaulted hkey (hread a)

end Gets

/-- A field with a default value has that value, or what is read somewhere. -/
theorem of_defaulted {key : String} {read? : Json → Option α} {value a : α} {parts rest : Parts}
    (h : (defaulted key read? value).run parts = some (a, rest)) :
    a = value ∨ ∃ j, read? j = some a := by
  rw [StateT.run, defaulted] at h
  split at h
  · next j _ _ =>
    obtain ⟨_, hread, heq⟩ := Option.map_eq_some_iff.mp h
    exact .inr ⟨j, (Prod.mk.inj heq).1 ▸ hread⟩
  · exact .inl (Prod.mk.inj (Option.some.inj h)).1.symm
  · cases h

end RecordReader

theorem record?_obj {reader : RecordReader α} {a : α} (h : reader.Gets members a) :
    record? reader (.obj members) = some a := by
  rw [record?, h, Option.map_some]

theorem exists_run_of_record? {reader : RecordReader α} {a : α} {j : Json}
    (h : record? reader j = some a) : ∃ parts rest, reader.run parts = some (a, rest) := by
  cases j with
  | obj members =>
    obtain ⟨⟨_, rest⟩, hrun, rfl⟩ := Option.map_eq_some_iff.mp h
    exact ⟨_, rest, hrun⟩
  | arr items =>
    rw [record?] at h
    split at h
    · next hrun => exact ⟨_, _, Option.some.inj h ▸ hrun⟩
    · cases h
  | null | bool | num | str => cases h

/-- A list whose members are read from what they are written as is read from its array. -/
theorem list?_ofList {read? : Json → Option α} {write : α → Json} {l : List α}
    (h : ∀ a ∈ l, read? (write a) = some a) : list? read? (ofList write l) = some l := by
  induction l with
  | nil => rfl
  | cons a rest ih =>
    obtain ⟨ha, hrest⟩ := List.forall_mem_cons.mp h
    have hitems : (rest.map write).mapM read? = some rest := ih hrest
    simp [list?, ofList, ha, hitems]

/-- Every member of a list that was read was read from an item. -/
theorem exists_of_mem_list? {read? : Json → Option α} {l : List α} {j : Json}
    (h : list? read? j = some l) : ∀ a ∈ l, ∃ i, read? i = some a := by
  cases j with
  | arr items =>
    change items.mapM read? = some l at h
    induction items generalizing l with
    | nil =>
      obtain rfl : [] = l := Option.some.inj h
      exact nofun
    | cons item items ih =>
      simp only [List.mapM_cons, Option.bind_eq_bind, Option.bind_eq_some_iff, Option.pure_def,
        Option.some.injEq] at h
      obtain ⟨a, hitem, rest, hitems, rfl⟩ := h
      exact List.forall_mem_cons.mpr ⟨⟨item, hitem⟩, ih hitems⟩
  | null | bool | num | str | obj => cases h

theorem real?_ofFloat {x : Float} (h : x.isFinite = true) : real? (ofFloat x) = some x := by
  rw [ofFloat, if_pos h, real?]

end Json

end Blockflow
