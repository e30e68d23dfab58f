import Blockflow.Json.Basic
import Mathlib.Data.List.Induction

/-!
# Canonical values

A map from texts has its entries in ascending order, so an object that was read as one lists its
members that way, and so does every object within. Such a value is canonical, and to read it again
as a map changes nothing.
-/

namespace Blockflow

namespace Dict

variable {α : Type}

theorem insertEntry_of_forall_lt {key : String} {value : α} {l : List (String × α)}
    (h : ∀ e ∈ l, e.1 < key) : insertEntry key value l = l ++ [(key, value)] := by
  induction l with
  | nil => rfl
  | cons e rest ih =>
    obtain ⟨hfirst, hrest⟩ := List.forall_mem_cons.mp h
    have hne : key ≠ e.1 := fun heq ↦ String.lt_irrefl key (heq ▸ hfirst)
    rw [insertEntry, if_neg (String.lt_asymm hfirst), if_neg hne, ih hrest, List.cons_append]

/-- The map that an ascending list describes has the entries of the list. -/
theorem entries_ofList {l : List (String × α)} (h : l.Pairwise fun e f ↦ e.1 < f.1) :
    (ofList l).entries = l := by
  induction l using List.reverseRecOn with
  | nil => rfl
  | append_singleton l e ih =>
    obtain ⟨hl, -, hlast⟩ := List.pairwise_append.mp h
    have hlt : ∀ f ∈ l, f.1 < e.1 := fun f hf ↦ hlast f hf e List.mem_cons_self
    rw [ofList, List.foldl_append]
    change insertEntry e.1 e.2 (ofList l).entries = _
    rw [ih hl, insertEntry_of_forall_lt hlt]

/-- The entries of the map that a list describes come from the list. -/
theorem mem_of_mem_entries_ofList {e : String × α} {l : List (String × α)}
    (h : e ∈ (ofList l).entries) : e ∈ l := by
  induction l using List.reverseRecOn with
  | nil => simp [ofList] at h
  | append_singleton l f ih =>
    rw [ofList, List.foldl_append] at h
    rcases mem_insertEntry h with rfl | he
    · exact List.mem_append_right l List.mem_cons_self
    · exact List.mem_append_left _ (ih he)

end Dict

namespace Json

variable {j : Json} {d : Dict Json}

/-- Whether every object in a value lists its members in ascending order of their keys, no key
twice. -/
inductive IsCanonical : Json → Prop where
  /-- There is no object in `null`. -/
  | null : IsCanonical .null
  /-- There is no object in a truth value. -/
  | bool (b : Bool) : IsCanonical (.bool b)
  /-- There is no object in a number. -/
  | num (n : Number) : IsCanonical (.num n)
  /-- There is no object in a string. -/
  | str (s : String) : IsCanonical (.str s)
  /-- All items of an array are canonical. -/
  | arr {items : List Json} (h : ∀ i ∈ items, IsCanonical i) : IsCanonical (.arr items)
  /-- An object lists its members in ascending order, and all their values are canonical. -/
  | obj {members : List (String × Json)} (hs : members.Pairwise fun m n ↦ m.1 < n.1)
    (h : ∀ m ∈ members, IsCanonical m.2) : IsCanonical (.obj members)

theorem canonicalItems_eq_map (items : List Json) :
    canonicalItems items = items.map canonical := by
  induction items with
  | nil => rfl
  | cons item rest ih => rw [canonicalItems, ih, List.map_cons]

theorem canonicalMembers_eq_map (members : List (String × Json)) :
    canonicalMembers members = members.map fun m ↦ (m.1, m.2.canonical) := by
  induction members with
  | nil => rfl
  | cons m rest ih => rw [canonicalMembers, ih, List.map_cons]

private theorem canonicalMembers_eq_self {members : List (String × Json)}
    (h : ∀ m ∈ members, m.2.canonical = m.2) : canonicalMembers members = members := by
  have hsame : ∀ m ∈ members, (m.1, m.2.canonical) = m := fun m hm ↦ Prod.ext rfl (h m hm)
  rw [canonicalMembers_eq_map, List.map_congr_left hsame, List.map_id']

/-- A canonical value is its own canonical form. -/
theorem IsCanonical.canonical_eq (h : j.IsCanonical) : j.canonical = j := by
  induction h with
  | null | bool | num | str => rfl
  | arr _ ih => rw [canonical, canonicalItems_eq_map, List.map_congr_left ih, List.map_id']
  | obj hs _ ih => rw [canonical, canonicalMembers_eq_self ih, Dict.entries_ofList hs]

mutual

/-- The canonical form of a value is canonical. -/
theorem isCanonical_canonical : ∀ j : Json, j.canonical.IsCanonical
  | .null => .null
  | .bool b => .bool b
  | .num n => .num n
  | .str s => .str s
  | .arr items => .arr (isCanonical_canonicalItems items)
  | .obj members => .obj (Dict.sorted _) fun m hm ↦
    isCanonical_canonicalMembers members m (Dict.mem_of_mem_entries_ofList hm)

/-- Every item is canonical in the canonical form of a list. -/
theorem isCanonical_canonicalItems :
    ∀ items : List Json, ∀ i ∈ canonicalItems items, i.IsCanonical
  | [] => nofun
  | item :: rest =>
    List.forall_mem_cons.mpr ⟨isCanonical_canonical item, isCanonical_canonicalItems rest⟩

/-- Every value is canonical in the canonical form of the members of an object. -/
theorem isCanonical_canonicalMembers :
    ∀ members : List (String × Json), ∀ m ∈ canonicalMembers members, m.2.IsCanonical
  | [] => nofun
  | (_, value) :: rest =>
    List.forall_mem_cons.mpr ⟨isCanonical_canonical value, isCanonical_canonicalMembers rest⟩

end

/-- The values of a map that was read are canonical. -/
theorem isCanonical_of_dict? (h : dict? j = some d) : ∀ e ∈ d.entries, e.2.IsCanonical := by
  cases j with
  | obj members =>
    obtain rfl : Dict.ofList (canonicalMembers members) = d := Option.some.inj h
    exact fun e he ↦
      isCanonical_canonicalMembers members e (Dict.mem_of_mem_entries_ofList he)
  | null | bool | num | str | arr => cases h

/-- A map with canonical values is what the object with its entries stands for. -/
theorem dict?_obj_entries (h : ∀ e ∈ d.entries, e.2.IsCanonical) :
    dict? (.obj d.entries) = some d := by
  rw [dict?, canonicalMembers_eq_self fun e he ↦ (h e he).canonical_eq]
  exact congrArg some (Dict.ext (Dict.entries_ofList d.sorted))

end Json

end Blockflow
