import Blockflow.Workflow.Graph
import Mathlib.Data.List.Perm.Basic

/-!
# Maps and keys in ascending order

Which keys and values a map has, and what follows for texts that are put in ascending order: the
result holds the same texts, each once, and depends on nothing else.
-/

namespace Blockflow

/-- In an ascending list every text stands once. -/
theorem nodup_of_pairwise_lt {l : List String} (h : l.Pairwise (· < ·)) : l.Nodup := by
  apply h.imp
  intro a b hab he
  subst he
  exact String.lt_irrefl a hab

/-- Two ascending lists with the same members are the same list. -/
theorem eq_of_pairwise_lt {l m : List String} (hl : l.Pairwise (· < ·)) (hm : m.Pairwise (· < ·))
    (h : ∀ a, a ∈ l ↔ a ∈ m) : l = m := by
  have hp : l.Perm m :=
    (List.perm_ext_iff_of_nodup (nodup_of_pairwise_lt hl) (nodup_of_pairwise_lt hm)).mpr h
  exact hp.eq_of_pairwise (fun _ _ _ _ hab hba ↦ absurd hba (String.lt_asymm hab)) hl hm

namespace Dict

variable {α β : Type}

/-- A key of a map is one that has a value. -/
theorem mem_keys_iff {d : Dict α} {key : String} : key ∈ d.keys ↔ (d.get? key).isSome := by
  simp [keys, get?]

theorem pairwise_keys (d : Dict α) : d.keys.Pairwise (· < ·) := by
  rw [keys, List.pairwise_map]
  exact d.sorted

theorem mem_keys_insert {d : Dict α} {key other : String} {value : α} :
    other ∈ (d.insert key value).keys ↔ other = key ∨ other ∈ d.keys := by
  rw [mem_keys_iff, mem_keys_iff, get?_insert]
  by_cases h : other = key <;> simp [h]

private theorem mem_keys_foldl_insert (l : List (String × α)) (d : Dict α) (key : String) :
    key ∈ (l.foldl (fun d e ↦ d.insert e.1 e.2) d).keys ↔ key ∈ d.keys ∨ key ∈ l.map (·.1) := by
  induction l generalizing d with
  | nil => simp
  | cons e rest ih =>
    rw [List.foldl_cons, ih, mem_keys_insert, List.map_cons, List.mem_cons]
    tauto

/-- The keys of the map that a list describes are those of the list. -/
theorem mem_keys_ofList {l : List (String × α)} {key : String} :
    key ∈ (ofList l).keys ↔ key ∈ l.map (·.1) := by
  rw [ofList, mem_keys_foldl_insert]
  simp [keys]

private theorem get?_foldl_insert {l : List (String × α)} {d : Dict α} {key : String} {value : α}
    (h : (l.foldl (fun d e ↦ d.insert e.1 e.2) d).get? key = some value) :
    d.get? key = some value ∨ (key, value) ∈ l := by
  induction l generalizing d with
  | nil => exact .inl h
  | cons e rest ih =>
    rcases ih h with hd | hrest
    · rw [get?_insert] at hd
      split at hd
      · next heq =>
        rw [heq, ← Option.some.inj hd]
        exact .inr List.mem_cons_self
      · exact .inl hd
    · exact .inr (List.mem_cons_of_mem _ hrest)

/-- The values of the map that a list describes come from the list. -/
theorem mem_of_get?_ofList {l : List (String × α)} {key : String} {value : α}
    (h : (ofList l).get? key = some value) : (key, value) ∈ l :=
  (get?_foldl_insert h).resolve_left (by simp [get?])

/-- A list leads from every key to the value beside it exactly if it has no two values beside one
key. -/
theorem get?_ofList_iff {l : List (String × α)} :
    (∀ e ∈ l, (ofList l).get? e.1 = some e.2) ↔ ∀ e ∈ l, ∀ f ∈ l, e.1 = f.1 → e.2 = f.2 := by
  constructor
  · intro h e he f hf hkey
    have hsame : some e.2 = some f.2 := by rw [← h e he, ← h f hf, hkey]
    exact Option.some.inj hsame
  · intro h e he
    have hkey : e.1 ∈ (ofList l).keys := mem_keys_ofList.mpr (List.mem_map_of_mem he)
    obtain ⟨value, hvalue⟩ := Option.isSome_iff_exists.mp (mem_keys_iff.mp hkey)
    rw [hvalue, h e he _ (mem_of_get?_ofList hvalue) rfl]

private theorem lookup_map (f : String → α → β) (l : List (String × α)) (key : String) :
    (l.map fun e ↦ (e.1, f e.1 e.2)).lookup key = (l.lookup key).map (f key) := by
  induction l with
  | nil => rfl
  | cons e rest ih =>
    rw [List.map_cons, List.lookup_cons, List.lookup_cons, ih]
    split
    · next hkey => rw [Option.map_some, eq_of_beq hkey]
    · rfl

@[simp] theorem get?_mapEntries (f : String → α → β) (d : Dict α) (key : String) :
    (d.mapEntries f).get? key = (d.get? key).map (f key) :=
  lookup_map f d.entries key

@[simp] theorem keys_mapEntries (f : String → α → β) (d : Dict α) :
    (d.mapEntries f).keys = d.keys :=
  List.map_map

theorem mapEntries_mapEntries {γ : Type} (f : String → α → β) (g : String → β → γ) (d : Dict α) :
    (d.mapEntries f).mapEntries g = d.mapEntries fun key value ↦ g key (f key value) :=
  ext List.map_map

private theorem lookup_eq_some_iff_mem {l : List (String × α)}
    (h : l.Pairwise fun e f ↦ e.1 < f.1) {key : String} {value : α} :
    l.lookup key = some value ↔ (key, value) ∈ l := by
  induction l with
  | nil => simp
  | cons e rest ih =>
    obtain ⟨hfirst, hrest⟩ := List.pairwise_cons.mp h
    rw [List.lookup_cons, List.mem_cons]
    by_cases hkey : key = e.1
    · subst hkey
      -- no later entry has the key of the first one
      have hnot : (e.1, value) ∉ rest := fun he ↦ String.lt_irrefl e.1 (hfirst (e.1, value) he)
      simp [hnot, Prod.ext_iff, eq_comm]
    · have hne : (key, value) ≠ e := fun he ↦ hkey (congrArg Prod.fst he)
      simp [beq_false_of_ne hkey, hne, ih hrest]

theorem get?_eq_some_iff_mem {d : Dict α} {key : String} {value : α} :
    d.get? key = some value ↔ (key, value) ∈ d.entries :=
  lookup_eq_some_iff_mem d.sorted

/-- A value of a map is one that stands under a key. -/
theorem mem_values_iff {d : Dict α} {value : α} :
    value ∈ d.values ↔ ∃ key, d.get? key = some value := by
  simp [values, get?, lookup_eq_some_iff_mem d.sorted]

private theorem filterMap_entries (d : Dict α) (key : String) (f : α → Option β) :
    (d.entries.filterMap fun e ↦ if e.1 = key then f e.2 else none) =
      ((d.get? key).bind f).toList := by
  obtain ⟨l, hl⟩ := d
  change l.filterMap _ = ((l.lookup key).bind f).toList
  induction l with
  | nil => rfl
  | cons e rest ih =>
    obtain ⟨hfirst, hrest⟩ := List.pairwise_cons.mp hl
    rw [List.lookup_cons]
    by_cases hkey : key = e.1
    · -- no later entry has the key of the first one
      have hnone : (rest.filterMap fun e ↦ if e.1 = key then f e.2 else none) = [] := by
        rw [List.filterMap_eq_nil_iff]
        intro later hlater
        rw [if_neg]
        rintro rfl
        exact String.lt_irrefl _ (hkey ▸ hfirst later hlater)
      subst hkey
      cases hvalue : f e.2 <;> simp [hnone, hvalue]
    · simp [Ne.symm hkey, beq_false_of_ne hkey, ih hrest]

/-- If the values of a map bear the names that they stand under, what is made of those with one name
is made of the value that stands there. -/
theorem filterMap_values {d : Dict α} {name : α → String}
    (hname : ∀ key value, d.get? key = some value → name value = key) (key : String)
    (f : α → Option β) :
    (d.values.filterMap fun value ↦ if name value = key then f value else none) =
      ((d.get? key).bind f).toList := by
  rw [← filterMap_entries, values, List.filterMap_map]
  refine List.filterMap_congr fun e he ↦ ?_
  have hkey : name e.2 = e.1 := hname e.1 e.2 ((lookup_eq_some_iff_mem d.sorted).mpr he)
  rw [Function.comp_apply, hkey]

/-- Among the entries that satisfy a condition a key has the value it had, if this does. -/
theorem get?_filter (p : String → α → Bool) (d : Dict α) (key : String) :
    (d.filter p).get? key = (d.get? key).filter (p key) := by
  apply Option.ext
  intro value
  rw [Option.filter_eq_some_iff, get?, get?, lookup_eq_some_iff_mem (d.filter p).sorted,
    lookup_eq_some_iff_mem d.sorted, filter, List.mem_filter]

/-- After a removal the key has no value and every other key the one it had. -/
theorem get?_erase (d : Dict α) (key other : String) :
    (d.erase key).get? other = if other = key then none else d.get? other := by
  have hfilter : d.erase key = d.filter fun k _ ↦ decide (k ≠ key) := rfl
  rw [hfilter, get?_filter]
  by_cases h : other = key <;> cases d.get? other <;> simp [h]

/-- Maps with the same look-ups are the same map. -/
theorem ext_get? {a b : Dict α} (h : ∀ key, a.get? key = b.get? key) : a = b := by
  have hnodup (d : Dict α) : d.entries.Nodup := by
    refine d.sorted.imp fun {e f} hlt heq ↦ ?_
    subst heq
    exact String.lt_irrefl e.1 hlt
  have hp : a.entries.Perm b.entries := by
    refine (List.perm_ext_iff_of_nodup (hnodup a) (hnodup b)).mpr fun (key, value) ↦ ?_
    rw [← get?_eq_some_iff_mem, ← get?_eq_some_iff_mem, h]
  exact ext (hp.eq_of_pairwise (fun _ _ _ _ hab hba ↦ absurd hba (String.lt_asymm hab))
    a.sorted b.sorted)

/-- Whatever is done for each entry of a map, if it concerns nothing but the key of the entry: in
the end each key has what its own entry has made of it. -/
theorem get?_foldl {step : Dict α → String × β → Dict α} (new : String → β → Option α)
    (hstep : ∀ d e key, (step d e).get? key = if key = e.1 then new e.1 e.2 else d.get? key)
    (d : Dict α) (changes : Dict β) (key : String) :
    (changes.entries.foldl step d).get? key =
      ((changes.get? key).map (new key)).getD (d.get? key) := by
  obtain ⟨l, hl⟩ := changes
  change (l.foldl step d).get? key = ((l.lookup key).map (new key)).getD (d.get? key)
  induction l generalizing d with
  | nil => rfl
  | cons e rest ih =>
    obtain ⟨hfirst, hrest⟩ := List.pairwise_cons.mp hl
    rw [List.foldl_cons, ih _ hrest, hstep, List.lookup_cons]
    by_cases hkey : key = e.1
    · -- no later entry has the key of the first one
      have hnone : rest.lookup key = none := by
        rw [List.lookup_eq_none_iff]
        intro later hlater
        have hlt := hfirst later hlater
        rw [← hkey] at hlt
        simpa using fun heq : key = later.1 ↦ String.lt_irrefl key (heq ▸ hlt)
      rw [hnone, if_pos hkey, hkey]
      simp
    · rw [if_neg hkey, beq_false_of_ne hkey]

/-- The map with the entries of another one, which take precedence. -/
def override (d later : Dict α) : Dict α :=
  later.entries.foldl (fun d e ↦ d.insert e.1 e.2) d

/-- Under each key there is the value of the map that takes precedence, if it has one. -/
theorem get?_override (d later : Dict α) (key : String) :
    (d.override later).get? key = (later.get? key).or (d.get? key) := by
  rw [override, get?_foldl (fun _ ↦ some) fun d e key ↦ get?_insert d e.1 key e.2]
  cases later.get? key <;> rfl

end Dict

namespace Graph

@[simp] theorem mem_ascending {ids : List String} {id : String} :
    id ∈ ascending ids ↔ id ∈ ids := by
  rw [ascending, Dict.mem_keys_ofList]
  simp

theorem pairwise_ascending (ids : List String) : (ascending ids).Pairwise (· < ·) :=
  Dict.pairwise_keys _

theorem nodup_ascending (ids : List String) : (ascending ids).Nodup :=
  nodup_of_pairwise_lt (pairwise_ascending ids)

/-- Putting texts in ascending order keeps their number exactly if none stands twice. -/
theorem length_ascending_eq_iff {ids : List String} :
    (ascending ids).length = ids.length ↔ ids.Nodup := by
  have hsub : (ascending ids).Subperm ids :=
    List.subperm_of_subset (nodup_ascending ids) fun _ ↦ mem_ascending.mp
  constructor
  · intro h
    exact (hsub.perm_of_length_le (Nat.le_of_eq h.symm)).nodup_iff.mp (nodup_ascending ids)
  · intro h
    have hsup : ids.Subperm (ascending ids) :=
      List.subperm_of_subset h fun _ ↦ mem_ascending.mpr
    exact Nat.le_antisymm hsub.length_le hsup.length_le

/-- Only the members of a list count for its ascending form. -/
theorem ascending_congr {ids other : List String} (h : ∀ id, id ∈ ids ↔ id ∈ other) :
    ascending ids = ascending other :=
  eq_of_pairwise_lt (pairwise_ascending _) (pairwise_ascending _) (by simpa using h)

end Graph

end Blockflow
