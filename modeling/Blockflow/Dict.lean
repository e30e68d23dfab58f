/-!
# Maps from texts

A map whose keys are texts, kept as the list of its entries in ascending order of the keys. The
order is part of the type, so two maps with the same look-ups are the same map.
-/

namespace Blockflow

/-- A map from texts, with its entries in ascending order of their keys. -/
structure Dict (α : Type) where
  /-- Key and value, by ascending key. -/
  entries : List (String × α)
  /-- Every key stands before the greater ones, and none stands twice. -/
  sorted : entries.Pairwise (fun a b ↦ a.1 < b.1)

namespace Dict

variable {α β : Type}

instance [DecidableEq α] : DecidableEq (Dict α) := fun a b ↦
  decidable_of_iff (a.entries = b.entries) (by
    constructor
    · intro h
      cases a
      cases b
      cases h
      rfl
    · exact congrArg entries)

/-- The map without entries. -/
def empty : Dict α := ⟨[], List.Pairwise.nil⟩

instance : Inhabited (Dict α) := ⟨empty⟩

/-- The value under a key. -/
def get? (d : Dict α) (key : String) : Option α := d.entries.lookup key

/-- Whether there is a value under a key. -/
def contains (d : Dict α) (key : String) : Bool := (d.get? key).isSome

/-- The keys, ascending. -/
def keys (d : Dict α) : List String := d.entries.map (·.1)

/-- The values, by ascending key. -/
def values (d : Dict α) : List α := d.entries.map (·.2)

/-- Whether there is no entry. -/
def isEmpty (d : Dict α) : Bool := d.entries.isEmpty

/-- The number of entries. -/
def size (d : Dict α) : Nat := d.entries.length

/-- Puts an entry at its place in an ascending list, over one with the same key. -/
def insertEntry (key : String) (value : α) : List (String × α) → List (String × α)
  | [] => [(key, value)]
  | (k, v) :: rest =>
    if key < k then (key, value) :: (k, v) :: rest
    else if key = k then (key, value) :: rest
    else (k, v) :: insertEntry key value rest

theorem mem_insertEntry {key : String} {value : α} {e : String × α} {l : List (String × α)}
    (h : e ∈ insertEntry key value l) : e = (key, value) ∨ e ∈ l := by
  induction l with
  | nil => simpa [insertEntry] using h
  | cons head rest ih =>
    obtain ⟨k, v⟩ := head
    rw [insertEntry] at h
    split at h
    · simpa using h
    · split at h
      · rcases List.mem_cons.1 h with h | h
        · exact .inl h
        · exact .inr (List.mem_cons_of_mem _ h)
      · rcases List.mem_cons.1 h with h | h
        · exact .inr (h ▸ List.mem_cons_self)
        · exact (ih h).imp id (List.mem_cons_of_mem _)

theorem lt_of_not_lt_of_ne {a b : String} (h : ¬a < b) (hne : a ≠ b) : b < a := by
  by_cases hba : b < a
  · exact hba
  · exact absurd (String.le_antisymm (String.not_lt.1 hba) (String.not_lt.1 h)) hne

theorem pairwise_insertEntry (key : String) (value : α) {l : List (String × α)}
    (h : l.Pairwise (fun a b ↦ a.1 < b.1)) :
    (insertEntry key value l).Pairwise (fun a b ↦ a.1 < b.1) := by
  induction l with
  | nil => simp [insertEntry]
  | cons head rest ih =>
    obtain ⟨k, v⟩ := head
    have hrest := List.pairwise_cons.1 h
    rw [insertEntry]
    split
    · next hlt =>
      refine List.pairwise_cons.2 ⟨fun e he ↦ ?_, h⟩
      rcases List.mem_cons.1 he with rfl | he
      · exact hlt
      · exact String.lt_trans hlt (hrest.1 e he)
    · next hlt =>
      split
      · next heq =>
        subst heq
        exact List.pairwise_cons.2 ⟨hrest.1, hrest.2⟩
      · next hne =>
        refine List.pairwise_cons.2 ⟨fun e he ↦ ?_, ih hrest.2⟩
        rcases mem_insertEntry he with rfl | he
        · exact lt_of_not_lt_of_ne hlt hne
        · exact hrest.1 e he

/-- The map with a value put under a key. -/
def insert (d : Dict α) (key : String) (value : α) : Dict α :=
  ⟨insertEntry key value d.entries, pairwise_insertEntry key value d.sorted⟩

/-- The map without the entry under a key. -/
def erase (d : Dict α) (key : String) : Dict α :=
  ⟨d.entries.filter (fun e ↦ e.1 ≠ key), d.sorted.filter _⟩

/-- The entries that satisfy a condition. -/
def filter (p : String → α → Bool) (d : Dict α) : Dict α :=
  ⟨d.entries.filter (fun e ↦ p e.1 e.2), d.sorted.filter _⟩

/-- Every value changed by a function of its key and itself. -/
def mapEntries (f : String → α → β) (d : Dict α) : Dict β :=
  ⟨d.entries.map (fun e ↦ (e.1, f e.1 e.2)), List.Pairwise.map _ (fun _ _ h ↦ h) d.sorted⟩

/-- The map that a list of entries describes; of two values under one key the later one counts. -/
def ofList (l : List (String × α)) : Dict α := l.foldl (fun d e ↦ d.insert e.1 e.2) empty

theorem ext {a b : Dict α} (h : a.entries = b.entries) : a = b := by
  cases a
  cases b
  cases h
  rfl

@[simp] theorem entries_empty : (empty : Dict α).entries = [] := rfl

theorem lookup_insertEntry_self (key : String) (value : α) (l : List (String × α)) :
    (insertEntry key value l).lookup key = some value := by
  induction l with
  | nil => simp [insertEntry]
  | cons head rest ih =>
    obtain ⟨k, v⟩ := head
    rw [insertEntry]
    split
    · simp
    · split
      · simp
      · next hne => simp [List.lookup_cons, beq_false_of_ne hne, ih]

theorem lookup_insertEntry_of_ne {key other : String} (h : other ≠ key) (value : α)
    (l : List (String × α)) : (insertEntry key value l).lookup other = l.lookup other := by
  have hb : (other == key) = false := beq_false_of_ne h
  induction l with
  | nil => simp [insertEntry, List.lookup_cons, hb]
  | cons head rest ih =>
    obtain ⟨k, v⟩ := head
    rw [insertEntry]
    split
    · simp [List.lookup_cons, hb]
    · split
      · next heq =>
        subst heq
        simp [List.lookup_cons, hb]
      · simp [List.lookup_cons, ih]

/-- After an insertion the key has the new value and every other key the one it had. -/
theorem get?_insert (d : Dict α) (key other : String) (value : α) :
    (d.insert key value).get? other = if other = key then some value else d.get? other := by
  split
  · next h =>
    subst h
    exact lookup_insertEntry_self _ _ _
  · next h => exact lookup_insertEntry_of_ne h _ _

end Dict

end Blockflow
