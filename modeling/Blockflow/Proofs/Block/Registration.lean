import Blockflow.Block.Catalog
import Mathlib.Data.Finset.Card
import Mathlib.Data.List.Induction
import Mathlib.Data.List.Nodup

/-!
# Registering definitions

Definitions that are registered one after the other leave, for each tag, the one that came last, in
the order in which the tags came first. A registry may be kept as a list with an index beside it,
which says where in the list the definition for a tag stands: a definition whose tag is in the index
goes to its place, and any other one to the end. Whatever is registered, the index leads from every
tag to the one definition for it, and never to a place that the list does not have.
-/

namespace Blockflow

namespace Registry

variable {r : Registry} {ds : List Definition} {d e : Definition} {tag : String} {i : Nat}

/-! ### One definition -/

/-- The tags of a registry, in the order of its definitions. -/
def tags (r : Registry) : List String := r.definitions.map (·.tag)

private theorem kind_eq_iff : e.kind = d.kind ↔ e.tag = d.tag :=
  ⟨congrArg Kind.tag, Kind.tag_injective⟩

/-- A definition goes to the place of its tag, or to the end if its tag is new. -/
theorem definitions_register (r : Registry) (d : Definition) : (r.register d).definitions =
    match r.tags.idxOf? d.tag with
    | some i => r.definitions.set i d
    | none => r.definitions ++ [d] := by
  obtain ⟨l⟩ := r
  simp only [tags, register]
  induction l with
  | nil => rfl
  | cons e l ih =>
    rw [put, List.map_cons, List.idxOf?_cons]
    by_cases h : e.tag = d.tag
    · rw [if_pos (kind_eq_iff.mpr h), if_pos (beq_iff_eq.mpr h)]
      rfl
    · rw [if_neg (mt kind_eq_iff.mp h), if_neg (mt beq_iff_eq.mp h), ih]
      cases (l.map (·.tag)).idxOf? d.tag <;> rfl

theorem tags_register (r : Registry) (d : Definition) :
    (r.register d).tags = if d.tag ∈ r.tags then r.tags else r.tags ++ [d.tag] := by
  rw [tags, definitions_register]
  cases hplace : r.tags.idxOf? d.tag with
  | some i =>
    obtain ⟨hi, htag, -⟩ := List.idxOf?_eq_some_iff.mp hplace
    have hmem : d.tag ∈ r.tags := htag ▸ List.getElem_mem hi
    rw [if_pos hmem, List.map_set, ← tags, ← htag, List.set_getElem_self]
  | none =>
    rw [if_neg (List.idxOf?_eq_none_iff.mp hplace), List.map_append, List.map_singleton, ← tags]

theorem nodup_tags_register (h : r.tags.Nodup) (d : Definition) : (r.register d).tags.Nodup := by
  rw [tags_register]
  split
  · exact h
  · next hnew =>
    rw [← List.concat_eq_append]
    exact h.concat hnew

/-- What is found for the tag of a definition is the definition, and for any other tag what was
found before. -/
theorem get?_register (r : Registry) (d : Definition) (tag : String) :
    (r.register d).get? tag = if d.tag = tag then some d else r.get? tag := by
  obtain ⟨l⟩ := r
  simp only [get?, register]
  induction l with
  | nil => by_cases h : d.tag = tag <;> simp [put, h]
  | cons e l ih =>
    rw [put]
    by_cases h : e.tag = d.tag
    · rw [if_pos (kind_eq_iff.mpr h)]
      by_cases htag : d.tag = tag <;> simp [h, htag]
    · rw [if_neg (mt kind_eq_iff.mp h)]
      by_cases htag : e.tag = tag
      · have hne : d.tag ≠ tag := fun heq ↦ h (htag.trans heq.symm)
        simp [htag, hne]
      · simpa [htag] using ih

/-- What is found for a tag stands at the place of the tag. -/
theorem get?_eq_bind (r : Registry) (tag : String) :
    r.get? tag = (r.tags.idxOf? tag).bind (r.definitions[·]?) := by
  rw [get?, List.find?_eq_bind_findIdx?_getElem?, tags, List.idxOf?, List.findIdx?_map]
  rfl

/-- In a registry whose tags are all different, every definition is found. -/
theorem mem_definitions_iff (h : r.tags.Nodup) :
    d ∈ r.definitions ↔ r.get? d.tag = some d := by
  constructor
  · intro hd
    have hsome : (r.get? d.tag).isSome := List.find?_isSome.mpr ⟨d, hd, beq_self_eq_true _⟩
    obtain ⟨e, he⟩ := Option.isSome_iff_exists.mp hsome
    have htag : e.tag = d.tag := by simpa using List.find?_some he
    rw [he, List.inj_on_of_nodup_map h (List.mem_of_find?_eq_some he) hd htag]
  · exact List.mem_of_find?_eq_some

/-! ### One definition after the other -/

/-- Of some definitions the last one for a tag. -/
def lastFor? (ds : List Definition) (tag : String) : Option Definition :=
  ds.reverse.find? fun d ↦ d.tag == tag

theorem registerAll_concat (r : Registry) (ds : List Definition) (d : Definition) :
    r.registerAll (ds ++ [d]) = (r.registerAll ds).register d := by
  rw [registerAll, List.foldl_concat, registerAll]

theorem registerAll_registerAll (r : Registry) (ds es : List Definition) :
    (r.registerAll ds).registerAll es = r.registerAll (ds ++ es) :=
  List.foldl_append.symm

private theorem eraseDups_concat (tags : List String) (tag : String) :
    (tags ++ [tag]).eraseDups =
      if tag ∈ tags then tags.eraseDups else tags.eraseDups ++ [tag] := by
  rw [List.eraseDups_append]
  by_cases h : tag ∈ tags <;> simp [List.removeAll, h, List.eraseDups_cons]

/-- The tags stand in the order in which they were first registered. -/
theorem tags_registerAll (ds : List Definition) :
    (empty.registerAll ds).tags = (ds.map (·.tag)).eraseDups := by
  induction ds using List.reverseRecOn with
  | nil => rfl
  | append_singleton ds d ih =>
    rw [registerAll_concat, tags_register, ih, List.map_append, List.map_singleton,
      eraseDups_concat]
    simp only [List.mem_eraseDups]

theorem nodup_tags_registerAll (ds : List Definition) : (empty.registerAll ds).tags.Nodup := by
  induction ds using List.reverseRecOn with
  | nil => exact List.nodup_nil
  | append_singleton ds d ih =>
    rw [registerAll_concat]
    exact nodup_tags_register ih d

/-- What is found for a tag is what was registered last for it. -/
theorem get?_registerAll (ds : List Definition) (tag : String) :
    (empty.registerAll ds).get? tag = lastFor? ds tag := by
  -- the call that comes last decides alone what is found for its tag, so it is taken off first
  induction ds using List.reverseRecOn with
  | nil => rfl
  | append_singleton ds d ih =>
    rw [registerAll_concat, get?_register, ih, lastFor?, lastFor?, List.reverse_concat]
    by_cases h : d.tag = tag <;> simp [h]

/-! ### The index -/

private theorem idxOf?_concat {tags : List String} {new : String} (h : new ∉ tags) :
    (tags ++ [new]).idxOf? tag = if tag = new then some tags.length else tags.idxOf? tag := by
  rw [List.idxOf?, List.findIdx?_append, ← List.idxOf?]
  by_cases heq : tag = new
  · rw [if_pos heq, heq, List.idxOf?_eq_none_iff.mpr h]
    simp
  · have hne : ¬(new == tag) = true := fun hbeq ↦ heq (eq_of_beq hbeq).symm
    rw [if_neg heq, List.idxOf?_singleton, if_neg hne, Option.map_none, Option.or_none]

/-- A registry that is kept with an index. -/
structure Indexed where
  /-- The definitions, in the order in which their tags came. -/
  definitions : List Definition
  /-- The places of the definitions, by their tags. -/
  index : Dict Nat

namespace Indexed

/-- The registry without definitions. -/
def empty : Indexed := ⟨[], .empty⟩

/-- With a definition, in its place if its tag is in the index, or else at the end. Fails if the
index gives a place that the list does not have. -/
def register (s : Indexed) (d : Definition) : Except Nat Indexed :=
  match s.index.get? d.tag with
  | some i =>
    if i < s.definitions.length then .ok { s with definitions := s.definitions.set i d }
    else .error i
  | none => .ok ⟨s.definitions ++ [d], s.index.insert d.tag s.definitions.length⟩

/-- With several definitions, one after the other. -/
def registerAll (s : Indexed) (ds : List Definition) : Except Nat Indexed := ds.foldlM register s

/-- The registry with the definitions of the catalog. -/
def builtin : Except Nat Indexed := empty.registerAll Catalog.definitions

/-- The definition for a tag. Fails if the index gives a place that the list does not have. -/
def get (s : Indexed) (tag : String) : Except Nat (Option Definition) :=
  match s.index.get? tag with
  | some i =>
    match s.definitions[i]? with
    | some d => .ok (some d)
    | none => .error i
  | none => .ok none

/-- Whether there is a definition for a tag. -/
def contains (s : Indexed) (tag : String) : Bool := s.index.contains tag

/-- Whether a registry with an index holds what one without holds, and its index is right. -/
structure Indexes (s : Indexed) (r : Registry) : Prop where
  /-- The definitions are the same. -/
  definitions : s.definitions = r.definitions
  /-- The index gives for a tag the first place of a definition for it, if there is one. -/
  index : ∀ tag, s.index.get? tag = r.tags.idxOf? tag

variable {s : Indexed}

theorem indexes_empty : empty.Indexes Registry.empty where
  definitions := rfl
  index _ := rfl

/-- A definition can always be registered, and the index stays right. -/
theorem Indexes.register (h : s.Indexes r) (d : Definition) :
    ∃ t, s.register d = .ok t ∧ t.Indexes (r.register d) := by
  -- the index has the tag exactly if the list has it, so both take the same of the two ways
  cases hplace : r.tags.idxOf? d.tag with
  | some i =>
    have hget : s.index.get? d.tag = some i := (h.index d.tag).trans hplace
    have hlt : i < s.definitions.length := by
      obtain ⟨hi, -⟩ := List.idxOf?_eq_some_iff.mp hplace
      rwa [tags, List.length_map, ← h.definitions] at hi
    have hmem : d.tag ∈ r.tags := List.isSome_idxOf?.mp (hplace ▸ rfl)
    refine ⟨⟨s.definitions.set i d, s.index⟩, ?_, ?_, ?_⟩
    · simp only [Indexed.register, hget, if_pos hlt]
    · rw [definitions_register, hplace, h.definitions]
    · intro tag
      rw [tags_register, if_pos hmem]
      exact h.index tag
  | none =>
    have hget : s.index.get? d.tag = none := (h.index d.tag).trans hplace
    have hnew : d.tag ∉ r.tags := List.idxOf?_eq_none_iff.mp hplace
    refine ⟨⟨s.definitions ++ [d], s.index.insert d.tag s.definitions.length⟩, ?_, ?_, ?_⟩
    · simp only [Indexed.register, hget]
    · rw [definitions_register, hplace, h.definitions]
    · intro tag
      rw [tags_register, if_neg hnew, idxOf?_concat hnew, Dict.get?_insert, h.index, tags,
        List.length_map, h.definitions]

/-- So can any number of them. -/
theorem Indexes.registerAll (h : s.Indexes r) (ds : List Definition) :
    ∃ t, s.registerAll ds = .ok t ∧ t.Indexes (r.registerAll ds) := by
  induction ds generalizing s r with
  | nil => exact ⟨s, rfl, h⟩
  | cons d ds ih =>
    obtain ⟨t, ht, hindex⟩ := h.register d
    obtain ⟨u, hu, hindex⟩ := ih hindex
    refine ⟨u, ?_, hindex⟩
    rw [Indexed.registerAll, List.foldlM_cons, ht]
    exact hu

/-- The index leads to what is found by looking through the list. -/
theorem Indexes.get_eq (h : s.Indexes r) (tag : String) : s.get tag = .ok (r.get? tag) := by
  rw [get, h.index, get?_eq_bind, h.definitions]
  cases hplace : r.tags.idxOf? tag with
  | none => rfl
  | some i =>
    obtain ⟨hi, -⟩ := List.idxOf?_eq_some_iff.mp hplace
    rw [tags, List.length_map] at hi
    simp only [List.getElem?_eq_getElem hi, Option.bind_some]

end Indexed

/-! ### What comes of it -/

private theorem idxOf?_eq_some_iff_of_nodup {tags : List String} (h : tags.Nodup) :
    tags.idxOf? tag = some i ↔ tags[i]? = some tag := by
  rw [List.idxOf?_eq_some_iff, List.getElem?_eq_some_iff]
  constructor
  · rintro ⟨hi, htag, -⟩
    exact ⟨hi, htag⟩
  · rintro ⟨hi, htag⟩
    refine ⟨hi, htag, fun j hj heq ↦ ?_⟩
    have hij : j = i := h.getElem_inj_iff.mp (heq.trans htag.symm)
    omega

/-- What holds of a registry that is kept with an index, and of the same one without, when the given
definitions have been registered one after the other. -/
structure Indexed.Keeps (s : Indexed) (r : Registry) (ds : List Definition) : Prop where
  /-- The definitions are the same. -/
  definitions : s.definitions = r.definitions
  /-- The index leads from a tag to a place exactly if a definition with this tag stands there. -/
  index : ∀ tag i, s.index.get? tag = some i ↔ (s.definitions[i]?).map (·.tag) = some tag
  /-- The tags in the index are those that have been registered. -/
  contains : ∀ tag, s.contains tag = true ↔ tag ∈ ds.map (·.tag)
  /-- No two definitions have one tag. -/
  distinct : r.tags.Nodup
  /-- What is found with the index is what is found without. -/
  get : ∀ tag, s.get tag = .ok (r.get? tag)
  /-- It is what has been registered last for the tag. -/
  last : ∀ tag, r.get? tag = lastFor? ds tag
  /-- The tags stand in the order in which they have been registered first. -/
  order : r.tags = (ds.map (·.tag)).eraseDups
  /-- There are as many definitions as different tags. -/
  size : r.size = (ds.map (·.tag)).toFinset.card
  /-- The definitions of a category stand in this order, too. -/
  sublist : ∀ c, ((r.ofCategory c).map (·.tag)).Sublist (ds.map (·.tag)).eraseDups
  /-- They are those that have been registered last for their tags with this category. -/
  category : ∀ c d, d ∈ r.ofCategory c ↔ lastFor? ds d.tag = some d ∧ d.category = c

theorem Indexed.Indexes.keeps {s : Indexed} (h : s.Indexes (Registry.empty.registerAll ds)) :
    s.Keeps (Registry.empty.registerAll ds) ds where
  definitions := h.definitions
  index tag i := by
    rw [h.index, idxOf?_eq_some_iff_of_nodup (nodup_tags_registerAll ds), h.definitions, tags,
      List.getElem?_map]
  contains tag := by
    rw [Indexed.contains, Dict.contains, h.index, List.isSome_idxOf?, tags_registerAll,
      List.mem_eraseDups]
  distinct := nodup_tags_registerAll ds
  get := h.get_eq
  last := get?_registerAll ds
  order := tags_registerAll ds
  size := by
    have htags := List.toFinset_card_of_nodup (nodup_tags_registerAll ds)
    have hsame : (Registry.empty.registerAll ds).tags.toFinset = (ds.map (·.tag)).toFinset := by
      ext tag
      rw [List.mem_toFinset, List.mem_toFinset, tags_registerAll, List.mem_eraseDups]
    rw [← hsame, htags, tags, List.length_map, Registry.size]
  sublist c := by
    rw [← tags_registerAll]
    exact List.filter_sublist.map _
  category c d := by
    rw [ofCategory, List.mem_filter, mem_definitions_iff (nodup_tags_registerAll ds),
      get?_registerAll, decide_eq_true_eq]

/-- Whatever is registered in a new registry or in the one of the catalog, the index leads from each
tag to the definition for it, which is the last one that has been registered, and the definitions
stand in the order in which their tags came first. -/
theorem keeps_registerAll (ds : List Definition) :
    (∃ s, Indexed.empty.registerAll ds = .ok s ∧ s.Keeps (empty.registerAll ds) ds) ∧
      ∃ s, (Indexed.builtin.bind fun start ↦ start.registerAll ds) = .ok s ∧
        s.Keeps (builtin.registerAll ds) (Catalog.definitions ++ ds) := by
  obtain ⟨start, hstart, hcatalog⟩ := Indexed.indexes_empty.registerAll Catalog.definitions
  obtain ⟨s, hs, hindex⟩ := Indexed.indexes_empty.registerAll ds
  obtain ⟨t, ht, hmore⟩ := hcatalog.registerAll ds
  refine ⟨⟨s, hs, hindex.keeps⟩, t, ?_, ?_⟩
  · rw [Indexed.builtin, hstart]
    exact ht
  · rw [registerAll_registerAll] at hmore
    rw [builtin, registerAll_registerAll]
    exact hmore.keeps

/-- A definition that is registered again keeps its place, also with another category. -/
example :
    let push := Catalog.trigger .triggerPush "Push" "" []
    let lint := Catalog.step .jobLint .utility "Lint" "" []
    let r := empty.registerAll [push, lint, { push with category := .utility }]
    r.tags = ["trigger-push", "job-lint"] ∧
      (r.ofCategory .utility).map (·.tag) = ["trigger-push", "job-lint"] := by decide

end Registry

end Blockflow
