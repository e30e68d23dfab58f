import Blockflow.Yaml.Reader
import Mathlib.Data.List.Basic

/-!
# Keys of mappings

Two values are the same key if one can stand for the other. What is the same as a third value by way
of a second one is the same as it, so a mapping that is put behind another one has under each key
what the first of the two has there. No mapping that was read has a key twice.
-/

namespace Blockflow.Yaml

/-! ### Numbers -/

section Numbers

open Float.Model

/-- An unpacked number without the sign of a zero. -/
private def unsigned : UnpackedFloat → UnpackedFloat
  | .zero _ => .zero .positive
  | x => x

private theorem beq_magnitude_iff {m n : Nat} {d e : Int} :
    (some ((compare d e).then (compare m n)) == some .eq || false) = true ↔ m = n ∧ d = e := by
  simp [Ordering.then_eq_eq, and_comm]

private theorem beq_swapped_iff {m n : Nat} {d e : Int} :
    (some ((compare d e).then (compare m n)).swap == some .eq || false) = true ↔
      m = n ∧ d = e := by
  simp [Ordering.swap_then, and_comm]

/-- Two unpacked numbers are the same key if they differ in nothing but the sign of a zero. -/
private theorem unsigned_eq_iff (x y : UnpackedFloat) :
    (x.beq y || (x.isNaN && y.isNaN)) = true ↔ unsigned x = unsigned y := by
  have hfinite {s : UnpackedFloat.Sign} {m n : Nat} {d e : Int} (hm : 0 < m) (hn : 0 < n) :
      unsigned (.finite s m d hm) = unsigned (.finite s n e hn) ↔ m = n ∧ d = e := by
    constructor
    · rintro ⟨⟩
      exact ⟨rfl, rfl⟩
    · rintro ⟨rfl, rfl⟩
      rfl
  rcases x with (_ | _) | _ | _ | ⟨_ | _, m, d, hm⟩ <;>
    rcases y with (_ | _) | _ | _ | ⟨_ | _, n, e, hn⟩ <;>
      first
      | exact iff_of_true rfl rfl
      | exact iff_of_false (fun h ↦ nomatch (h : false = true)) nofun
      | exact beq_magnitude_iff.trans (hfinite hm hn).symm
      | exact beq_swapped_iff.trans (hfinite hm hn).symm

theorem sameKey_real_iff {x y : Float} : sameKey (.real x) (.real y) = true ↔
    unsigned x.toModel.unpack = unsigned y.toModel.unpack := by
  rw [← unsigned_eq_iff, sameKey]
  rfl

end Numbers

/-! ### The same key -/

theorem null_sameKey_iff {b : Yaml} : sameKey .null b = true ↔ b = .null := by
  cases b with
  | null => exact iff_of_true rfl rfl
  | _ => exact iff_of_false Bool.false_ne_true (by simp)

theorem bool_sameKey_iff {x : Bool} {b : Yaml} : sameKey (.bool x) b = true ↔ b = .bool x := by
  cases b with
  | bool y =>
    rw [bool.injEq, @eq_comm _ y]
    exact beq_iff_eq
  | _ => exact iff_of_false Bool.false_ne_true (by simp)

theorem int_sameKey_iff {n : Int} {b : Yaml} : sameKey (.int n) b = true ↔ b = .int n := by
  cases b with
  | int m =>
    rw [int.injEq, @eq_comm _ m]
    exact beq_iff_eq
  | _ => exact iff_of_false Bool.false_ne_true (by simp)

theorem str_sameKey_iff {s : String} {b : Yaml} : sameKey (.str s) b = true ↔ b = .str s := by
  cases b with
  | str t =>
    rw [str.injEq, @eq_comm _ t]
    exact beq_iff_eq
  | _ => exact iff_of_false Bool.false_ne_true (by simp)

theorem real_sameKey_iff {x : Float} {b : Yaml} : sameKey (.real x) b = true ↔
    ∃ y, b = .real y ∧ unsigned x.toModel.unpack = unsigned y.toModel.unpack := by
  cases b with
  | real y => simp [sameKey_real_iff]
  | _ => exact iff_of_false Bool.false_ne_true (by simp)

theorem seq_sameKey_iff {items : List Yaml} {b : Yaml} :
    sameKey (.seq items) b = true ↔ ∃ others, b = .seq others ∧ sameItems items others = true := by
  cases b with
  | seq others =>
    simp only [seq.injEq, exists_eq_left']
    rfl
  | _ => exact iff_of_false Bool.false_ne_true (by simp)

theorem map_sameKey_iff {l : List (Yaml × Yaml)} {b : Yaml} : sameKey (.map l) b = true ↔
    ∃ m, b = .map m ∧ l.length = m.length ∧ coveredBy l m = true := by
  cases b <;> simp [sameKey]

theorem tagged_sameKey_iff {tag : String} {v b : Yaml} : sameKey (.tagged tag v) b = true ↔
    ∃ w, b = .tagged tag w ∧ sameKey v w = true := by
  cases b with
  | tagged t w => simp [sameKey, @eq_comm _ tag]
  | _ => simp [sameKey]

theorem coveredBy_iff {l m : List (Yaml × Yaml)} : coveredBy l m = true ↔
    ∀ e ∈ l, ∃ f ∈ m, sameKey e.1 f.1 = true ∧ sameKey e.2 f.2 = true := by
  induction l with
  | nil => simp [coveredBy]
  | cons e l ih =>
    obtain ⟨k, v⟩ := e
    simp only [coveredBy, Bool.and_eq_true, List.any_eq_true, ih, List.forall_mem_cons]

mutual

/-- What is the same key as a second value is the same as whatever the second one is the same
as. -/
theorem sameKey_trans : ∀ {a b c : Yaml}, sameKey a b = true → sameKey b c = true →
    sameKey a c = true
  | .null, _, _, h, h' => null_sameKey_iff.mp h ▸ h'
  | .bool _, _, _, h, h' => bool_sameKey_iff.mp h ▸ h'
  | .int _, _, _, h, h' => int_sameKey_iff.mp h ▸ h'
  | .str _, _, _, h, h' => str_sameKey_iff.mp h ▸ h'
  | .real _, _, _, h, h' => by
    obtain ⟨y, rfl, hy⟩ := real_sameKey_iff.mp h
    obtain ⟨z, rfl, hz⟩ := real_sameKey_iff.mp h'
    exact sameKey_real_iff.mpr (hy.trans hz)
  | .seq _, _, _, h, h' => by
    obtain ⟨bs, rfl, hbs⟩ := seq_sameKey_iff.mp h
    obtain ⟨cs, rfl, hcs⟩ := seq_sameKey_iff.mp h'
    exact seq_sameKey_iff.mpr ⟨cs, rfl, sameItems_trans hbs hcs⟩
  | .map _, _, _, h, h' => by
    obtain ⟨m, rfl, hlength, hm⟩ := map_sameKey_iff.mp h
    obtain ⟨n, rfl, hlength', hn⟩ := map_sameKey_iff.mp h'
    exact map_sameKey_iff.mpr ⟨n, rfl, hlength.trans hlength', coveredBy_trans hm hn⟩
  | .tagged _ _, _, _, h, h' => by
    obtain ⟨v, rfl, hv⟩ := tagged_sameKey_iff.mp h
    obtain ⟨w, rfl, hw⟩ := tagged_sameKey_iff.mp h'
    exact tagged_sameKey_iff.mpr ⟨w, rfl, sameKey_trans hv hw⟩

private theorem sameItems_trans : ∀ {as bs cs : List Yaml}, sameItems as bs = true →
    sameItems bs cs = true → sameItems as cs = true
  | [], [], [], _, _ => by simp only [sameItems]
  | _ :: _, _ :: _, _ :: _, h, h' => by
    simp only [sameItems, Bool.and_eq_true] at h h' ⊢
    exact ⟨sameKey_trans h.1 h'.1, sameItems_trans h.2 h'.2⟩
  | [], _ :: _, _, h, _ | _ :: _, [], _, h, _ => by simp [sameItems] at h
  | [], [], _ :: _, _, h | _ :: _, _ :: _, [], _, h => by simp [sameItems] at h

private theorem coveredBy_trans : ∀ {l m n : List (Yaml × Yaml)}, coveredBy l m = true →
    coveredBy m n = true → coveredBy l n = true
  | [], _, _, _, _ => by simp only [coveredBy]
  | (k, v) :: l, m, n, h, h' => by
    simp only [coveredBy, Bool.and_eq_true, List.any_eq_true] at h ⊢
    obtain ⟨e, he, hk, hv⟩ := h.1
    obtain ⟨f, hf, hk', hv'⟩ := coveredBy_iff.mp h' e he
    exact ⟨⟨f, hf, sameKey_trans hk hk', sameKey_trans hv hv'⟩, coveredBy_trans h.2 h'⟩

end

/-! ### What stands under a key -/

variable {key v : Yaml} {l m : List (Yaml × Yaml)}

theorem lookup_append : lookup key (l ++ m) = (lookup key l).or (lookup key m) := by
  rw [lookup, List.find?_append, Option.map_or, lookup, lookup]

theorem lookup_cons {e : Yaml × Yaml} :
    lookup key (e :: l) = if sameKey key e.1 then some e.2 else lookup key l := by
  rw [lookup, List.find?_cons, lookup]
  split <;> simp_all

theorem isSome_lookup_iff : (lookup key l).isSome ↔ ∃ e ∈ l, sameKey key e.1 = true := by
  rw [lookup, Option.isSome_map, List.find?_isSome]

/-- Whether no later entry has the key of an earlier one. -/
def KeysApart (l : List (Yaml × Yaml)) : Prop := l.Pairwise fun e f ↦ sameKey f.1 e.1 = false

/-- The entries of a mapping with those of another one behind them, without the keys that are
there. -/
def joined (l m : List (Yaml × Yaml)) : List (Yaml × Yaml) :=
  m.foldl (fun l e ↦ if (lookup e.1 l).isSome then l else l ++ [e]) l

/-- Two mappings together have under each key what the first of the two has there. -/
theorem lookup_joined : lookup key (joined l m) = (lookup key l).or (lookup key m) := by
  induction m generalizing l with
  | nil => simp [joined, lookup]
  | cons e m ih =>
    rw [joined, List.foldl_cons, ← joined, ih, lookup_cons]
    by_cases hthere : (lookup e.1 l).isSome
    · rw [if_pos hthere]
      split
      · next hkey =>
        -- whoever has the key of `e` has one that is there
        obtain ⟨f, hf, hsame⟩ := isSome_lookup_iff.mp hthere
        have hsome := isSome_lookup_iff.mpr ⟨f, hf, sameKey_trans hkey hsame⟩
        obtain ⟨v, hv⟩ := Option.isSome_iff_exists.mp hsome
        rw [hv, Option.some_or, Option.some_or]
      · rfl
    · rw [if_neg hthere, lookup_append, lookup_cons, Option.or_assoc]
      split <;> simp [lookup]

theorem KeysApart.joined (h : KeysApart l) : KeysApart (joined l m) := by
  induction m generalizing l with
  | nil => exact h
  | cons e m ih =>
    rw [Yaml.joined, List.foldl_cons]
    split
    · exact ih h
    · next hthere =>
      refine ih (List.pairwise_append.mpr ⟨h, List.pairwise_singleton _ _, ?_⟩)
      intro f hf g hg
      obtain rfl := List.mem_singleton.mp hg
      by_contra hsame
      exact hthere (isSome_lookup_iff.mpr ⟨f, hf, by simpa using hsame⟩)

/-! ### What was read -/

theorem entries?_of_ofPlain? {s : String} (h : ofPlain? s = some v) : v.entries? = none := by
  unfold ofPlain? at h
  split at h
  · cases h
    rfl
  · split at h
    · cases h
      rfl
    · simp only at h
      split at h
      · split at h <;> cases h
        rfl
      · split at h
        · cases h
          rfl
        · split at h <;> cases h <;> rfl

theorem entries?_of_ofCoreTag? {tag s : String} (h : ofCoreTag? tag s = some (some v)) :
    v.entries? = none := by
  unfold ofCoreTag? at h
  split at h
  · obtain ⟨b, -, rfl⟩ := Option.map_eq_some_iff.mp (Option.some.inj h)
    rfl
  · obtain ⟨n, -, hn⟩ := Option.bind_eq_some_iff.mp (Option.some.inj h)
    split at hn <;> cases hn
    rfl
  · obtain ⟨x, -, rfl⟩ := Option.map_eq_some_iff.mp (Option.some.inj h)
    rfl
  · split at h <;> cases h
    rfl
  · cases h

/-- No scalar stands for a mapping. -/
theorem entries?_of_ofScalar? {s : String} {plain : Bool} {tag : Option String}
    (h : ofScalar? s plain tag = some v) : v.entries? = none := by
  have huntagged {w : Yaml} (hw : (if plain then ofPlain? s else some (.str s)) = some w) :
      w.entries? = none := by
    split at hw
    · exact entries?_of_ofPlain? hw
    · cases hw
      rfl
  unfold ofScalar? at h
  split at h
  · obtain ⟨w, -, rfl⟩ := Option.map_eq_some_iff.mp h
    rfl
  · split at h
    · next tag _ =>
      cases hcore : ofCoreTag? tag s with
      | none =>
        rw [hcore] at h
        cases h
        rfl
      | some core =>
        rw [hcore, Option.getD_some] at h
        exact entries?_of_ofCoreTag? (h ▸ hcore)
    · exact huntagged h

private theorem keysApart_of_go {seen : List Yaml} (h : distinct?.go seen l = true) :
    KeysApart l ∧ ∀ e ∈ l, ∀ k ∈ seen, sameKey e.1 k = false := by
  induction l generalizing seen with
  | nil => exact ⟨.nil, nofun⟩
  | cons e l ih =>
    obtain ⟨k, v⟩ := e
    simp only [distinct?.go, Bool.and_eq_true, Bool.not_eq_true', List.any_eq_false,
      Bool.not_eq_true] at h
    obtain ⟨hapart, hseen⟩ := ih h.2
    refine ⟨List.pairwise_cons.mpr ⟨fun f hf ↦ hseen f hf k List.mem_cons_self, hapart⟩, ?_⟩
    refine List.forall_mem_cons.mpr ⟨h.1, fun f hf k hk ↦ ?_⟩
    exact hseen f hf k (List.mem_cons_of_mem _ hk)

theorem keysApart_of_distinct? (h : distinct? l = some m) : l = m ∧ KeysApart m := by
  unfold distinct? at h
  split at h
  · next hgo =>
    obtain rfl := Option.some.inj h
    exact ⟨rfl, (keysApart_of_go hgo).1⟩
  · cases h

theorem entries?_withTag {tag : Option String} (h : (withTag tag v).entries? = some l) :
    v.entries? = some l := by
  unfold withTag at h
  split at h
  · cases h
  · exact h

private theorem keysApart_of_ofMeant? {inner? : Option (Node → Resolver Yaml)} {node : Node}
    {s t : Nat} (h : (ofMeant? inner? node).run s = some (v, t)) (hv : v.entries? = some l) :
    KeysApart l := by
  cases node with
  | scalar text plain tag spot =>
    simp only [ofMeant?, StateT.run_lift, Option.bind_eq_bind, Option.bind_eq_some_iff] at h
    obtain ⟨w, hw, heq⟩ := h
    cases heq
    rw [entries?_of_ofScalar? hw] at hv
    cases hv
  | seq items tag spot =>
    simp only [ofMeant?, StateT.run_bind, StateT.run_pure, Option.bind_eq_bind,
      Option.bind_eq_some_iff] at h
    obtain ⟨inner, -, read, -, heq⟩ := h
    cases heq
    cases entries?_withTag hv
  | map entries tag spot =>
    simp only [ofMeant?, StateT.run_bind, StateT.run_lift, StateT.run_pure, Option.bind_eq_bind,
      Option.bind_eq_some_iff] at h
    obtain ⟨inner, -, read, -, kept, ⟨m, hm, hkept⟩, heq⟩ := h
    cases hkept
    cases heq
    obtain rfl := Option.some.inj (entries?_withTag hv)
    exact (keysApart_of_distinct? hm).2
  | _ => cases h

private theorem keysApart_of_ofNode? {table : List (Nat × Node)} {limit depth s t : Nat}
    {node : Node} (h : (ofNode? table limit depth node).run s = some (v, t))
    (hv : v.entries? = some l) : KeysApart l := by
  cases depth <;>
    · simp only [ofNode?, StateT.run_bind, Option.bind_eq_bind, Option.bind_eq_some_iff] at h
      obtain ⟨found, -, hread⟩ := h
      exact keysApart_of_ofMeant? hread hv

/-- No mapping that was read has a key twice. -/
theorem keysApart_of_read? {s : String} (h : read? s = some (.map l)) : KeysApart l := by
  simp only [read?, Option.bind_eq_bind, Option.bind_eq_some_iff] at h
  obtain ⟨tokens, -, root, -, hnode⟩ := h
  rw [StateT.run'_eq, Option.map_eq_map, Option.map_eq_some_iff] at hnode
  obtain ⟨⟨v, followed⟩, hread, rfl⟩ := hnode
  exact keysApart_of_ofNode? hread rfl

end Blockflow.Yaml
