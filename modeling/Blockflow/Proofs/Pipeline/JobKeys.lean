import Blockflow.Proofs.Pipeline.NameMap
import Mathlib.Data.List.Induction

/-!
# Keys of jobs

A job is keyed by the tag and the id of its opener, with an underscore for every character that no
key may hold. So ids that differ may ask for the same key, and an id may ask for what is a numbered
form of another key. Whatever the ids are, the search for a free key ends for every job, the keys of
all jobs are different and well-formed, and the name map leads from the keys of the jobs that
control blocks open to these blocks, and from no other key to a block.
-/

namespace Blockflow

namespace Plan

variable {key : String} {b : Block} {g : StepGraph} {r : Registry} {jobs : List PlannedJob}

/-! ### Well-formed keys -/

/-- Whether a text is well-formed as the key of a job. -/
structure IsKey (key : String) : Prop where
  /-- It starts with an ASCII letter or an underscore. -/
  start : ∃ c cs, key.toList = c :: cs ∧ (c.isAlpha = true ∨ c = '_')
  /-- It holds only ASCII letters, digits, dashes and underscores. -/
  chars : ∀ c ∈ key.toList, c.isAlphanum = true ∨ c = '-' ∨ c = '_'

/-- What is left of a text once the characters that no key may hold are replaced. -/
private theorem chars_replaced (cs : List Char) :
    ∀ c ∈ cs.map fun c ↦ if Block.isKeyChar c then c else '_',
      c.isAlphanum = true ∨ c = '-' ∨ c = '_' := by
  intro c hc
  obtain ⟨d, -, rfl⟩ := List.mem_map.mp hc
  split
  · next hd => simpa [Block.isKeyChar, or_assoc] using hd
  · exact .inr (.inr rfl)

/-- The key of a job is well-formed, whatever the tag and the id of its opener hold. -/
theorem isKey_jobKey (b : Block) : IsKey b.jobKey := by
  have hchars := chars_replaced (b.tag ++ "-" ++ b.id).toList
  simp only [Block.jobKey, Block.keyOf]
  split
  · next hstart =>
    rw [Option.any_eq_true] at hstart
    obtain ⟨c, hc, hletter⟩ := hstart
    obtain ⟨cs, hcs⟩ := List.head?_eq_some_iff.mp hc
    constructor
    · refine ⟨c, cs, String.toList_ofList.trans hcs, ?_⟩
      simpa [Block.isKeyStart] using hletter
    · rwa [String.toList_ofList]
  · constructor
    · exact ⟨'_', _, String.toList_ofList, .inr rfl⟩
    · rw [String.toList_ofList, List.forall_mem_cons]
      exact ⟨.inr (.inr rfl), hchars⟩

private theorem isDigit_of_mem_toString {n : Nat} {c : Char} (hc : c ∈ (toString n).toList) :
    c.isDigit = true := by
  rw [Nat.toString_eq_repr, Nat.repr_eq_ofList_toDigits, String.toList_ofList] at hc
  exact Nat.isDigit_of_mem_toDigits (by decide) (by decide) hc

/-- So are its numbered forms. -/
theorem IsKey.numbered (h : IsKey key) (n : Nat) : IsKey (key ++ "-" ++ toString n) := by
  have hlist : (key ++ "-" ++ toString n).toList = key.toList ++ '-' :: (toString n).toList := by
    simp
  obtain ⟨⟨c, cs, hkey, hc⟩, hchars⟩ := h
  constructor
  · exact ⟨c, cs ++ '-' :: (toString n).toList, by rw [hlist, hkey, List.cons_append], hc⟩
  · intro d hd
    rw [hlist, List.mem_append, List.mem_cons] at hd
    rcases hd with hd | rfl | hd
    · exact hchars d hd
    · exact .inr (.inl rfl)
    · left
      rw [Char.isAlphanum, isDigit_of_mem_toString hd, Bool.or_true]

private theorem IsKey.numberedKey (h : IsKey key) (taken : List String) (fuel n : Nat) :
    IsKey (numberedKey taken key fuel n) := by
  induction fuel generalizing n with
  | zero => exact h.numbered n
  | succ fuel ih =>
    simp only [Plan.numberedKey]
    split
    · exact ih (n + 1)
    · exact h.numbered n

theorem IsKey.freeKey (h : IsKey key) (taken : List String) : IsKey (freeKey taken key) := by
  rw [Plan.freeKey]
  split
  · exact h.numberedKey taken _ _
  · exact h

/-! ### One key after the other -/

/-- Whether each job has the key that is free after the jobs before it. The jobs are given by their
keys and their openers. -/
def KeyedInTurn (entries : List (String × Block)) : Prop :=
  ∀ earlier e later, entries = earlier ++ e :: later →
    e.1 = freeKey (earlier.map (·.1)) e.2.jobKey

theorem keyedInTurn_nil : KeyedInTurn [] := by
  intro earlier e later h
  simp at h

theorem KeyedInTurn.concat {entries : List (String × Block)} (h : KeyedInTurn entries)
    (b : Block) : KeyedInTurn (entries ++ [(freeKey (entries.map (·.1)) b.jobKey, b)]) := by
  intro earlier e later hsplit
  rcases List.eq_nil_or_concat later with rfl | ⟨later, last, rfl⟩
  · obtain ⟨rfl, hlast⟩ := List.append_inj' hsplit rfl
    rw [← List.singleton_inj.mp hlast]
  · rw [List.concat_eq_append, ← List.cons_append, ← List.append_assoc] at hsplit
    exact h earlier e later (List.append_inj' hsplit rfl).1

/-- Jobs by their keys and their openers. -/
private def keyed (jobs : List PlannedJob) : List (String × Block) :=
  jobs.map fun j ↦ (j.key, j.opener)

/-- One more block leaves the keys of all jobs as they are, and opens a job at the end or none. -/
private theorem keyed_place (g : StepGraph) (r : Registry) (jobs : List PlannedJob) (b : Block) :
    keyed (place g r jobs b) = keyed jobs ∨
      keyed (place g r jobs b) =
        keyed jobs ++ [(freeKey ((keyed jobs).map (·.1)) b.jobKey, b)] := by
  have hopened : keyed (jobs ++ [opened g jobs b]) =
      keyed jobs ++ [(freeKey ((keyed jobs).map (·.1)) b.jobKey, b)] := by
    rw [keyed, keyed, List.map_append, List.map_map]
    rfl
  rw [place]
  split
  · split
    · left
      apply Workflow.map_changeFirst
      exact fun _ ↦ rfl
    · exact .inr hopened
  · exact .inr hopened

private theorem keyedInTurn_ofOrder (g : StepGraph) (r : Registry) (blocks : List Block) :
    KeyedInTurn (keyed (ofOrder g r blocks)) := by
  -- the blocks are placed from the first one on, so the induction takes off the last one
  induction blocks using List.reverseRecOn with
  | nil => exact keyedInTurn_nil
  | append_singleton done b ih =>
    rw [ofOrder, List.foldl_append]
    rcases keyed_place g r (ofOrder g r done) b with hsame | hmore
    · exact hsame ▸ ih
    · exact hmore ▸ ih.concat b

end Plan

namespace Workflow

open Plan

variable {w : Workflow} {r : Registry} {p : Pipeline} {d : Document} {j : PlannedJob}

/-- A job has the first key that is free after the jobs before it. -/
theorem key_eq_freeKey {earlier later : List PlannedJob}
    (hsplit : w.plan r = earlier ++ j :: later) :
    j.key = freeKey (earlier.map (·.key)) j.opener.jobKey := by
  have hturn := keyedInTurn_ofOrder (StepGraph.ofWorkflow w r) r (w.orderedSteps r)
  rw [← plan, hsplit, keyed, List.map_append, List.map_cons] at hturn
  have hkey := hturn _ _ _ rfl
  rwa [List.map_map] at hkey

theorem isKey_of_mem_plan (hj : j ∈ w.plan r) : IsKey j.key := by
  obtain ⟨earlier, later, hsplit⟩ := List.append_of_mem hj
  rw [key_eq_freeKey hsplit]
  exact (isKey_jobKey j.opener).freeKey _

/-- What holds of the keys of the jobs in a document and in its name map. -/
structure WellKeyed (w : Workflow) (r : Registry) (d : Document) (names : NameMap) : Prop where
  /-- The jobs stand under the keys that they have been planned with. -/
  emitted : List.Forall₂ (Compile.Emits r) (w.plan r) d.jobs
  /-- No two jobs share a key. -/
  distinct : (d.jobs.map (·.1)).Nodup
  /-- All keys are well-formed. -/
  wellFormed : ∀ entry ∈ d.jobs, IsKey entry.1
  /-- The search for a key that no earlier job has ends for every job, with its key. -/
  found : ∀ earlier j later, w.plan r = earlier ++ j :: later → ∀ key,
    Finds (earlier.map (·.key)) j.opener.jobKey j.opener.jobKey 2 key ↔ key = j.key
  /-- No two jobs have openers of the same id. -/
  openers : ((w.plan r).map (·.opener.id)).Nodup
  /-- The name map holds the keys of the jobs that control blocks open, and no others. -/
  named : ∀ key id, names.jobs.get? key = some id ↔
    ∃ j ∈ w.plan r, r.category? j.opener.tag = some .control ∧ j.key = key ∧ j.opener.id = id
  /-- The key of such a job leads to its opener. -/
  resolved : ∀ j ∈ w.plan r, r.category? j.opener.tag = some .control →
    names.job? j.key = some j.opener.id

private theorem nodup_opener_id (ha : (StepGraph.ofWorkflow w r).Acyclic) :
    ((w.plan r).map (·.opener.id)).Nodup := by
  apply List.Nodup.map_on _ (isPlanOf_plan ha).nodup
  intro i hi j hj hid
  exact eq_of_opener_id_eq ha hi hj hid

/-- The jobs of a compiled workflow are well keyed, whatever ids its blocks have. -/
theorem wellKeyed_of_compile (w : Workflow) (r : Registry) (p : Pipeline)
    (hp : w.compile r = .ok p) : ∃ d, w.document? r = some (d, p.names) ∧
      d.toYaml.text? = some p.text ∧ w.WellKeyed r d p.names := by
  obtain ⟨-, d, hdoc, htext⟩ := compile_eq_ok_iff.mp hp
  have ha := acyclic_of_compile hp
  have hemits := document?_emits hdoc
  have hkeys := Compile.map_key_of_emits hemits
  have hnamed (key id : String) : p.names.jobs.get? key = some id ↔
      ∃ j ∈ w.plan r, r.category? j.opener.tag = some .control ∧ j.key = key ∧
        j.opener.id = id := by
    simpa only [Compile.isControlled, decide_eq_true_eq] using jobs_get?_iff hp
  refine ⟨d, hdoc, htext, hemits, ?_, ?_, ?_, nodup_opener_id ha, hnamed, ?_⟩
  · rw [hkeys]
    exact (isPlanOf_plan ha).keys
  · intro entry hentry
    have hkey : entry.1 ∈ (w.plan r).map (·.key) := hkeys ▸ List.mem_map_of_mem hentry
    obtain ⟨j, hj, heq⟩ := List.mem_map.mp hkey
    rw [← heq]
    exact isKey_of_mem_plan hj
  · intro earlier j later hsplit key
    rw [finds_iff, key_eq_freeKey hsplit]
  · intro j hj hcontrol
    rw [NameMap.job?, (hnamed j.key j.opener.id).mpr ⟨j, hj, hcontrol, rfl, rfl⟩]

/-- A trigger with blocks behind it that wait, under the given ids. -/
private def waits (ids : List String) : Workflow where
  id := "wf"
  name := "CI"
  description := ""
  blocks := ⟨"t", Kind.triggerPush.tag, .origin, .empty, none⟩ ::
    ids.map fun id ↦ ⟨id, Kind.controlWait.tag, .origin, .empty, none⟩
  connections := ids.map fun id ↦ ⟨id, "t", "out", id, "in"⟩

/-- Three ids that ask for one key, and a fourth one that asks for a numbered form of it. -/
theorem wellKeyed_waits : ∃ p d, (waits ["a b", "a.b", "a_b", "a_b-2"]).compile .builtin = .ok p ∧
    (waits ["a b", "a.b", "a_b", "a_b-2"]).WellKeyed .builtin d p.names ∧
    d.jobs.map (·.1) = ["control-wait-a_b", "control-wait-a_b-2", "control-wait-a_b-3",
      "control-wait-a_b-2-2"] := by
  have hok : ((waits ["a b", "a.b", "a_b", "a_b-2"]).compile .builtin).isOk = true := by
    decide +kernel
  obtain ⟨p, hp⟩ := exists_compile_eq_ok hok
  obtain ⟨d, hdoc, -, hkeyed⟩ := wellKeyed_of_compile _ .builtin p hp
  have hjobs : ((waits ["a b", "a.b", "a_b", "a_b-2"]).document? .builtin).map
      (·.1.jobs.map (·.1)) = some ["control-wait-a_b", "control-wait-a_b-2", "control-wait-a_b-3",
        "control-wait-a_b-2-2"] := by
    decide +kernel
  rw [hdoc, Option.map_some, Option.some.injEq] at hjobs
  exact ⟨p, d, hp, hkeyed, hjobs⟩

end Workflow

end Blockflow
