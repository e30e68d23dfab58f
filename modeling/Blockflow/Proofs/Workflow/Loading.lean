import Blockflow.Block.Catalog
import Blockflow.Workflow.Editor
import Blockflow.Proofs.Json.Canonical
import Blockflow.Proofs.Json.Record
import Mathlib.Data.List.Nodup

/-!
# Stored workflows

The written form of a workflow keeps everything: whatever settings and labels its blocks have, and
wherever its connections lead, reading gives the same workflow again. Whether it may be loaded is up
to its blocks: each has to be of a known type and to have an id that no block before it has. The
first one that does not is what the load fails with.
-/

namespace Blockflow

open Json RecordReader

/-! ### What is written is read again -/

theorem Position.ofJson?_toJson {p : Position} (hx : p.x.isFinite = true)
    (hy : p.y.isFinite = true) : ofJson? p.toJson = some p :=
  record?_obj <| .bind (.required rfl (real?_ofFloat hx)) <|
    .bind (.required rfl (real?_ofFloat hy)) <| .pure p

theorem Connection.ofJson?_toJson (c : Connection) : ofJson? c.toJson = some c :=
  record?_obj <| .bind (.required rfl rfl) <| .bind (.required rfl rfl) <|
    .bind (.required rfl rfl) <| .bind (.required rfl rfl) <| .bind (.required rfl rfl) <| .pure c

/-- Whether a block can be stored: its place is one that can be written, and its settings are maps
all the way down. -/
structure Block.IsStorable (b : Block) : Prop where
  /-- The horizontal coordinate is finite. -/
  x : b.position.x.isFinite = true
  /-- The vertical coordinate is finite. -/
  y : b.position.y.isFinite = true
  /-- Every object in the settings lists its members in ascending order, as a map has them. -/
  config : ∀ e ∈ b.config.entries, e.2.IsCanonical

/-- A block that can be stored is read again as it is; a label without letters is still a label. -/
theorem Block.ofJson?_toJson {b : Block} (h : b.IsStorable) : ofJson? b.toJson = some b := by
  obtain ⟨id, tag, position, config, label⟩ := b
  have hposition : Position.ofJson? position.toJson = some position :=
    Position.ofJson?_toJson h.x h.y
  have hconfig : dict? (.obj config.entries) = some config := dict?_obj_entries h.config
  refine record?_obj <| .bind (.required (j := .str id) ?_ rfl) <|
    .bind (.required (j := .str tag) ?_ rfl) <| .bind (.defaulted ?_ hposition) <|
    .bind (.defaulted ?_ hconfig) <| .bind (.optional (f := .str) ?_ fun _ ↦ rfl) <| .pure _
  all_goals cases label <;> rfl

/-- The settings of a block that was read can be stored. -/
theorem Block.isCanonical_of_ofJson? {b : Block} {j : Json} (h : ofJson? j = some b) :
    ∀ e ∈ b.config.entries, e.2.IsCanonical := by
  obtain ⟨parts, rest, hrun⟩ := exists_run_of_record? h
  simp only [StateT.run_bind, Option.bind_eq_bind, Option.bind_eq_some_iff, StateT.run_pure,
    Option.pure_def, Option.some.injEq, Prod.mk.injEq] at hrun
  obtain ⟨_, -, _, -, _, -, ⟨config, _⟩, hconfig, _, -, rfl, -⟩ := hrun
  rcases of_defaulted hconfig with rfl | ⟨_, hdict⟩
  · exact nofun
  · exact isCanonical_of_dict? hdict

namespace Workflow

variable {w : Workflow} {r : Registry} {blocks : List Block} {why : EditError}

/-- A workflow whose blocks can be stored is read again as it is. -/
theorem ofJson?_toJson (h : ∀ b ∈ w.blocks, b.IsStorable) : ofJson? w.toJson = some w :=
  have hblocks : list? Block.ofJson? (ofList Block.toJson w.blocks) = some w.blocks :=
    list?_ofList fun b hb ↦ Block.ofJson?_toJson (h b hb)
  have hconnections : list? Connection.ofJson? (ofList Connection.toJson w.connections) =
      some w.connections :=
    list?_ofList fun c _ ↦ Connection.ofJson?_toJson c
  record?_obj <| .bind (.required rfl rfl) <| .bind (.required rfl rfl) <|
    .bind (.defaulted rfl rfl) <| .bind (.defaulted rfl hblocks) <|
    .bind (.defaulted rfl hconnections) <| .pure w

/-- The settings of the blocks of a loaded workflow can be stored. -/
theorem isCanonical_of_load {j : Json} (h : load r j = .ok w) :
    ∀ b ∈ w.blocks, ∀ e ∈ b.config.entries, e.2.IsCanonical := by
  have hread : ofJson? j = some w := by
    rw [load] at h
    split at h
    · cases h
    · next read hread =>
      cases hcheck : checkBlocks r [] read.blocks with
      | error => simp [hcheck, Except.map] at h
      | ok =>
        rw [hcheck, Except.map, Except.ok.injEq] at h
        exact h ▸ hread
  obtain ⟨parts, rest, hrun⟩ := exists_run_of_record? hread
  simp only [StateT.run_bind, Option.bind_eq_bind, Option.bind_eq_some_iff, StateT.run_pure,
    Option.pure_def, Option.some.injEq, Prod.mk.injEq] at hrun
  obtain ⟨_, -, _, -, _, -, ⟨blocks, _⟩, hblocks, _, -, rfl, -⟩ := hrun
  rcases of_defaulted hblocks with rfl | ⟨_, hlist⟩
  · exact nofun
  · intro b hb
    obtain ⟨_, hblock⟩ := exists_of_mem_list? hlist b hb
    exact Block.isCanonical_of_ofJson? hblock

/-! ### Which blocks are refused -/

/-- Whether blocks can be loaded together. -/
structure Loadable (r : Registry) (blocks : List Block) : Prop where
  /-- Every block is of a known type. -/
  known : ∀ b ∈ blocks, r.contains b.tag = true
  /-- No two blocks have the same id. -/
  distinct : (blocks.map (·.id)).Nodup

/-- Why a block is refused after the given ones. An unknown type is found first. -/
inductive Refused (r : Registry) (before : List Block) (b : Block) : EditError → Prop where
  /-- Nothing is known of the type of the block. -/
  | unknown (h : r.contains b.tag = false) : Refused r before b (.unknownBlockType b.tag)
  /-- Its type is known, but a block before it has its id. -/
  | repeated (hknown : r.contains b.tag = true) (h : b.id ∈ before.map (·.id)) :
    Refused r before b (.duplicateBlockId b.id)

/-- Why the first block that is refused is: all blocks before it can be loaded. -/
def FirstRefused (r : Registry) (blocks : List Block) (why : EditError) : Prop :=
  ∃ before b after, blocks = before ++ b :: after ∧ Loadable r before ∧ Refused r before b why

/-- Blocks can be loaded together, or one of them is the first one that is refused. -/
theorem exists_firstRefused (h : ¬Loadable r blocks) : ∃ why, FirstRefused r blocks why := by
  induction blocks using List.reverseRecOn with
  | nil => exact absurd ⟨by simp, by simp⟩ h
  | append_singleton before b ih =>
    by_cases hbefore : Loadable r before
    · by_cases hknown : r.contains b.tag = true
      · by_cases hid : b.id ∈ before.map (·.id)
        · exact ⟨_, before, b, [], rfl, hbefore, .repeated hknown hid⟩
        · refine absurd ⟨?_, ?_⟩ h
          · simpa [or_imp, forall_and, hknown] using hbefore.known
          · rw [List.map_append, List.map_singleton, List.nodup_append_comm]
            exact List.nodup_cons.mpr ⟨hid, hbefore.distinct⟩
      · exact ⟨_, before, b, [], rfl, hbefore, .unknown (by simpa using hknown)⟩
    · obtain ⟨why, first, c, after, rfl, hc⟩ := ih hbefore
      exact ⟨why, first, c, after ++ [b], by simp, hc⟩

/-- Blocks that can be loaded together are passed, wherever their ids are new. -/
theorem checkBlocks_append {seen : List String} {before : List Block} (h : Loadable r before)
    (hseen : ∀ b ∈ before, b.id ∉ seen) (after : List Block) :
    checkBlocks r seen (before ++ after) =
      checkBlocks r ((before.map (·.id)).reverse ++ seen) after := by
  induction before generalizing seen with
  | nil => rfl
  | cons b before ih =>
    obtain ⟨hb, hrest⟩ := List.forall_mem_cons.mp h.known
    obtain ⟨hid, hdistinct⟩ := List.nodup_cons.mp h.distinct
    obtain ⟨hnew, hnews⟩ := List.forall_mem_cons.mp hseen
    have hunseen : ∀ c ∈ before, c.id ∉ b.id :: seen := by
      intro c hc hmem
      rcases List.mem_cons.mp hmem with heq | hmem
      · exact hid (List.mem_map.mpr ⟨c, hc, heq⟩)
      · exact hnews c hc hmem
    simp [checkBlocks, hb, hnew, ih ⟨hrest, hdistinct⟩ hunseen]

theorem checkBlocks_of_loadable (h : Loadable r blocks) : checkBlocks r [] blocks = .ok () := by
  rw [← List.append_nil blocks, checkBlocks_append h (by simp), checkBlocks]

theorem checkBlocks_of_firstRefused (h : FirstRefused r blocks why) :
    checkBlocks r [] blocks = .error why := by
  obtain ⟨before, b, after, rfl, hbefore, hb⟩ := h
  rw [checkBlocks_append hbefore (by simp)]
  cases hb with
  | unknown hb => simp [checkBlocks, hb]
  | repeated hknown hid =>
    obtain ⟨c, hc, heq⟩ := List.mem_map.mp hid
    simp [checkBlocks, hknown, show ∃ c ∈ before, c.id = b.id from ⟨c, hc, heq⟩]

/-! ### Loading -/

/-- A stored workflow is loaded as it was, whatever its labels, settings and connections, if its
blocks are of known types and have different ids. Otherwise it is the first block of an unknown type
or with the id of one before it that the load fails with. -/
theorem load_toJson (w : Workflow) (r : Registry) (h : ∀ b ∈ w.blocks, b.IsStorable) :
    (Loadable r w.blocks → load r w.toJson = .ok w) ∧
      (¬Loadable r w.blocks →
        ∃ why, FirstRefused r w.blocks why ∧ load r w.toJson = .error why) := by
  have hload : load r w.toJson = (checkBlocks r [] w.blocks).map fun _ ↦ w := by
    rw [load, ofJson?_toJson h]
  refine ⟨fun hloadable ↦ ?_, fun hnot ↦ ?_⟩
  · rw [hload, checkBlocks_of_loadable hloadable, Except.map]
  · obtain ⟨why, hfirst⟩ := exists_firstRefused hnot
    exact ⟨why, hfirst, by rw [hload, checkBlocks_of_firstRefused hfirst, Except.map]⟩

/-- A workflow with settings within settings, a label without letters and a connection that leads
nowhere; its second block has the given id and tag. -/
private def storedWith (id tag : String) : Workflow where
  id := "wf"
  name := "CI"
  description := "Nightly"
  blocks := [⟨"a", Kind.jobBuild.tag, ⟨-0, 1.5⟩,
      .ofList [("env", .arr [.obj [("k", .null)], .null]), ("command", .str "make")], some ""⟩,
    ⟨id, tag, .origin, .empty, none⟩]
  connections := [⟨"1", "a", "out", "nowhere", "in"⟩]

private theorem isStorable_storedWith (id tag : String) :
    ∀ b ∈ (storedWith id tag).blocks, b.IsStorable := by
  have hzero : (0 : Float).isFinite = true := by decide +kernel
  refine List.forall_mem_cons.mpr ⟨⟨by decide +kernel, by decide +kernel, ?_⟩,
    List.forall_mem_singleton.mpr ⟨hzero, hzero, nofun⟩⟩
  exact isCanonical_of_dict? (j := .obj
    [("env", .arr [.obj [("k", .null)], .null]), ("command", .str "make")]) rfl

theorem load_toJson_storedWith :
    (load .builtin (storedWith "b" "job-test").toJson = .ok (storedWith "b" "job-test")) ∧
      (∃ why, FirstRefused .builtin (storedWith "a" "job-test").blocks why ∧
        load .builtin (storedWith "a" "job-test").toJson = .error why) ∧
      load .builtin (storedWith "a" "job-dance").toJson =
        .error (.unknownBlockType "job-dance") :=
  have hok : Loadable .builtin (storedWith "b" "job-test").blocks := ⟨by decide +kernel, by decide⟩
  have hnot : ¬Loadable .builtin (storedWith "a" "job-test").blocks :=
    fun h ↦ absurd h.distinct (by decide)
  ⟨(load_toJson _ _ (isStorable_storedWith _ _)).1 hok,
    (load_toJson _ _ (isStorable_storedWith _ _)).2 hnot, by decide +kernel⟩

end Workflow

end Blockflow
