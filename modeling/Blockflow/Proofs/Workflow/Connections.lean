import Blockflow.Proofs.Workflow.Coherence
import Blockflow.Proofs.Workflow.Findings
import Blockflow.Proofs.Workflow.First
import Mathlib.Data.List.Dedup

/-!
# What is reported of connections

A connection is reported for what is wrong with it alone, whatever other connections there are. An
input is reported once if more connections enter it than it takes, in whatever order these come and
whatever other connections come between them: the running count of connections comes to the limit
exactly once, if it does at all.
-/

namespace Blockflow

open Blockflow.Graph

namespace Workflow

/-- What is reported of the ports of a connection from one block to another one: a port that its
block does not have, and ports that are there and do not fit. -/
def portFaults (c : Connection) (s t : Block) (source target : Definition) : List Problem :=
  (if ∃ p ∈ source.outputs, p.id = c.sourcePort then []
    else [⟨none, some c.id, .missingPort,
      "block '" ++ s.id ++ "' has no output port '" ++ c.sourcePort ++ "'"⟩]) ++
  (if ∃ p ∈ target.inputs, p.id = c.targetPort then []
    else [⟨none, some c.id, .missingPort,
      "block '" ++ t.id ++ "' has no input port '" ++ c.targetPort ++ "'"⟩]) ++
  (source.output? c.sourcePort).toList.flatMap fun o ↦
    (target.input? c.targetPort).toList.flatMap fun i ↦
      if o.type.feeds i.type then []
      else [⟨none, some c.id, .portMismatch,
        o.type.title ++ " output cannot feed " ++ i.type.title ++ " input"⟩]

/-- What is reported of a connection: each end that names no block, and the ports if both ends name
blocks of known types. -/
def faultsOf (w : Workflow) (r : Registry) (c : Connection) : List Problem :=
  ([c.source, c.target].filter fun id ↦ ¬∃ b ∈ w.blocks, b.id = id).map
    (fun id ↦ ⟨none, some c.id, .missingBlock, "references missing block '" ++ id ++ "'"⟩) ++
  (w.blocks.filter (·.id = c.source)).flatMap fun s ↦
    (w.blocks.filter (·.id = c.target)).flatMap fun t ↦
      (r.get? s.tag).toList.flatMap fun source ↦
        (r.get? t.tag).toList.flatMap fun target ↦ portFaults c s t source target

/-- Whether a connection leads into an input of a block, from an output of a step of a known
type. -/
def enters (w : Workflow) (r : Registry) (b : Block) (p : Port) (c : Connection) : Bool :=
  c.target = b.id && (r.get? b.tag).any (·.input? c.targetPort = some p) &&
    w.blocks.any fun s ↦ s.id = c.source &&
      (r.get? s.tag).any fun d ↦ !d.isTrigger && (d.output? c.sourcePort).isSome

/-- The inputs with more connections than they take, by block and port, with how many they take. -/
def crowded (w : Workflow) (r : Registry) : List ((String × String) × Nat) :=
  w.blocks.flatMap fun b ↦
    (r.get? b.tag).toList.flatMap fun d ↦
      d.inputs.dedup.filterMap fun p ↦
        (p.limit?.filter (· < w.connections.countP (w.enters r b p))).map ((b.id, p.id), ·)

/-- What is reported of an input with more connections than it takes. -/
def crowding (input : (String × String) × Nat) : Problem :=
  ⟨some input.1.1, none, .arityExceeded,
    "input '" ++ input.1.2 ++ "' accepts at most " ++ toString input.2 ++ " connection(s)"⟩

end Workflow

namespace Validation

open Workflow

/-! ### The running count -/

section Exceeding

variable {α : Type} [BEq α] {limit? : α → Option Nat} {taken l : List α} {a : α} {limit : Nat}

/-- What comes when there is already as much of it as its limit allows, given what has come
before. -/
def exceeding (limit? : α → Option Nat) : (taken : List α) → List α → List α
  | _, [] => []
  | taken, a :: rest =>
    (if limit? a = some (taken.count a) then [a] else []) ++ exceeding limit? (a :: taken) rest

variable [LawfulBEq α]

theorem count_exceeding_of_none (h : limit? a = none) : (exceeding limit? taken l).count a = 0 := by
  induction l generalizing taken with
  | nil => rfl
  | cons b l ih =>
    rw [exceeding, List.count_append, ih, Nat.add_zero]
    split
    · next hb =>
      have hne : b ≠ a := by
        rintro rfl
        rw [h] at hb
        cases hb
      simp [hne]
    · rfl

/-- Whatever has a limit comes once when the limit has been reached, if it comes so often. -/
theorem count_exceeding (h : limit? a = some limit) : (exceeding limit? taken l).count a =
    if taken.count a ≤ limit ∧ limit < taken.count a + l.count a then 1 else 0 := by
  induction l generalizing taken with
  | nil =>
    rw [if_neg]
    · rfl
    · simp
  | cons b l ih =>
    rw [exceeding, List.count_append, ih]
    by_cases hb : b = a
    · subst hb
      rw [h, List.count_cons_self, List.count_cons_self]
      simp only [Option.some.injEq]
      split <;> split <;> split <;> simp <;> omega
    · have hhere : (if limit? b = some (taken.count b) then [b] else []).count a = 0 := by
        split <;> simp [hb]
      rw [hhere, Nat.zero_add, List.count_cons_of_ne hb, List.count_cons_of_ne hb]

theorem nodup_exceeding : (exceeding limit? taken l).Nodup := by
  rw [List.nodup_iff_count_le_one]
  intro a
  cases h : limit? a with
  | none =>
    rw [count_exceeding_of_none h]
    exact Nat.zero_le _
  | some limit =>
    rw [count_exceeding h]
    split <;> omega

/-- What exceeds its limit is what comes more often than that. -/
theorem mem_exceeding : a ∈ exceeding limit? [] l ↔ ∃ limit, limit? a = some limit ∧
    limit < l.count a := by
  rw [← List.count_pos_iff]
  cases h : limit? a with
  | none => simp [count_exceeding_of_none h]
  | some limit => simp [count_exceeding h, Nat.pos_iff_ne_zero]

/-- What exceeds its limit does not depend on the order. -/
theorem exceeding_perm {m : List α} (h : l.Perm m) :
    (exceeding limit? [] l).Perm (exceeding limit? [] m) := by
  rw [List.perm_ext_iff_of_nodup nodup_exceeding nodup_exceeding]
  intro a
  rw [mem_exceeding, mem_exceeding, h.count_eq]

end Exceeding

/-! ### Connections one by one -/

variable {w : Workflow} {r : Registry} {b : Block} {d : Definition} {p : Port} {c : Connection}

/-- What is found wrong with a connection alone. -/
def faults (w : Workflow) (r : Registry) (c : Connection) : List Finding :=
  match linkOf w r c with
  | .inl findings => findings
  | .inr none => []
  | .inr (some link) =>
    if link.output.type.feeds link.input.type then []
    else [.incompatible c.id link.output.type link.input.type]

/-- The input that a connection counts for, by its block and its port. -/
def entered? (w : Workflow) (r : Registry) (c : Connection) : Option (String × String) :=
  match linkOf w r c with
  | .inr (some link) => if link.source.isTrigger then none else some (link.target.id, link.input.id)
  | _ => none

/-- The limit of an input. -/
def limitAt? (w : Workflow) (r : Registry) (input : String × String) : Option Nat :=
  (w.block? input.1).bind fun b ↦
    (r.get? b.tag).bind fun d ↦ (d.input? input.2).bind Port.limit?

/-- The problem of an input that has too many connections. -/
def crowding? (w : Workflow) (r : Registry) (input : String × String) : Option Finding :=
  (limitAt? w r input).map (.tooMany input.1 input.2)

theorem linkOf_eq_some_iff {link : Link} : linkOf w r c = .inr (some link) ↔
    ∃ s, w.block? c.source = some s ∧ r.get? s.tag = some link.source ∧
      link.source.output? c.sourcePort = some link.output ∧
      w.block? c.target = some link.target ∧ ∃ target, r.get? link.target.tag = some target ∧
        target.input? c.targetPort = some link.input := by
  obtain ⟨source, output, target, input⟩ := link
  constructor
  · intro h
    simp only [linkOf] at h
    split at h
    · next s t hs ht =>
      split at h
      · next sd td hsd htd =>
        split at h
        · next o i ho hi =>
          simp only [Sum.inr.injEq, Option.some.injEq, Link.mk.injEq] at h
          obtain ⟨rfl, rfl, rfl, rfl⟩ := h
          exact ⟨s, hs, hsd, ho, ht, td, htd, hi⟩
        · cases h
      · cases h
    · cases h
  · rintro ⟨s, hs, hsd, ho, ht, td, htd, hi⟩
    dsimp only at hsd ho ht htd hi
    simp only [linkOf, hs, ht, hsd, htd, ho, hi]

theorem id_of_block? {id : String} (h : w.block? id = some b) : b.id = id := by
  simpa using List.find?_some h

/-- The input that a connection counts for is the one that it names, and its limit is that of the
port. -/
theorem input_of_linkOf {link : Link} (h : linkOf w r c = .inr (some link)) :
    (link.target.id, link.input.id) = (c.target, c.targetPort) ∧
      limitAt? w r (c.target, c.targetPort) = link.input.limit? := by
  obtain ⟨-, -, -, -, ht, td, htd, hi⟩ := linkOf_eq_some_iff.mp h
  have hport : link.input.id = c.targetPort := by simpa using List.find?_some hi
  refine ⟨by rw [id_of_block? ht, hport], ?_⟩
  rw [limitAt?, ht, Option.bind_some, htd, Option.bind_some, hi, Option.bind_some]

/-- What the check of one connection adds: what is wrong with it alone, and its input if this
connection is the first one too many. -/
theorem connectionFindings_cons (taken : List (String × String)) (rest : List Connection) :
    connectionFindings w r taken (c :: rest) = faults w r c ++
      match entered? w r c with
      | none => connectionFindings w r taken rest
      | some input =>
        (if limitAt? w r input = some (taken.count input) then [input] else []).filterMap
          (crowding? w r) ++ connectionFindings w r (input :: taken) rest := by
  simp only [connectionFindings, faults, entered?]
  cases hlinked : linkOf w r c with
  | inl findings => rfl
  | inr linked =>
    cases linked with
    | none => rfl
    | some link =>
      obtain ⟨hinput, hlimit⟩ := input_of_linkOf hlinked
      dsimp only
      by_cases htrigger : link.source.isTrigger = true
      · rw [if_pos htrigger, if_pos htrigger]
      · rw [if_neg htrigger, if_neg htrigger, hinput, List.append_assoc]
        congr 2
        cases hl : link.input.limit? with
        | none => simp [hlimit, hl]
        | some limit =>
          obtain ⟨hid, hport⟩ := Prod.mk.inj hinput
          by_cases hcount : taken.count (c.target, c.targetPort) = limit
          · simp [hcount, crowding?, hlimit, hl, hid, hport]
          · simp [hcount, hlimit, hl, Ne.symm hcount]

/-- What is found wrong with connections is what is wrong with each of them alone, and the inputs
that more of them enter than may. -/
theorem connectionFindings_perm (taken : List (String × String)) (cs : List Connection) :
    (connectionFindings w r taken cs).Perm (cs.flatMap (faults w r) ++
      (exceeding (limitAt? w r) taken (cs.filterMap (entered? w r))).filterMap
        (crowding? w r)) := by
  induction cs generalizing taken with
  | nil => exact .refl _
  | cons c cs ih =>
    rw [connectionFindings_cons, List.flatMap_cons, List.append_assoc]
    apply List.Perm.append_left
    cases hentered : entered? w r c with
    | none =>
      rw [List.filterMap_cons_none hentered]
      exact ih taken
    | some input =>
      rw [List.filterMap_cons_some hentered, exceeding, List.filterMap_append]
      exact ((ih (input :: taken)).append_left _).trans (List.perm_append_comm_assoc _ _ _)

/-! ### What a connection alone is reported for -/

private theorem isSome_output?_iff {port : String} :
    (d.output? port).isSome = true ↔ ∃ p ∈ d.outputs, p.id = port := by
  simp [Definition.output?]

private theorem isSome_input?_iff {port : String} :
    (d.input? port).isSome = true ↔ ∃ p ∈ d.inputs, p.id = port := by
  simp [Definition.input?]

private theorem isSome_block?_iff {id : String} :
    (w.block? id).isSome = true ↔ ∃ b ∈ w.blocks, b.id = id := by
  simp [block?]

private theorem filter_blocks (hd : w.DistinctIds) (id : String) :
    w.blocks.filter (·.id = id) = (w.block? id).toList :=
  filter_eq_toList_find? (pairwise_of_nodup_map hd id)

private theorem problem_noBlock (connection block : String) :
    (Finding.noBlock connection block).problem =
      ⟨none, some connection, .missingBlock, "references missing block '" ++ block ++ "'"⟩ := rfl

private theorem problem_incompatible (connection : String) (source target : PortType) :
    (Finding.incompatible connection source target).problem =
      ⟨none, some connection, .portMismatch,
        source.title ++ " output cannot feed " ++ target.title ++ " input"⟩ := rfl

/-- What is found wrong with ports that are found or not. -/
private def unlinked (c : Connection) (s t : Block) : Option Port → Option Port → List Finding
  | some o, some i => if o.type.feeds i.type then [] else [.incompatible c.id o.type i.type]
  | o, i =>
    (if o.isNone then [.noOutput c.id s.id c.sourcePort] else []) ++
      if i.isNone then [.noInput c.id t.id c.targetPort] else []

private theorem map_problem_unlinked (s t : Block) (source target : Definition) :
    (unlinked c s t (source.output? c.sourcePort) (target.input? c.targetPort)).map
      Finding.problem = portFaults c s t source target := by
  rw [portFaults]
  simp only [← isSome_output?_iff, ← isSome_input?_iff]
  cases source.output? c.sourcePort with
  | none => cases target.input? c.targetPort <;> rfl
  | some o =>
    cases target.input? c.targetPort with
    | none => rfl
    | some i =>
      by_cases hfeeds : o.type.feeds i.type = true <;> simp [unlinked, hfeeds, problem_incompatible]

/-- The ends of a connection and its ports are looked up one after the other; all that is wrong with
it is reported all the same. -/
theorem map_problem_faults (hd : w.DistinctIds) :
    (faults w r c).map Finding.problem = w.faultsOf r c := by
  rw [faultsOf, filter_blocks hd, filter_blocks hd]
  simp only [← isSome_block?_iff]
  cases hs : w.block? c.source with
  | none => cases ht : w.block? c.target <;> simp [faults, linkOf, hs, ht, problem_noBlock]
  | some s =>
    cases ht : w.block? c.target with
    | none => simp [faults, linkOf, hs, ht, problem_noBlock]
    | some t =>
      cases hsource : r.get? s.tag with
      | none => simp [faults, linkOf, hs, ht, hsource]
      | some source =>
        cases htarget : r.get? t.tag with
        | none => simp [faults, linkOf, hs, ht, hsource, htarget]
        | some target =>
          have hfaults : faults w r c =
              unlinked c s t (source.output? c.sourcePort) (target.input? c.targetPort) := by
            simp only [faults, linkOf, hs, ht, hsource, htarget]
            cases source.output? c.sourcePort <;> cases target.input? c.targetPort <;> rfl
          rw [hfaults, map_problem_unlinked]
          simp [hs, ht, hsource, htarget]

/-! ### Inputs that too many connections enter -/

theorem entered?_eq_some_iff {input : String × String} : entered? w r c = some input ↔
    ∃ link, linkOf w r c = .inr (some link) ∧ link.source.isTrigger = false ∧
      (c.target, c.targetPort) = input := by
  rw [entered?]
  split
  · next link hlink =>
    rw [(input_of_linkOf hlink).1, hlink]
    simp
  · next hnone =>
    refine iff_of_false (by simp) ?_
    rintro ⟨link, hlink, -⟩
    exact hnone link hlink

theorem enters_iff : w.enters r b p c = true ↔
    c.target = b.id ∧ (∃ d, r.get? b.tag = some d ∧ d.input? c.targetPort = some p) ∧
      ∃ s ∈ w.blocks, s.id = c.source ∧ ∃ d, r.get? s.tag = some d ∧ d.isTrigger = false ∧
        ∃ o, d.output? c.sourcePort = some o := by
  simp [enters, Option.any_eq_true, Option.isSome_iff_exists, and_assoc]

/-- A port that a connection enters is the one that is found under its id. -/
theorem input?_of_enters (hdef : r.get? b.tag = some d) (h : w.enters r b p c = true) :
    d.input? p.id = some p ∧ p.id = c.targetPort := by
  obtain ⟨-, ⟨d', hdef', hp⟩, -⟩ := enters_iff.mp h
  obtain rfl := Option.some.inj (hdef.symm.trans hdef')
  have hid : p.id = c.targetPort := by simpa using List.find?_some hp
  exact ⟨hid ▸ hp, hid⟩

/-- A connection counts for the input that it enters. -/
private theorem entered?_eq_some_iff_enters (hd : w.DistinctIds) (hb : b ∈ w.blocks)
    (hdef : r.get? b.tag = some d) (hp : d.input? p.id = some p) :
    entered? w r c = some (b.id, p.id) ↔ w.enters r b p c = true := by
  rw [entered?_eq_some_iff, enters_iff]
  constructor
  · rintro ⟨link, hlink, htrigger, hinput⟩
    obtain ⟨htarget, hport⟩ := Prod.mk.inj hinput
    obtain ⟨s, hs, hsource, ho, -⟩ := linkOf_eq_some_iff.mp hlink
    obtain ⟨hsmem, hsid⟩ := hd.block?_eq_some.mp hs
    exact ⟨htarget, ⟨d, hdef, hport ▸ hp⟩, s, hsmem, hsid, _, hsource, htrigger, _, ho⟩
  · rintro ⟨htarget, ⟨d', hdef', hport⟩, s, hs, hsid, source, hsource, htrigger, o, ho⟩
    have hid : p.id = c.targetPort := by simpa using List.find?_some hport
    have hlink : linkOf w r c = .inr (some ⟨source, o, b, p⟩) :=
      linkOf_eq_some_iff.mpr ⟨s, hd.block?_eq_some.mpr ⟨hs, hsid⟩, hsource, ho,
        hd.block?_eq_some.mpr ⟨hb, htarget.symm⟩, d', hdef', hport⟩
    exact ⟨_, hlink, htrigger, by rw [htarget, hid]⟩

private theorem count_entered (hd : w.DistinctIds) (hb : b ∈ w.blocks)
    (hdef : r.get? b.tag = some d) (hp : d.input? p.id = some p) (cs : List Connection) :
    (cs.filterMap (entered? w r)).count (b.id, p.id) = cs.countP (w.enters r b p) := by
  rw [List.count_filterMap]
  apply List.countP_congr
  intro c _
  rw [beq_iff_eq, entered?_eq_some_iff_enters hd hb hdef hp]

theorem limitAt?_eq_some_iff (hd : w.DistinctIds) {id port : String} {limit : Nat} :
    limitAt? w r (id, port) = some limit ↔ ∃ b ∈ w.blocks, b.id = id ∧
      ∃ d, r.get? b.tag = some d ∧ ∃ p, d.input? port = some p ∧ p.limit? = some limit := by
  simp only [limitAt?, Option.bind_eq_some_iff, hd.block?_eq_some, and_assoc]

private theorem mem_crowded {input : String × String} {limit : Nat} :
    (input, limit) ∈ w.crowded r ↔ ∃ b ∈ w.blocks, ∃ d, r.get? b.tag = some d ∧
      ∃ p ∈ d.inputs, p.limit? = some limit ∧
        limit < w.connections.countP (w.enters r b p) ∧ (b.id, p.id) = input := by
  simp [crowded, Option.filter_eq_some_iff, and_assoc]

/-- The inputs that the running count reports are those that more connections enter than may. -/
private theorem mem_exceeding_iff_mem_crowded (hd : w.DistinctIds) {input : String × String}
    {limit : Nat} :
    input ∈ exceeding (limitAt? w r) [] (w.connections.filterMap (entered? w r)) ∧
      limitAt? w r input = some limit ↔ (input, limit) ∈ w.crowded r := by
  rw [mem_exceeding, mem_crowded]
  constructor
  · rintro ⟨⟨limit', hlimit', hless⟩, hlimit⟩
    obtain rfl := Option.some.inj (hlimit'.symm.trans hlimit)
    obtain ⟨id, port⟩ := input
    obtain ⟨b, hb, rfl, d, hdef, p, hp, hl⟩ := (limitAt?_eq_some_iff hd).mp hlimit
    obtain rfl : p.id = port := by simpa using List.find?_some hp
    rw [count_entered hd hb hdef hp] at hless
    exact ⟨b, hb, d, hdef, p, List.mem_of_find?_eq_some hp, hl, hless, rfl⟩
  · rintro ⟨b, hb, d, hdef, p, -, hl, hless, rfl⟩
    obtain ⟨c, -, hc⟩ := List.countP_pos_iff.mp (Nat.zero_lt_of_lt hless)
    have hp := (input?_of_enters hdef hc).1
    have hlimit : limitAt? w r (b.id, p.id) = some limit :=
      (limitAt?_eq_some_iff hd).mpr ⟨b, hb, rfl, d, hdef, p, hp, hl⟩
    rw [← count_entered hd hb hdef hp] at hless
    exact ⟨⟨limit, hlimit, hless⟩, hlimit⟩

/-- No input with too many connections is listed twice. -/
theorem nodup_crowded (hd : w.DistinctIds) : ((w.crowded r).map (·.1)).Nodup := by
  rw [crowded, List.map_flatMap, List.nodup_flatMap]
  constructor
  · intro b _
    cases hdef : r.get? b.tag with
    | none => exact List.nodup_nil
    | some d =>
      rw [Option.toList_some, List.flatMap_singleton, List.map_filterMap]
      refine List.Nodup.filterMap (fun p p' input hp hp' ↦ ?_) (List.nodup_dedup _)
      simp only [Option.mem_def, Option.map_eq_some_iff, Option.filter_eq_some_iff,
        decide_eq_true_eq] at hp hp'
      obtain ⟨_, ⟨limit, ⟨-, hless⟩, rfl⟩, rfl⟩ := hp
      obtain ⟨_, ⟨limit', ⟨-, hless'⟩, rfl⟩, hsame⟩ := hp'
      obtain ⟨c, -, hc⟩ := List.countP_pos_iff.mp (Nat.zero_lt_of_lt hless)
      obtain ⟨c', -, hc'⟩ := List.countP_pos_iff.mp (Nat.zero_lt_of_lt hless')
      -- a port that connections enter is the one that is found under its id
      have hfound := (input?_of_enters hdef hc).1
      have hid : p'.id = p.id := (Prod.mk.inj hsame).2
      rw [← hid, (input?_of_enters hdef hc').1] at hfound
      exact (Option.some.inj hfound).symm
  · refine (List.pairwise_map.mp hd).imp fun hne ↦ ?_
    intro input hb hc
    simp only [List.mem_map, List.mem_flatMap, List.mem_filterMap, Option.map_eq_some_iff] at hb hc
    obtain ⟨_, ⟨_, -, _, -, _, -, rfl⟩, rfl⟩ := hb
    obtain ⟨_, ⟨_, -, _, -, _, -, rfl⟩, hsame⟩ := hc
    exact hne (Prod.mk.inj hsame).1.symm

/-- The problems of the inputs that the running count reports. -/
private theorem crowdings_perm (hd : w.DistinctIds) :
    (((exceeding (limitAt? w r) [] (w.connections.filterMap (entered? w r))).filterMap
      (crowding? w r)).map Finding.problem).Perm ((w.crowded r).map crowding) := by
  have hcrowding : (fun input ↦ (crowding? w r input).map Finding.problem) = fun input ↦
      ((limitAt? w r input).map (input, ·)).map crowding := by
    funext input
    rw [crowding?, Option.map_map, Option.map_map]
    rfl
  rw [List.map_filterMap, hcrowding, ← List.map_filterMap]
  apply List.Perm.map
  rw [List.perm_ext_iff_of_nodup]
  · rintro ⟨input, limit⟩
    rw [← mem_exceeding_iff_mem_crowded hd]
    simp
  · refine List.Nodup.filterMap (fun a a' x ha ha' ↦ ?_) nodup_exceeding
    obtain ⟨limit, -, rfl⟩ := Option.map_eq_some_iff.mp ha
    obtain ⟨limit', -, hsame⟩ := Option.map_eq_some_iff.mp ha'
    exact (Prod.mk.inj hsame).1.symm
  · exact .of_map _ (nodup_crowded hd)

end Validation

namespace Workflow

open Validation

variable {w : Workflow} {r : Registry}

/-- What is found of the kinds that a connection may have is what is found of connections. -/
private theorem filter_findings_ofConnection :
    (w.findings r).filter (·.kind ∈ [.missingBlock, .missingPort, .portMismatch, .arityExceeded]) =
      connectionFindings w r [] w.connections := by
  have hnone {l : List Finding} (h : ∀ f ∈ l, ¬IsOfConnection f.kind) :
      l.filter (·.kind ∈ [.missingBlock, .missingPort, .portMismatch, .arityExceeded]) = [] := by
    rw [List.filter_eq_nil_iff]
    exact fun f hf hk ↦ h f hf (by simpa [IsOfConnection] using hk)
  have hall : (connectionFindings w r [] w.connections).filter
      (·.kind ∈ [.missingBlock, .missingPort, .portMismatch, .arityExceeded]) =
      connectionFindings w r [] w.connections := by
    simp only [List.filter_eq_self, decide_eq_true_eq]
    exact fun _ ↦ isOfConnection_of_mem
  simp only [findings, List.filter_append, hall]
  rw [hnone, hnone, hnone, hnone, hnone]
  · simp
  · intro f hf
    simp [kind_of_mem_triggerFindings hf, IsOfConnection]
  · intro f hf
    simp [kind_of_mem_reachFindings hf, IsOfConnection]
  · intro f hf
    simp [kind_of_mem_cycleFindings hf, IsOfConnection]
  · intro f hf
    obtain ⟨b, -, hf⟩ := List.mem_flatMap.mp hf
    rcases kind_of_mem_settings hf with hkind | hkind <;> simp [hkind, IsOfConnection]
  · intro f hf
    obtain ⟨b, -, hf⟩ := List.mem_flatMap.mp hf
    simp [kind_of_mem_typeFindings hf, IsOfConnection]

/-- What is reported of connections. -/
private theorem map_problem_connectionFindings_perm (hd : w.DistinctIds) :
    ((connectionFindings w r [] w.connections).map Finding.problem).Perm
      (w.connections.flatMap (w.faultsOf r) ++ (w.crowded r).map crowding) := by
  have hfaults : (w.connections.flatMap (faults w r)).map Finding.problem =
      w.connections.flatMap (w.faultsOf r) := by
    rw [List.map_flatMap]
    exact List.flatMap_congr fun _ _ ↦ map_problem_faults hd
  refine ((connectionFindings_perm [] w.connections).map _).trans ?_
  rw [List.map_append, hfaults]
  exact (crowdings_perm hd).append_left _

/-- The problems of the kinds that a connection may have are what is wrong with each connection
alone, and one for each input that more connections enter than it takes. No input is reported
twice. -/
theorem connectionProblems_perm (w : Workflow) (r : Registry) (hd : w.DistinctIds) :
    ((w.problems r).filter
        (·.kind ∈ [.missingBlock, .missingPort, .portMismatch, .arityExceeded])).Perm
      (w.connections.flatMap (w.faultsOf r) ++ (w.crowded r).map crowding) ∧
    ((w.crowded r).map (·.1)).Nodup := by
  constructor
  · have hfilter : (w.problems r).filter
        (·.kind ∈ [.missingBlock, .missingPort, .portMismatch, .arityExceeded]) =
        (connectionFindings w r [] w.connections).map Finding.problem := by
      rw [← filter_findings_ofConnection, problems, List.filter_map]
      rfl
    rw [hfilter]
    exact map_problem_connectionFindings_perm hd
  · exact nodup_crowded hd

/-- A workflow with an input that takes one connection and has three, between others that do not
count. -/
private def crossed : Workflow :=
  let block (id tag : String) : Block := ⟨id, tag, .origin, .empty, none⟩
  { id := "wf", name := "CI", description := ""
    blocks := [block "t" Kind.triggerPush.tag, block "a" Kind.jobCheckout.tag,
      block "b" Kind.jobLint.tag, block "c" Kind.jobBuild.tag, block "u" "unknown"]
    connections := [⟨"1", "a", "out", "c", "in"⟩, ⟨"2", "t", "out", "c", "in"⟩,
      ⟨"3", "b", "out", "c", "in"⟩, ⟨"4", "b", "up", "c", "in"⟩, ⟨"5", "b", "out", "gone", "in"⟩,
      ⟨"6", "u", "out", "c", "in"⟩, ⟨"7", "a", "out", "c", "in"⟩] }

theorem connectionProblems_crossed : crossed.DistinctIds ∧
    ((crossed.problems .builtin).filter
        (·.kind ∈ [.missingBlock, .missingPort, .portMismatch, .arityExceeded])).Perm
      [⟨none, some "4", .missingPort, "block 'b' has no output port 'up'"⟩,
        ⟨none, some "5", .missingBlock, "references missing block 'gone'"⟩,
        ⟨some "c", none, .arityExceeded, "input 'in' accepts at most 1 connection(s)"⟩] ∧
    ((crossed.crowded .builtin).map (·.1)).Nodup := by
  have hd : crossed.DistinctIds := by decide +kernel
  have hwrong : crossed.connections.flatMap (crossed.faultsOf .builtin) ++
      (crossed.crowded .builtin).map crowding =
      [⟨none, some "4", .missingPort, "block 'b' has no output port 'up'"⟩,
        ⟨none, some "5", .missingBlock, "references missing block 'gone'"⟩,
        ⟨some "c", none, .arityExceeded, "input 'in' accepts at most 1 connection(s)"⟩] := by
    decide +kernel
  obtain ⟨hperm, hnodup⟩ := connectionProblems_perm crossed .builtin hd
  exact ⟨hd, hwrong ▸ hperm, hnodup⟩

end Workflow

end Blockflow
