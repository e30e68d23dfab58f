import Blockflow.Proofs.Pipeline.Storage
import Blockflow.Proofs.Workflow.Editing

/-!
# Which connections may be added

Editing refuses no connection that keeps a workflow coherent, and adds none that does not: every
check that it makes is one of the rules, and every rule is checked. A connection of two different
blocks is refused for a cycle only if there is a way back along steps.
-/

namespace Blockflow

open Relation Blockflow.Graph

namespace Workflow

open Editor

variable {r : Registry} {w : Workflow} {c : Connection} {a b : String}

/-! ### Rules -/

theorem joins_connect_of_joins (h : Joins (StepGraph.ofWorkflow w r).edges a b) :
    Joins (StepGraph.ofWorkflow (w.connect c) r).edges a b := by
  obtain ⟨ha, hb, d, hd, hends⟩ := joins_ofWorkflow.mp h
  exact joins_ofWorkflow.mpr ⟨ha, hb, d, List.mem_append_left _ hd, hends⟩

/-- A connection that keeps a workflow coherent breaks no rule. -/
theorem Coherent.mayConnect_of_connect (h : (w.connect c).Coherent r) : w.MayConnect r c := by
  have hmem : c ∈ (w.connect c).connections := List.mem_append_right _ List.mem_cons_self
  refine ⟨fun hid ↦ ?_, h.wired c hmem, h.irreflexive c hmem, fun d hd ↦ ?_, ?_, ?_⟩
  · have hids := h.connectionIds
    rw [Workflow.connect, List.map_append, List.map_singleton, List.nodup_append] at hids
    exact hids.2.2 c.id hid c.id (List.mem_singleton_self _) rfl
  · exact (List.pairwise_append.mp h.ends).2.2 d hd c (List.mem_singleton_self _)
  · rintro hstep ⟨_, tag⟩ ht rfl d hdef p hp limit hlimit
    have hid : p.id = c.targetPort := by simpa using List.find?_some hp
    have hle := h.limits _ ht d hdef p (List.mem_of_find?_eq_some hp) (hid ▸ hp) limit hlimit
    rw [counted_connect, hid, if_pos ⟨rfl, rfl, hstep⟩, List.length_append,
      List.length_singleton] at hle
    exact hle
  · intro hjoins hback
    have hback' := ReflTransGen.mono (fun _ _ ↦ joins_connect_of_joins (c := c)) _ _ hback
    exact h.acyclic c.source (TransGen.head'_iff.mpr ⟨c.target, hjoins, hback'⟩)

/-- A connection keeps a workflow coherent exactly if it breaks no rule. -/
theorem Coherent.connect_iff (h : w.Coherent r) : (w.connect c).Coherent r ↔ w.MayConnect r c :=
  ⟨Coherent.mayConnect_of_connect, h.connect⟩

/-! ### The way back -/

/-- From a step, the search for a way back comes to steps only, and along connections of steps. -/
theorem Coherent.reflTransGen_of_followed (h : w.Coherent r) (ha : a ∈ w.stepIds r)
    (hp : ReflTransGen (Joins (followed r w)) a b) :
    ReflTransGen (Joins (StepGraph.ofWorkflow w r).edges) a b ∧ b ∈ w.stepIds r := by
  induction hp with
  | refl => exact ⟨.refl, ha⟩
  | @tail x y _ hstep ih =>
    obtain ⟨hpath, hx⟩ := ih
    obtain ⟨c, hc, hends⟩ := List.mem_map.mp hstep
    obtain ⟨rfl, rfl⟩ := Prod.mk.inj hends
    obtain ⟨hc, hstep⟩ := List.mem_filter.mp hc
    obtain ⟨-, -, ⟨_, tag⟩, ht, -, rfl, -⟩ := h.wired c hc
    have htarget : c.target ∈ w.stepIds r := by
      rw [h.blockIds.mem_stepIds_iff ht, ← h.blockIds.isTriggerId_eq ht]
      simpa using hstep
    exact ⟨hpath.tail (joins_ofWorkflow.mpr ⟨hx, htarget, c, hc, rfl, rfl⟩), htarget⟩

/-- Between steps that a legal connection joins there is no way back. -/
theorem Coherent.comesAfter_eq_false (h : w.Coherent r) (hmay : w.MayConnect r c)
    (hs : c.source ∈ w.stepIds r) (ht : c.target ∈ w.stepIds r) :
    comesAfter r w c.source c.target = false := by
  rw [Bool.eq_false_iff]
  intro hback
  refine hmay.acyclic ?_ (h.reflTransGen_of_followed ht (comesAfter_iff.mp hback)).1
  exact joins_ofWorkflow.mpr ⟨hs, ht, c, List.mem_append_right _ List.mem_cons_self, rfl, rfl⟩

/-! ### Checks -/

/-- A connection with a new id breaks no rule exactly if it passes every check. -/
theorem Coherent.mayConnect_iff (h : w.Coherent r) : w.MayConnect r c ↔
    c.id ∉ w.connections.map (·.id) ∧
      ∃ e, Editor.ends r w c.source c.sourcePort c.target c.targetPort = .ok e ∧
        checkConnection r w e c.source c.sourcePort c.target c.targetPort = .ok () := by
  refine ⟨fun hmay ↦ ⟨hmay.id, ?_⟩, fun ⟨hid, e, hends, hcheck⟩ ↦ h.mayConnect hid hends hcheck⟩
  obtain ⟨⟨sid, stag⟩, hs, ⟨tid, ttag⟩, ht, hsid, htid, hfeeds⟩ := hmay.wired
  dsimp only at hsid htid hfeeds
  subst hsid htid
  obtain ⟨source, hsource, target, htarget, o, ho, i, hi, htypes⟩ := Registry.feeds_iff.mp hfeeds
  obtain ⟨sb, hsb, hsbid, rfl⟩ := mem_types.mp hs
  obtain ⟨tb, htb, htbid, rfl⟩ := mem_types.mp ht
  have hstrigger : r.isTrigger sb.tag = source.isTrigger := Registry.isTrigger_of_get? hsource
  have httrigger : r.isTrigger tb.tag = target.isTrigger := Registry.isTrigger_of_get? htarget
  refine ⟨⟨source, target, i⟩, ends_eq_ok_iff.mpr ⟨sb, tb, ?_, ?_, hsource, htarget, hi, o, ho,
    htypes⟩, checkConnection_eq_ok_iff.mpr ⟨hmay.irreflexive, fun d hd hsame ↦ ?_,
      fun hstep limit hlimit ↦ ?_, fun hstep hstep' ↦ ?_⟩⟩
  · exact h.blockIds.block?_eq_some.mpr ⟨hsb, hsbid⟩
  · exact h.blockIds.block?_eq_some.mpr ⟨htb, htbid⟩
  · have hdiffers := hmay.ends d hd
    simp [Connection.sameEnds, hsame] at hdiffers
  · have hstepId : isTriggerId r w c.source = false := by
      rw [h.blockIds.isTriggerId_eq hs, hstrigger, hstep]
    exact hmay.room hstepId _ ht rfl target htarget i hi limit hlimit
  · have hs : c.source ∈ w.stepIds r := by rwa [h.blockIds.mem_stepIds_iff hs, hstrigger]
    have ht : c.target ∈ w.stepIds r := by rwa [h.blockIds.mem_stepIds_iff ht, httrigger]
    exact h.comesAfter_eq_false hmay hs ht

end Workflow

/-! ### What is answered -/

namespace Editing

variable {α β : Type} {n : Nat}

theorem runFrom_ofExcept_bind (x : Except EditError α) (f : α → Editing β) :
    (ofExcept x >>= f).runFrom n =
      match x with
      | .ok a => (f a).runFrom n
      | .error error => some (.error error, n) := by
  cases x <;> rfl

theorem runFrom_freshId_bind_pure (idOf : Nat → String) (taken : List String) (f : String → β) :
    (freshId idOf taken >>= fun id ↦ pure (f id)).runFrom n =
      (Ids.fresh? idOf taken (taken.length + 1) n).map fun found ↦ (.ok (f found.1), found.2) := by
  have hfresh : (freshId idOf taken).runFrom n =
      (Ids.fresh? idOf taken (taken.length + 1) n).bind fun found ↦
        some (.ok found.1, found.2) := rfl
  rw [runFrom_bind, hfresh]
  cases Ids.fresh? idOf taken (taken.length + 1) n <;> rfl

end Editing

namespace Editor

open Workflow

variable {r : Registry} {w : Workflow} {source sourcePort target targetPort id a b : String}
  {n m : Nat}

/-- Whether a connection may be added, before an id is taken for it. -/
def permission (r : Registry) (w : Workflow) (source sourcePort target targetPort : String) :
    Except EditError Unit := do
  let e ← ends r w source sourcePort target targetPort
  checkConnection r w e source sourcePort target targetPort

/-- A connection that may be added is added under a new id; one that may not takes no id. -/
theorem runFrom_addConnection :
    (addConnection r w source sourcePort target targetPort).runFrom n =
      match permission r w source sourcePort target targetPort with
      | .error error => some (.error error, n)
      | .ok () => (Ids.fresh? Ids.connection (w.connections.map (·.id))
          ((w.connections.map (·.id)).length + 1) n).map fun found ↦
            let c : Connection := ⟨found.1, source, sourcePort, target, targetPort⟩
            (.ok ⟨c, w.connect c, [.connectionAdded w.id c]⟩, found.2) := by
  rw [addConnection, permission, Editing.runFrom_ofExcept_bind]
  cases ends r w source sourcePort target targetPort with
  | error error => rfl
  | ok e =>
    have hgoes : (Except.ok e >>= fun e ↦
        checkConnection r w e source sourcePort target targetPort) =
        checkConnection r w e source sourcePort target targetPort := rfl
    dsimp only
    rw [Editing.runFrom_ofExcept_bind, hgoes]
    cases checkConnection r w e source sourcePort target targetPort with
    | error error => rfl
    | ok _ => exact Editing.runFrom_freshId_bind_pure _ _ _

theorem gives_addConnection {e : Edit Connection} :
    (addConnection r w source sourcePort target targetPort).Gives n e m ↔
      permission r w source sourcePort target targetPort = .ok () ∧ ∃ id,
        Ids.fresh? Ids.connection (w.connections.map (·.id))
          ((w.connections.map (·.id)).length + 1) n = some (id, m) ∧
        ⟨⟨id, source, sourcePort, target, targetPort⟩,
          w.connect ⟨id, source, sourcePort, target, targetPort⟩,
          [.connectionAdded w.id ⟨id, source, sourcePort, target, targetPort⟩]⟩ = e := by
  rw [Editing.Gives, runFrom_addConnection]
  cases permission r w source sourcePort target targetPort with
  | error error => simp
  | ok _ => simp [Prod.ext_iff]

theorem runFrom_addConnection_eq_error {error : EditError} :
    (addConnection r w source sourcePort target targetPort).runFrom n = some (.error error, m) ↔
      permission r w source sourcePort target targetPort = .error error ∧ n = m := by
  rw [runFrom_addConnection]
  cases permission r w source sourcePort target targetPort <;> simp

theorem permission_eq_ok_iff (h : w.Coherent r) (hid : id ∉ w.connections.map (·.id)) :
    permission r w source sourcePort target targetPort = .ok () ↔
      (w.connect ⟨id, source, sourcePort, target, targetPort⟩).Coherent r := by
  rw [h.connect_iff, h.mayConnect_iff, and_iff_right hid, permission, except_bind_eq_ok]

private theorem except_bind_eq_error {ε α β : Type} {x : Except ε α} {f : α → Except ε β} {e : ε} :
    x >>= f = .error e ↔ x = .error e ∨ ∃ a, x = .ok a ∧ f a = .error e := by
  cases x <;> simp [bind, Except.bind]

/-- A connection is never refused for a cycle because of its ends alone. -/
private theorem ends_ne_wouldCreateCycle :
    ends r w source sourcePort target targetPort ≠ .error (.wouldCreateCycle a b) := by
  have hblock (id : String) : block w id ≠ .error (.wouldCreateCycle a b) := by
    rw [block]
    split <;> simp
  have hdefinition (tag : String) : definition r tag ≠ .error (.wouldCreateCycle a b) := by
    rw [definition]
    split <;> simp
  intro h
  simp only [ends, except_bind_eq_error, hblock, hdefinition, false_or] at h
  obtain ⟨s, -, t, -, sourceDef, -, targetDef, -, h⟩ := h
  repeat' split at h
  all_goals simp [throw, throwThe, MonadExceptOf.throw, pure, Except.pure] at h

private theorem guard_eq_error {c : Prop} [Decidable c] {error error' : EditError} :
    (if c then throw error else pure () : Except EditError Unit) = .error error' ↔
      c ∧ error = error' := by
  by_cases hc : c <;> simp [hc, throw, throwThe, MonadExceptOf.throw, pure, Except.pure]

private theorem guard_bind_eq_error {c : Prop} [Decidable c] {error error' : EditError}
    {next : Unit → Except EditError Unit} {rest : Except EditError Unit} :
    (if c then throw error >>= next else rest) = .error error' ↔
      c ∧ error = error' ∨ ¬c ∧ rest = .error error' := by
  by_cases hc : c <;> simp [hc, throw, throwThe, MonadExceptOf.throw, bind, Except.bind]

private theorem comesAfter_of_checkConnection {e : Ends} (hne : source ≠ target)
    (h : checkConnection r w e source sourcePort target targetPort =
      .error (.wouldCreateCycle a b)) :
    e.source.isTrigger = false ∧ e.target.isTrigger = false ∧
      comesAfter r w source target = true := by
  cases hlimit : e.input.limit? <;>
    simp only [checkConnection, hne, hlimit, if_false, guard_bind_eq_error, guard_eq_error,
      reduceCtorEq, and_false, false_or, Bool.and_eq_true, Bool.not_eq_true'] at h
  case none =>
    obtain ⟨-, ⟨⟨hsource, htarget⟩, hback⟩, -⟩ := h
    exact ⟨hsource, htarget, hback⟩
  case some =>
    obtain ⟨-, -, ⟨⟨hsource, htarget⟩, hback⟩, -⟩ := h
    exact ⟨hsource, htarget, hback⟩

/-- A connection of two different blocks is refused for a cycle only if there is a way back. -/
theorem transGen_of_permission (h : w.Coherent r) (hne : source ≠ target)
    (hcycle : permission r w source sourcePort target targetPort =
      .error (.wouldCreateCycle a b)) : TransGen (w.StepEdge r) target source := by
  rcases except_bind_eq_error.mp hcycle with hends | ⟨e, hends, hcheck⟩
  · exact absurd hends ends_ne_wouldCreateCycle
  · obtain ⟨-, htrigger, hback⟩ := comesAfter_of_checkConnection hne hcheck
    obtain ⟨-, t, -, ht, -, htarget, -⟩ := ends_eq_ok_iff.mp hends
    obtain ⟨htmem, rfl⟩ := h.blockIds.block?_eq_some.mp ht
    have hstep : t.id ∈ w.stepIds r := by
      rw [h.blockIds.mem_stepIds_iff (mem_types.mpr ⟨t, htmem, rfl, rfl⟩),
        Registry.isTrigger_of_get? htarget, htrigger]
    have hpath := (h.reflTransGen_of_followed hstep (comesAfter_iff.mp hback)).1
    have hedges : Joins (StepGraph.ofWorkflow w r).edges = w.StepEdge r :=
      funext₂ fun _ _ ↦ propext joins_iff_stepEdge
    rw [hedges] at hpath
    exact (reflTransGen_iff_eq_or_transGen.mp hpath).resolve_left hne

/-- What adding a connection to a workflow does, if a new id is looked for from a number on. -/
structure AddsLegally (r : Registry) (w : Workflow)
    (source sourcePort target targetPort : String) (n : Nat) : Prop where
  /-- It is added exactly if some new id leaves the workflow coherent. -/
  added : (∃ e m, (addConnection r w source sourcePort target targetPort).Gives n e m) ↔
    ∃ k, (w.connect ⟨Ids.connection k, source, sourcePort, target, targetPort⟩).Coherent r
  /-- What is added is the connection asked for, under a new id, and nothing else changes. -/
  appended : ∀ e m, (addConnection r w source sourcePort target targetPort).Gives n e m →
    (∃ k, e.answer = ⟨Ids.connection k, source, sourcePort, target, targetPort⟩) ∧
      e.workflow = w.connect e.answer ∧ e.workflow.Coherent r
  /-- It is refused exactly if it would leave the workflow incoherent under every new id. -/
  refused : (∃ error, (addConnection r w source sourcePort target targetPort).runFrom n =
      some (.error error, n)) ↔
    ∀ id ∉ w.connections.map (·.id),
      ¬(w.connect ⟨id, source, sourcePort, target, targetPort⟩).Coherent r
  /-- A connection of two blocks is refused for a cycle only if it closes one along steps. -/
  closes : ∀ a b m, source ≠ target →
    (addConnection r w source sourcePort target targetPort).runFrom n =
      some (.error (.wouldCreateCycle a b), m) → TransGen (w.StepEdge r) target source

/-- A connection is added to a coherent workflow exactly if the workflow stays coherent. -/
theorem addConnection_of_coherent (r : Registry) (w : Workflow) (h : w.Coherent r)
    (source sourcePort target targetPort : String) (n : Nat) :
    AddsLegally r w source sourcePort target targetPort n where
  added := by
    simp only [gives_addConnection]
    constructor
    · rintro ⟨e, m, hok, id, hfresh, rfl⟩
      obtain ⟨hid, k, rfl⟩ := Ids.of_fresh?_eq_some hfresh
      exact ⟨k, (permission_eq_ok_iff h hid).mp hok⟩
    · rintro ⟨k, hk⟩
      have hid : Ids.connection k ∉ w.connections.map (·.id) := (h.connect_iff.mp hk).id
      obtain ⟨⟨id, m⟩, hfresh⟩ :=
        Option.isSome_iff_exists.mp (Ids.isSome_fresh?_connection.mpr ⟨k, hid⟩)
      exact ⟨_, m, (permission_eq_ok_iff h hid).mpr hk, id, hfresh, rfl⟩
  appended e m he := by
    obtain ⟨hok, id, hfresh, rfl⟩ := gives_addConnection.mp he
    obtain ⟨hid, k, rfl⟩ := Ids.of_fresh?_eq_some hfresh
    exact ⟨⟨k, rfl⟩, rfl, (permission_eq_ok_iff h hid).mp hok⟩
  refused := by
    simp only [runFrom_addConnection_eq_error, and_true]
    constructor
    · rintro ⟨error, herror⟩ id hid hcoherent
      simp [(permission_eq_ok_iff h hid).mpr hcoherent] at herror
    · intro hnever
      -- there are more texts than connections
      obtain ⟨id, hid⟩ := Infinite.exists_notMem_finset (w.connections.map (·.id)).toFinset
      rw [List.mem_toFinset] at hid
      cases hpermission : permission r w source sourcePort target targetPort with
      | error error => exact ⟨error, rfl⟩
      | ok _ => exact absurd ((permission_eq_ok_iff h hid).mp hpermission) (hnever id hid)
  closes a b m hne hcycle :=
    transGen_of_permission h hne (runFrom_addConnection_eq_error.mp hcycle).1

/-- A workflow of a trigger and two steps, the second of which comes after the first. -/
private def sequenced : Workflow :=
  let block (id : String) (kind : Kind) : Block := ⟨id, kind.tag, .origin, .empty, none⟩
  { id := "wf", name := "CI", description := ""
    blocks := [block "t" .triggerPush, block "a" .jobCheckout, block "b" .jobLint]
    connections := [⟨"1", "t", "out", "a", "in"⟩, ⟨"2", "a", "out", "b", "in"⟩] }

theorem addConnection_sequenced : sequenced.Coherent .builtin ∧
    AddsLegally .builtin sequenced "t" "out" "b" "in" 1 ∧
    AddsLegally .builtin sequenced "b" "out" "a" "in" 1 ∧
    TransGen (sequenced.StepEdge .builtin) "a" "b" :=
  have h : sequenced.Coherent .builtin := by decide +kernel
  have hback := addConnection_of_coherent .builtin sequenced h "b" "out" "a" "in" 1
  ⟨h, addConnection_of_coherent .builtin sequenced h _ _ _ _ _, hback,
    hback.closes "b" "a" 1 (by decide) (by rfl)⟩

end Editor

end Blockflow
