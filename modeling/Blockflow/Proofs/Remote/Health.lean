import Blockflow.Proofs.Remote.Replies
import Blockflow.Proofs.Workflow.Telling

/-!
# Whether a run is in sight

A tracker says that its run is out of sight after a failure that does not pass, or after as many
failures in a row as its pace allows. Main statement: whatever replies come, what it says can be
read off the failures since the last snapshot, events tell every change of it and nothing else, and
failures leave the execution alone. Failures are counted without a bound, and never beyond the
number of replies.
-/

namespace Blockflow

/-- Whether the run is in sight, if an event tells that. -/
def Event.health? : Event → Option Health
  | .healthChanged _ _ health => some health
  | _ => none

/-! ### Failures in a row -/

namespace PollReply

/-- Why a reply is no snapshot, if it is none. -/
def failure? : PollReply → Option RemoteError
  | .ok _ => none
  | .error e => some e

/-- The failures since the last snapshot, the earliest first. -/
def outage (replies : List PollReply) : List RemoteError :=
  (replies.reverse.takeWhile fun r ↦ !r.isOk).reverse.filterMap failure?

@[simp] theorem outage_concat_ok (replies : List PollReply) (s : RunSnapshot) :
    outage (replies ++ [.ok s]) = [] := by
  simp [outage, Except.isOk, Except.toBool]

@[simp] theorem outage_concat_error (replies : List PollReply) (error : RemoteError) :
    outage (replies ++ [.error error]) = outage replies ++ [error] := by
  simp [outage, failure?, Except.isOk, Except.toBool]

theorem length_outage (replies : List PollReply) :
    (outage replies).length = streak replies := by
  induction replies using List.reverseRecOn with
  | nil => rfl
  | append_singleton replies reply ih =>
    cases reply with
    | ok s => simp
    | error error => simp [ih]

end PollReply

/-- Whether a failure is a reason to say that a run is out of sight: it does not pass, or it is not
below the threshold in the count of failures in a row. -/
def RemoteError.Alarms (threshold place : Nat) (e : RemoteError) : Prop :=
  e.isTransient = false ∨ threshold ≤ place

instance (threshold place : Nat) (e : RemoteError) : Decidable (e.Alarms threshold place) :=
  inferInstanceAs (Decidable (_ ∨ _))

theorem RemoteError.not_alarms_iff {threshold place : Nat} {e : RemoteError} :
    ¬e.Alarms threshold place ↔ e.isTransient = true ∧ place < threshold := by
  simp [Alarms]

/-- Whether a failure is the last one of those in a row that is a reason to say that the run is out
of sight; so many failures are before it. -/
structure LastAlarm (threshold : Nat) (failures : List RemoteError) (before : Nat)
    (e : RemoteError) : Prop where
  /-- It stands at this place. -/
  getElem? : failures[before]? = some e
  /-- It is a reason. -/
  alarms : e.Alarms threshold (before + 1)
  /-- None after it is one. -/
  last : ∀ later f, before < later → failures[later]? = some f → ¬f.Alarms threshold (later + 1)

section LastAlarm

variable {threshold before : Nat} {failures : List RemoteError} {e f : RemoteError}

/-- What stands in a longer row of failures stood there before, or is the one that was added. -/
private theorem of_getElem?_concat (h : (failures ++ [e])[before]? = some f) :
    failures[before]? = some f ∨ before = failures.length ∧ e = f := by
  by_cases hearlier : before < failures.length
  · rw [List.getElem?_append_left hearlier] at h
    exact .inl h
  · have hlength := (List.getElem?_eq_some_iff.mp h).1
    rw [List.length_append, List.length_singleton] at hlength
    obtain rfl : before = failures.length := by omega
    exact .inr ⟨rfl, by simpa using h⟩

theorem LastAlarm.unique {other : Nat} (h : LastAlarm threshold failures before e)
    (h' : LastAlarm threshold failures other f) : before = other ∧ e = f := by
  have hplace : before = other := by
    rcases Nat.lt_trichotomy before other with hlt | heq | hgt
    · exact absurd h'.alarms (h.last other f hlt h'.getElem?)
    · exact heq
    · exact absurd h.alarms (h'.last before e hgt h.getElem?)
  subst hplace
  exact ⟨rfl, Option.some.inj (h.getElem?.symm.trans h'.getElem?)⟩

/-- A further failure that is a reason is the last one. -/
theorem lastAlarm_concat (h : e.Alarms threshold (failures.length + 1)) :
    LastAlarm threshold (failures ++ [e]) failures.length e where
  getElem? := List.getElem?_concat_length
  alarms := h
  last later f hlater hf := by
    have hlength := (List.getElem?_eq_some_iff.mp hf).1
    rw [List.length_append, List.length_singleton] at hlength
    omega

/-- A further failure that is none changes nothing. -/
theorem LastAlarm.concat (h : LastAlarm threshold failures before e)
    (hf : ¬f.Alarms threshold (failures.length + 1)) :
    LastAlarm threshold (failures ++ [f]) before e where
  getElem? := by
    have hlength := (List.getElem?_eq_some_iff.mp h.getElem?).1
    rw [List.getElem?_append_left hlength, h.getElem?]
  alarms := h.alarms
  last later g hlater hg := by
    rcases of_getElem?_concat hg with hearlier | ⟨rfl, rfl⟩
    · exact h.last later g hlater hearlier
    · exact hf

end LastAlarm

/-- Whether a health is what failures in a row make of it: it names the last of them that was a
reason to say that the run is out of sight, or there was none. -/
def Health.Reflects (threshold : Nat) (failures : List RemoteError) : Health → Prop
  | .healthy =>
    ∀ before (e : RemoteError), failures[before]? = some e → ¬e.Alarms threshold (before + 1)
  | .degraded count reason =>
    ∃ before e, LastAlarm threshold failures before e ∧ count = before + 1 ∧ reason = e.message

namespace Health

variable {threshold : Nat} {failures : List RemoteError} {health : Health}

theorem reflects_nil : healthy.Reflects threshold [] := fun _ _ h ↦ by simp at h

/-- After a further failure the health is another one if the failure is a reason for that. -/
theorem Reflects.concat (h : health.Reflects threshold failures) (e : RemoteError) :
    (if e.Alarms threshold (failures.length + 1) then .degraded (failures.length + 1) e.message
      else health).Reflects threshold (failures ++ [e]) := by
  by_cases halarms : e.Alarms threshold (failures.length + 1)
  · rw [if_pos halarms]
    exact ⟨failures.length, e, lastAlarm_concat halarms, rfl, rfl⟩
  · rw [if_neg halarms]
    cases health with
    | healthy =>
      intro before f hf
      rcases of_getElem?_concat hf with hearlier | ⟨rfl, rfl⟩
      · exact h before f hearlier
      · exact halarms
    | degraded count reason =>
      obtain ⟨before, f, hlast, hcount, hreason⟩ := h
      exact ⟨before, f, hlast.concat halarms, hcount, hreason⟩

/-- A run is in sight if no failure was a reason to say otherwise. -/
theorem Reflects.eq_healthy_iff (h : health.Reflects threshold failures) : health = .healthy ↔
    ∀ before e, failures[before]? = some e → e.isTransient = true ∧ before + 1 < threshold := by
  constructor
  · rintro rfl before e he
    exact RemoteError.not_alarms_iff.mp (h before e he)
  · intro hnone
    cases health with
    | healthy => rfl
    | degraded count reason =>
      obtain ⟨before, e, hlast, -, -⟩ := h
      have halarms := hlast.alarms
      exact absurd halarms (RemoteError.not_alarms_iff.mpr (hnone before e hlast.getElem?))

/-- A run is out of sight for the last failure that was a reason to say so. -/
theorem Reflects.eq_degraded_iff (h : health.Reflects threshold failures) {count : Nat}
    {reason : String} : health = .degraded count reason ↔
      ∃ before e, LastAlarm threshold failures before e ∧ count = before + 1 ∧
        reason = e.message := by
  constructor
  · rintro rfl
    exact h
  · rintro ⟨before, e, hlast, rfl, rfl⟩
    cases health with
    | healthy => exact absurd hlast.alarms (h before e hlast.getElem?)
    | degraded count reason =>
      obtain ⟨other, f, hother, rfl, rfl⟩ := h
      obtain ⟨rfl, rfl⟩ := hlast.unique hother
      rfl

end Health

namespace Tracker

open PollReply

/-! ### One reply -/

theorem health_receive_ok (t : Tracker) (s : RunSnapshot) :
    (t.receive (.ok s)).1.health = .healthy := by
  rw [fst_receive_ok]

/-- A failure counts, and changes the health if it is a reason for that. -/
theorem receive_error (t : Tracker) (error : RemoteError) : t.receive (.error error) =
    if error.Alarms t.pace.failureThreshold (t.failures + 1) then
      { t with failures := t.failures + 1 }.withHealth
        (.degraded (t.failures + 1) error.message)
    else ({ t with failures := t.failures + 1 }, []) := by
  rw [receive, fail]
  refine if_congr ?_ rfl rfl
  simp [RemoteError.Alarms]

theorem health_receive_error (t : Tracker) (error : RemoteError) :
    (t.receive (.error error)).1.health =
      if error.Alarms t.pace.failureThreshold (t.failures + 1) then
        .degraded (t.failures + 1) error.message
      else t.health := by
  rw [receive_error]
  split
  · rw [fst_withHealth]
  · rfl

/-- A failure leaves the execution alone. -/
theorem execution_receive_error (t : Tracker) (error : RemoteError) :
    (t.receive (.error error)).1.execution = t.execution := by
  obtain ⟨health, hfailed⟩ := t.fst_receive_error error
  rw [hfailed]

theorem filterMap_health?_withHealth (t : Tracker) (h : Health) :
    (t.withHealth h).2.filterMap Event.health? = if t.health = h then [] else [h] := by
  unfold withHealth
  split <;> rfl

/-- Steps forward say nothing of the health. -/
theorem filterMap_health?_moves (before after : Execution) :
    (moves before after).filterMap Event.health? = [] := by
  rw [List.filterMap_eq_nil_iff]
  intro event hevent
  rcases List.mem_append.mp hevent with hblock | hrun
  · obtain ⟨b, -, rfl⟩ := List.mem_map.mp hblock
    rfl
  · split at hrun
    · simp at hrun
    · obtain rfl := List.mem_singleton.mp hrun
      rfl

/-- A reply has the health told exactly if it changes it. -/
theorem filterMap_health?_receive (t : Tracker) (reply : PollReply) :
    (t.receive reply).2.filterMap Event.health? =
      if (t.receive reply).1.health = t.health then [] else [(t.receive reply).1.health] := by
  cases reply with
  | ok s =>
    rw [health_receive_ok]
    simp only [receive, succeed, apply, List.filterMap_append, filterMap_health?_moves,
      filterMap_health?_withHealth, List.nil_append, eq_comm]
  | error error =>
    rw [health_receive_error, receive_error]
    split
    · rw [filterMap_health?_withHealth]
      simp only [eq_comm]
    · rw [if_pos rfl]
      rfl

/-! ### All replies -/

/-- The tracker after replies, and what has been told of them. -/
def receiveAll (t : Tracker) (replies : List PollReply) : Tracker × List Event :=
  replies.foldl (fun told r ↦ ((told.1.receive r).1, told.2 ++ (told.1.receive r).2)) (t, [])

theorem receiveAll_concat (t : Tracker) (replies : List PollReply) (reply : PollReply) :
    t.receiveAll (replies ++ [reply]) = (((t.receiveAll replies).1.receive reply).1,
      (t.receiveAll replies).2 ++ ((t.receiveAll replies).1.receive reply).2) :=
  List.foldl_concat ..

/-- What holds of a tracker that began with an execution, has got the given replies, and has told
the given events. -/
structure Watches (e : Execution) (names : NameMap) (pace : Pace) (replies : List PollReply)
    (told : Tracker × List Event) : Prop where
  /-- It has made of the replies what it should. -/
  received : HasReceived e names pace told.1 replies
  /-- Its health is what the failures in a row make of it. -/
  reflects : told.1.health.Reflects pace.failureThreshold (outage replies)
  /-- The health was told whenever it changed. -/
  health : Told Event.health? (fun a b ↦ a ≠ b) .healthy told.1.health told.2

variable {e : Execution} {names : NameMap} {pace : Pace} {replies : List PollReply}
  {told : Tracker × List Event}

theorem watches_start (e : Execution) (names : NameMap) (pace : Pace) :
    Watches e names pace [] (start e names pace, []) :=
  ⟨hasReceived_start e names pace, Health.reflects_nil, .nil⟩

/-- A tracker goes on as it should. -/
theorem Watches.receive (h : Watches e names pace replies told) (reply : PollReply) :
    Watches e names pace (replies ++ [reply])
      ((told.1.receive reply).1, told.2 ++ (told.1.receive reply).2) where
  received := h.received.receive reply
  reflects := by
    cases reply with
    | ok s =>
      rw [health_receive_ok, outage_concat_ok]
      exact Health.reflects_nil
    | error error =>
      rw [health_receive_error, outage_concat_error, h.received.pace_eq,
        h.received.failures_eq, ← length_outage]
      exact h.reflects.concat error
  health := by
    have htold := told.1.filterMap_health?_receive reply
    by_cases hsame : (told.1.receive reply).1.health = told.1.health
    · rw [if_pos hsame] at htold
      rw [hsame]
      exact h.health.append_of_eq_nil htold
    · rw [if_neg hsame] at htold
      exact h.health.append_of_eq_singleton htold (Ne.symm hsame)

theorem watches_receiveAll (e : Execution) (names : NameMap) (pace : Pace)
    (replies : List PollReply) :
    Watches e names pace replies ((start e names pace).receiveAll replies) := by
  induction replies using List.reverseRecOn with
  | nil => exact watches_start e names pace
  | append_singleton replies reply ih =>
    rw [receiveAll_concat]
    exact ih.receive reply

/-- Whatever replies come after a tracker has begun, it says that its run is in sight exactly if all
failures since the last snapshot pass and are fewer than its threshold, and otherwise that it is out
of sight for the last of them that does not pass or is not below the threshold. The execution is
what the snapshots make of it, and a failure leaves it alone. The health is told exactly when a
reply changes it, so that what was told last is the health now. No more failures have been counted
than there were replies. -/
theorem health_receiveAll (e : Execution) (names : NameMap) (pace : Pace)
    (replies : List PollReply) :
    let told := (start e names pace).receiveAll replies
    (told.1.health = .healthy ↔ ∀ before error, (outage replies)[before]? = some error →
      error.isTransient = true ∧ before + 1 < pace.failureThreshold) ∧
    (∀ count reason, told.1.health = .degraded count reason ↔
      ∃ before error, LastAlarm pace.failureThreshold (outage replies) before error ∧
        count = before + 1 ∧ reason = error.message) ∧
    told.1.execution = e.follow names (snapshots replies) ∧
    Told Event.health? (fun a b ↦ a ≠ b) .healthy told.1.health told.2 ∧
    told.1.failures ≤ replies.length ∧
    ∀ reply, let next := told.1.receive reply
      (∀ error, reply = .error error → next.1.execution = told.1.execution) ∧
      next.2.filterMap Event.health? =
        if next.1.health = told.1.health then [] else [next.1.health] := by
  intro told
  have hwatches : Watches e names pace replies told := watches_receiveAll e names pace replies
  refine ⟨hwatches.reflects.eq_healthy_iff, fun _ _ ↦ hwatches.reflects.eq_degraded_iff,
    hwatches.received.execution_eq, hwatches.health, hwatches.received.failures_le,
    fun reply ↦ ⟨?_, ?_⟩⟩
  · rintro error rfl
    exact told.1.execution_receive_error error
  · exact told.1.filterMap_health?_receive reply

end Tracker

end Blockflow
