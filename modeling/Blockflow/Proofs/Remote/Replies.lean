import Blockflow.Proofs.Run.Polling
import Blockflow.Remote.Tracker

/-!
# Replies to a tracker

A tracker that asks about its run gets snapshots and failures, in any order. What it holds then can
be read off the replies: the execution is what the snapshots make of it, and the failures that it
has counted are those since the last snapshot.
-/

namespace Blockflow

namespace PollReply

/-- The snapshots among replies. -/
def snapshots (replies : List PollReply) : List RunSnapshot := replies.filterMap Except.toOption

/-- How many failures there have been since the last snapshot. -/
def streak (replies : List PollReply) : Nat := (replies.reverse.takeWhile fun r ↦ !r.isOk).length

/-- How long to wait after replies: a fixed time after a snapshot, and longer with every failure in
a row. -/
def delay (pace : Pace) (replies : List PollReply) : Nat :=
  if streak replies = 0 then pace.pollInterval else pace.backoff (streak replies)

/-- Whether the last of some replies ends the following: it is a failure that does not pass, or a
snapshot with which the run has come to its end. -/
def endsFollowing (e : Execution) (names : NameMap) (replies : List PollReply) : Bool :=
  match replies.getLast? with
  | some (.ok _) => (e.follow names (snapshots replies)).isTerminal
  | some (.error error) => !error.isTransient
  | none => false

variable {replies : List PollReply} {e : Execution} {names : NameMap}

@[simp] theorem streak_concat_ok (replies : List PollReply) (s : RunSnapshot) :
    streak (replies ++ [.ok s]) = 0 := by
  simp [streak, Except.isOk, Except.toBool]

@[simp] theorem streak_concat_error (replies : List PollReply) (error : RemoteError) :
    streak (replies ++ [.error error]) = streak replies + 1 := by
  simp [streak, Except.isOk, Except.toBool]

theorem streak_le_length (replies : List PollReply) : streak replies ≤ replies.length := by
  have h := (List.takeWhile_sublist (fun r : PollReply ↦ !r.isOk) (l := replies.reverse)).length_le
  simpa [streak] using h

@[simp] theorem snapshots_concat_ok (replies : List PollReply) (s : RunSnapshot) :
    snapshots (replies ++ [.ok s]) = snapshots replies ++ [s] := by
  simp [snapshots, Except.toOption]

@[simp] theorem snapshots_concat_error (replies : List PollReply) (error : RemoteError) :
    snapshots (replies ++ [.error error]) = snapshots replies := by
  simp [snapshots, Except.toOption]

@[simp] theorem endsFollowing_concat_ok (s : RunSnapshot) :
    endsFollowing e names (replies ++ [.ok s]) =
      (e.follow names (snapshots replies ++ [s])).isTerminal := by
  simp [endsFollowing]

@[simp] theorem endsFollowing_concat_error (error : RemoteError) :
    endsFollowing e names (replies ++ [.error error]) = !error.isTransient := by
  simp [endsFollowing]

end PollReply

namespace Tracker

open PollReply

theorem fst_withHealth (t : Tracker) (h : Health) :
    (t.withHealth h).1 = { t with health := h } := by
  unfold withHealth
  split
  · next hsame => rw [← hsame]
  · rfl

theorem fst_receive_ok (t : Tracker) (s : RunSnapshot) : (t.receive (.ok s)).1 =
    { t with execution := t.execution.reduce s t.names, failures := 0, health := .healthy } :=
  fst_withHealth _ _

theorem fst_receive_error (t : Tracker) (error : RemoteError) : ∃ health,
    (t.receive (.error error)).1 = { t with failures := t.failures + 1, health } := by
  simp only [receive, fail]
  split
  · exact ⟨_, fst_withHealth _ _⟩
  · exact ⟨_, rfl⟩

/-- What holds of a tracker that began with an execution and has got the given replies. -/
structure HasReceived (e : Execution) (names : NameMap) (pace : Pace) (t : Tracker)
    (replies : List PollReply) : Prop where
  /-- The names are still the same. -/
  names_eq : t.names = names
  /-- It is still asked as often. -/
  pace_eq : t.pace = pace
  /-- The execution is what the snapshots make of it. -/
  execution_eq : t.execution = e.follow names (snapshots replies)
  /-- The failures since the last snapshot have been counted. -/
  failures_eq : t.failures = streak replies

variable {e : Execution} {names : NameMap} {pace : Pace} {t : Tracker} {replies : List PollReply}

theorem hasReceived_start (e : Execution) (names : NameMap) (pace : Pace) :
    HasReceived e names pace (start e names pace) [] := ⟨rfl, rfl, rfl, rfl⟩

/-- No more failures have been counted than there were replies. -/
theorem HasReceived.failures_le (h : HasReceived e names pace t replies) :
    t.failures ≤ replies.length := by
  rw [h.failures_eq]
  exact streak_le_length replies

/-- A reply changes a tracker as one more reply should. -/
theorem HasReceived.receive (h : HasReceived e names pace t replies) (reply : PollReply) :
    HasReceived e names pace (t.receive reply).1 (replies ++ [reply]) := by
  cases reply with
  | ok s =>
    rw [fst_receive_ok]
    refine ⟨h.names_eq, h.pace_eq, ?_, (streak_concat_ok ..).symm⟩
    rw [snapshots_concat_ok, h.execution_eq, h.names_eq, Execution.follow, Execution.follow,
      List.foldl_concat]
  | error error =>
    obtain ⟨health, hfailed⟩ := t.fst_receive_error error
    rw [hfailed]
    refine ⟨h.names_eq, h.pace_eq, ?_, ?_⟩
    · rw [snapshots_concat_error, h.execution_eq]
    · rw [streak_concat_error, h.failures_eq]

/-- After a reply a tracker waits as the replies ask for, unless the last one ends the following. -/
theorem HasReceived.nextWait? {reply : PollReply}
    (h : HasReceived e names pace t (replies ++ [reply])) : t.nextWait? reply =
      if endsFollowing e names (replies ++ [reply]) then none
      else some (delay pace (replies ++ [reply])) := by
  cases reply with
  | ok s => simp [Tracker.nextWait?, delay, h.execution_eq, h.pace_eq]
  | error error => cases hpasses : error.isTransient <;>
      simp [Tracker.nextWait?, delay, h.failures_eq, h.pace_eq, hpasses]

end Tracker

end Blockflow
