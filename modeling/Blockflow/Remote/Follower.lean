import Blockflow.Remote.Tracker

/-!
# Following a run

A follower keeps a tracker asking, waits between its questions, and may be stopped at any moment.
It works beside others, so it is written as a machine: what it is about to do, and what it makes of
the things that happen to it. A signal to stop that comes while it does not wait is kept, and cuts
the next wait short.

Component `tracker` of `workflow-sync`; specification §5 and C.5.
-/

namespace Blockflow

/-- What a follower is about to do. -/
inductive Follower.Phase where
  /-- It looks whether to go on. -/
  | ready
  /-- It has asked, and expects a reply. -/
  | asking
  /-- It waits so many milliseconds. -/
  | waiting (ms : Nat)
  /-- It does nothing any more. -/
  | ended
deriving DecidableEq, Inhabited

/-- Someone who keeps a tracker asking. Record `TrackerHandle`. -/
structure Follower where
  /-- The tracker. -/
  tracker : Tracker
  /-- What it is about to do. -/
  phase : Follower.Phase
  /-- Whether nobody has asked it to stop. -/
  wanted : Bool
  /-- Whether a signal has come that no wait has used up. -/
  signalled : Bool
deriving DecidableEq, Inhabited

namespace Follower

/-- A follower that has not begun. -/
def new (t : Tracker) : Follower := ⟨t, .ready, true, false⟩

/-- Whether it will still ask, as far as it knows. Function `is_running`. -/
def isRunning (f : Follower) : Bool := f.wanted && f.phase ≠ .ended

/-- Looks whether to go on: asks, unless it shall stop. -/
def look (f : Follower) : Follower :=
  match f.phase with
  | .ready => { f with phase := if f.wanted then .asking else .ended }
  | _ => f

/-- Begins a wait, which a kept signal ends at once. Part of `run_loop`. -/
def rest (f : Follower) (ms : Nat) : Follower :=
  if f.signalled then { f with phase := .ready, signalled := false }
  else { f with phase := .waiting ms }

/-- Takes the reply it has asked for. Part of `run_loop`. -/
def receive (f : Follower) (reply : PollReply) : Follower × List Event :=
  match f.phase with
  | .asking =>
    let (t, events) := f.tracker.receive reply
    let f := { f with tracker := t }
    match t.nextWait? reply with
    | some ms => (f.rest ms, events)
    | none => ({ f with phase := .ended }, events)
  | _ => (f, [])

/-- Lets time pass; a wait that is over makes it ready. -/
def elapse (f : Follower) (ms : Nat) : Follower :=
  match f.phase with
  | .waiting left => { f with phase := if left ≤ ms then .ready else .waiting (left - ms) }
  | _ => f

/-- Asks it to stop, and wakes it if it waits. Function `stop`. -/
def stop (f : Follower) : Follower :=
  match f.phase with
  | .waiting _ => { f with wanted := false, phase := .ready }
  | .ended => { f with wanted := false }
  | _ => { f with wanted := false, signalled := true }

end Follower

end Blockflow
