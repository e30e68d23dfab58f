import Blockflow.Workflow.Event

/-!
# Channels

A channel takes events until its receiver closes it.

Component `events` of `workflow-engine`.
-/

namespace Blockflow

/-- A channel with the events that have been received. Record `ChannelEventSink`. -/
structure Channel where
  /-- Whether the receiver still takes events. -/
  isOpen : Bool
  /-- The events so far. -/
  received : List Event
deriving DecidableEq

namespace Channel

/-- Why an event was not taken. Record `EventError`. -/
inductive SendError where
  /-- The receiver has closed the channel. -/
  | closed
deriving DecidableEq

/-- The error in words. -/
def SendError.message : SendError → String
  | .closed => "Event not delivered: Channel closed"

/-- An open channel. -/
def new : Channel := ⟨true, []⟩

/-- The channel after its receiver has closed it. -/
def close (c : Channel) : Channel := { c with isOpen := false }

/-- The channel after an event. Function `ChannelEventSink.send`. -/
def send (c : Channel) (e : Event) : Except SendError Channel :=
  if c.isOpen then .ok { c with received := c.received ++ [e] } else .error .closed

end Channel

end Blockflow
