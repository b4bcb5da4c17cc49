import Inquiry.Store.Basic

/-!
# The world that execution acts on

Execution acts on a record store.  The world holds the state of the store, the
time that is left until a deadline if there is one, the time until someone
outside asks for cancellation if anyone does, and the record of what happened:
every call with which execution turned to the store, and every request to
cancel.  Whether execution is cancelled is read off this record, so it stays
cancelled.
-/

set_option autoImplicit false

namespace Inquiry

/-- Something that happened. -/
inductive Event where
  /-- A call to the store began. -/
  | call (call : Call)
  /-- Cancellation was asked for. -/
  | cancellation

/-- Why execution stops before it has a result. -/
inductive Stop where
  /-- It was cancelled before the attempt with this number. -/
  | cancelled (attempt : Nat)
  /-- The deadline passed. -/
  | timedOut
deriving DecidableEq

/-- The world that execution acts on. -/
structure World (State : Type) where
  store : State
  /-- What happened, in order. -/
  events : List Event := []
  /-- The time until the deadline, in milliseconds; none is no deadline. -/
  remaining : Option Nat := none
  /-- The time until someone outside asks for cancellation, in milliseconds; none is never. -/
  requestedIn : Option Nat := none

/-- The call that an event is. -/
def Event.call? : Event → Option Call
  | .call made => some made
  | .cancellation => none

namespace World

variable {State : Type}

/-- The calls that were made, in order. -/
def calls (world : World State) : List Call := world.events.filterMap Event.call?

/-- Whether cancellation was asked for. -/
def isCancelled (world : World State) : Bool :=
  world.events.any (fun event => event.call?.isNone)

/-- The world after a request to cancel. -/
def cancel (world : World State) : World State :=
  { world with events := world.events ++ [.cancellation] }

/-- The world after some time; a request from outside is recorded when it falls into that time. -/
def pass (time : Nat) (world : World State) : World State :=
  let later := { world with remaining := world.remaining.map (· - time) }
  match world.requestedIn with
  | none => later
  | some due =>
      if due ≤ time then { later with requestedIn := none }.cancel
      else { later with requestedIn := some (due - time) }

/-- The world after some time, unless the deadline passes before. -/
def spend (time : Nat) (world : World State) : Except Stop (World State) :=
  if world.remaining.any (· < time) then .error .timedOut else .ok (world.pass time)

/-- The world after a call to the store, and the reply. -/
def run (store : RecordStore State) (call : Call) (world : World State) :
    Reply × World State :=
  let (reply, after) := store.run call world.store
  let effects : List Event := if reply.cancels then [.call call, .cancellation] else [.call call]
  (reply, { world with store := after, events := world.events ++ effects })

/-- After a request to cancel, the world is cancelled. -/
@[simp] theorem isCancelled_cancel (world : World State) : world.cancel.isCancelled = true := by
  simp [cancel, isCancelled, Event.call?]

end World

end Inquiry
