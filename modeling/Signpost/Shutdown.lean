/-!
# The shutdown signal

A signal that is triggered in one place and reaches everybody who has subscribed.  Only the latest
signal is kept: a subscriber that has let several pass is first told how many it has missed, and
then gets the last one.  A signal that is triggered while nobody listens is lost, and a subscriber
never gets a signal from before its subscription.

Signals are numbered in the order of their triggering.  A subscriber is no more than the number of
the signal it waits for.
-/

namespace Signpost

/-- The signal and its subscribers. -/
structure Shutdown where
  /-- The number of signals that have been sent. -/
  sent : Nat
  /-- For each subscriber in the order of subscription, the number of signals that were sent before
  the one it waits for; nothing for one that has left. -/
  subscribers : List (Option Nat)
  deriving DecidableEq, Repr

namespace Shutdown

/-- What a subscriber is told when it looks for a signal. -/
inductive Receipt where
  | signal
  | empty
  | lagged (missed : Nat)
  | noSubscriber
  deriving DecidableEq, Repr

/-- No signal and no subscriber. -/
def new : Shutdown := ⟨0, []⟩

/-- The number of subscribers that have not left. -/
def listening (s : Shutdown) : Nat :=
  s.subscribers.countP Option.isSome

/-- A new subscriber and its index. -/
def subscribe (s : Shutdown) : Nat × Shutdown :=
  (s.subscribers.length, { s with subscribers := s.subscribers ++ [some s.sent] })

/-- Sends a signal, if anybody listens. -/
def trigger (s : Shutdown) : Shutdown :=
  if s.listening = 0 then s else { s with sent := s.sent + 1 }

/-- The signal that a subscriber waits for. -/
def awaited? (s : Shutdown) (i : Nat) : Option Nat :=
  s.subscribers[i]?.join

/-- Lets a subscriber leave; tells whether it was there. -/
def leave (s : Shutdown) (i : Nat) : Bool × Shutdown :=
  ((s.awaited? i).isSome, { s with subscribers := s.subscribers.set i none })

/-- What a subscriber finds, without waiting. -/
def receive (s : Shutdown) (i : Nat) : Receipt × Shutdown :=
  match s.awaited? i with
  | none => (.noSubscriber, s)
  | some next =>
    let waitFor (n : Nat) : Shutdown := { s with subscribers := s.subscribers.set i (some n) }
    if s.sent ≤ next then (.empty, s)
    else if s.sent = next + 1 then (.signal, waitFor s.sent)
    else (.lagged (s.sent - 1 - next), waitFor (s.sent - 1))

/-! ## Runs -/

/-- Something that is done with the signal. -/
inductive Action where
  | subscribe
  | trigger
  | leave (i : Nat)
  | receive (i : Nat)
  deriving DecidableEq, Repr

/-- What comes of an action. -/
inductive Outcome where
  | subscribed (index : Nat)
  | triggered
  | left (wasThere : Bool)
  | received (receipt : Receipt)
  deriving DecidableEq, Repr

/-- One action and its outcome. -/
def step (s : Shutdown) : Action → Outcome × Shutdown
  | .subscribe =>
    let (index, s) := s.subscribe
    (.subscribed index, s)
  | .trigger => (.triggered, s.trigger)
  | .leave i =>
    let (wasThere, s) := s.leave i
    (.left wasThere, s)
  | .receive i =>
    let (receipt, s) := s.receive i
    (.received receipt, s)

/-- A sequence of actions: after each of them its outcome and the number of those who listen. -/
def run (s : Shutdown) : List Action → List (Outcome × Nat) × Shutdown
  | [] => ([], s)
  | action :: actions =>
    let (outcome, s) := s.step action
    let (outcomes, last) := s.run actions
    ((outcome, s.listening) :: outcomes, last)

end Shutdown

end Signpost
