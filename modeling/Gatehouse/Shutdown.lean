namespace Gatehouse

/-- What one look at a subscription finds. -/
inductive Polled where
  | fired
  | empty
  /-- So many signals were missed; the oldest one that is kept is still to be seen. -/
  | lagged (missed : Nat)
deriving DecidableEq, Repr

/-- A channel that keeps the newest signals, as many as its capacity. They are counted from zero. -/
structure Channel where
  capacity : Nat
  sent : Nat
deriving DecidableEq, Repr

namespace Channel

/-- The number of the oldest signal that is kept, or of the next one where none was sent. -/
def oldest (c : Channel) : Nat := c.sent - c.capacity

/-- Looks for the signal of this number: what is found, and the number to look for next. -/
def receive (c : Channel) (next : Nat) : Polled × Nat :=
  if next < c.oldest then (.lagged (c.oldest - next), c.oldest)
  else if next < c.sent then (.fired, next + 1)
  else (.empty, next)

end Channel

structure Shutdown where
  /-- How many handles there are. All of them share the channel. -/
  handles : Nat
  channel : Channel
  /-- The number of the signal that each subscriber looks for next. -/
  next : List Nat
deriving DecidableEq, Repr

namespace Shutdown

/-- A handle of a channel for one signal, with no subscribers. -/
def new : Shutdown := ⟨1, ⟨1, 0⟩, []⟩

def clone (s : Shutdown) : Shutdown := { s with handles := s.handles + 1 }

/-- A new subscriber looks for the signals to come. -/
def subscribe (s : Shutdown) : Shutdown := { s with next := s.next ++ [s.channel.sent] }

/-- Sends a signal, whoever looks for it. -/
def trigger (s : Shutdown) : Shutdown := { s with channel.sent := s.channel.sent + 1 }

/-- How many of the signals that were sent each subscriber has still to see or to be told of. -/
def pending (s : Shutdown) : List Nat := s.next.map (s.channel.sent - ·)

/-- Looks at one subscription, if there is such a one. -/
def pollOne? (s : Shutdown) (subscriber : Nat) : Option (Polled × Shutdown) :=
  s.next[subscriber]?.map fun next =>
    let (found, next) := s.channel.receive next
    (found, { s with next := s.next.set subscriber next })

/-- Looks at every subscription once. -/
def poll (s : Shutdown) : List Polled × Shutdown :=
  (s.next.map fun next => (s.channel.receive next).1,
    { s with next := s.next.map fun next => (s.channel.receive next).2 })

end Shutdown

end Gatehouse
