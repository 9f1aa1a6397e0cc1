/-!
# Channels

A channel hands every event to every receiver, in order. It keeps only the newest events: a receiver
that falls behind them is told once how many it has missed, and goes on with the oldest event kept.
What was published before a receiver came is not for it.
-/

namespace FacetSearch

structure Channel (α : Type) where
  /-- How many events are kept. -/
  room : Nat
  published : Nat
  /-- The events kept, newest first. -/
  kept : List α
  closed : Bool
deriving Repr

/-- A receiver, by the number of the event it waits for. Events are numbered from zero. -/
structure Receiver where
  position : Nat
deriving DecidableEq, Repr

/-- What a receiver gets without waiting. -/
inductive Received (α : Type) where
  | event (event : α)
  /-- So many events were dropped before the receiver came to them. -/
  | lagged (missed : Nat)
  | empty
  /-- There is nothing more, and nothing more will come. -/
  | closed
deriving DecidableEq, Repr

namespace Channel

variable {α : Type}

def empty (room : Nat) : Channel α := ⟨room, 0, [], false⟩

/-- The bytes of memory that the place for one event takes. -/
def placeSize : Nat := 64

/-- A channel that keeps at least `capacity` events: the next power of two. It has to keep one. The
places for all of them are made at once, and must be smaller than half of what 64 bits address. -/
def ofCapacity? (capacity : Nat) : Option (Channel α) :=
  if 0 < capacity ∧ 2 * placeSize * capacity.nextPowerOfTwo < UInt64.size then
    some (empty capacity.nextPowerOfTwo)
  else none

/-- A receiver of what will be published from now on. -/
def subscribe (channel : Channel α) : Receiver := ⟨channel.published⟩

/-- Publishes an event. On a closed channel nothing can be published. -/
def publish (channel : Channel α) (event : α) : Channel α :=
  if channel.closed then channel
  else
    { channel with
      published := channel.published + 1
      kept := (event :: channel.kept).take channel.room }

/-- Ends the channel. What is kept can still be received. -/
def close (channel : Channel α) : Channel α := { channel with closed := true }

/-- What the receiver gets next, and the receiver after it. -/
def receive (channel : Channel α) (receiver : Receiver) : Received α × Receiver :=
  let oldest := channel.published - channel.kept.length
  if receiver.position < oldest then (.lagged (oldest - receiver.position), ⟨oldest⟩)
  else
    match channel.kept.reverse[receiver.position - oldest]? with
    | some event => (.event event, ⟨receiver.position + 1⟩)
    | none => (if channel.closed then .closed else .empty, receiver)

/-- Receives until nothing is left. With as many steps as events are kept, and one for having
lagged, all is received. -/
def drain (channel : Channel α) (receiver : Receiver) : List (Received α) × Receiver :=
  go (channel.kept.length + 1) receiver
where
  go : Nat → Receiver → List (Received α) × Receiver
    | 0, receiver => ([], receiver)
    | steps + 1, receiver =>
      match channel.receive receiver with
      | (.empty, _) => ([], receiver)
      | (.closed, _) => ([], receiver)
      | (received, receiver) =>
        let (rest, last) := go steps receiver
        (received :: rest, last)

end Channel

end FacetSearch
