/-!
# The hub: events handed out to subscribers

Every subscriber has a queue of its own.  An event that is published goes to the end of the queue
of every subscriber; a full queue first loses its oldest event, so a queue holds the latest events.
A queue that is unsubscribed keeps what it has and receives no more.
-/

namespace Lamplighter

/-- the queue of one subscriber -/
structure Subscription (ε : Type) where
  isOpen : Bool
  queue : List ε
  deriving Inhabited

/-- a hub with the size of its queues, which is no limit unless it is positive; a subscriber is
known by its place -/
structure Hub (ε : Type) where
  limit : Int := 200
  subscriptions : List (Subscription ε) := []
  deriving Inhabited

namespace Hub

variable {ε : Type}

/-- a new queue, and the place by which its owner is known -/
def subscribe (hub : Hub ε) : Hub ε × Nat :=
  ({ hub with subscriptions := hub.subscriptions ++ [⟨true, []⟩] }, hub.subscriptions.length)

def unsubscribe (hub : Hub ε) (place : Nat) : Hub ε :=
  { hub with subscriptions := hub.subscriptions.modify place fun s => { s with isOpen := false } }

/-- the number of subscribers -/
def count (hub : Hub ε) : Nat :=
  (hub.subscriptions.filter (·.isOpen)).length

def isFull (limit : Int) (queue : List ε) : Bool :=
  0 < limit && limit ≤ Int.ofNat queue.length

/-- put an event at the end of a queue, at the cost of the oldest one if it is full -/
def push (limit : Int) (queue : List ε) (event : ε) : List ε :=
  (if isFull limit queue then queue.drop 1 else queue) ++ [event]

def publish (hub : Hub ε) (event : ε) : Hub ε :=
  { hub with
    subscriptions := hub.subscriptions.map fun s =>
      if s.isOpen then { s with queue := push hub.limit s.queue event } else s }

def publishAll (hub : Hub ε) (events : List ε) : Hub ε :=
  events.foldl publish hub

/-- the events waiting for a subscriber -/
def waiting (hub : Hub ε) (place : Nat) : List ε :=
  ((hub.subscriptions[place]?).map (·.queue)).getD []

def setQueue (hub : Hub ε) (place : Nat) (queue : List ε) : Hub ε :=
  { hub with subscriptions := hub.subscriptions.modify place fun s => { s with queue := queue } }

/-- take all the events that wait -/
def drain (hub : Hub ε) (place : Nat) : Hub ε × List ε :=
  (hub.setQueue place [], hub.waiting place)

/-- take the oldest event that waits -/
def next? (hub : Hub ε) (place : Nat) : Option (ε × Hub ε) :=
  match hub.waiting place with
  | [] => none
  | event :: rest => some (event, hub.setQueue place rest)

theorem length_push_le {limit : Int} {queue : List ε} (event : ε) (hl : 0 < limit)
    (hq : Int.ofNat queue.length ≤ limit) : Int.ofNat (push limit queue event).length ≤ limit := by
  unfold push
  split
  · rename_i h
    simp only [isFull, Bool.and_eq_true, decide_eq_true_eq] at h
    simp only [List.length_append, List.length_drop, List.length_singleton,
      Int.ofNat_eq_natCast] at *
    omega
  · rename_i h
    simp only [isFull, Bool.and_eq_true, decide_eq_true_eq, not_and] at h
    simp only [List.length_append, List.length_singleton, Int.ofNat_eq_natCast] at *
    omega

end Hub

end Lamplighter
