import Mathlib.Tactic.Common
import Lamplighter.Network.Basic

/-!
# Recorded networks: what is asked of a network is on record

* `Contact`             a client starts or stops listening for bulbs, or sends a request to a bulb;
* `Recorded`            a network of any kind with the contacts so far, of which it takes no notice;
* `Recorded.searches`   those of them that start or stop a search for bulbs.
-/

namespace Lamplighter

/-- what a client asks of a network -/
inductive Contact where
  | start (client : Nat)
  | stop (client : Nat)
  | send (client : Nat) (handle : Handle) (request : Request)
  deriving DecidableEq, Repr

/-- the contact is about a search for bulbs -/
def Contact.isSearch : Contact → Bool
  | .start _ | .stop _ => true
  | .send _ _ _ => false

structure Recorded (ν : Type) where
  inner : ν
  /-- the contacts so far, the earliest first -/
  contacts : List Contact := []

namespace Recorded

variable {ν : Type}

/-- the searches for bulbs that were started and stopped -/
def searches (network : Recorded ν) : List Contact :=
  network.contacts.filter Contact.isSearch

variable [Network ν]

instance : Network (Recorded ν) where
  send network client handle request :=
    let (inner, wait, answer) := Network.send network.inner client handle request
    ({ inner, contacts := network.contacts ++ [.send client handle request] }, wait, answer)
  settle network client handle request answer :=
    let (inner, result, found) := Network.settle network.inner client handle request answer
    ({ network with inner }, result, found)
  start network client :=
    let (inner, result) := Network.start network.inner client
    ({ inner, contacts := network.contacts ++ [.start client] }, result)
  stop network client :=
    { inner := Network.stop network.inner client, contacts := network.contacts ++ [.stop client] }
  signal network signal :=
    let (inner, sighting) := Network.signal network.inner signal
    ({ network with inner }, sighting)

/-! ### What each contact leaves on record -/

@[simp] lemma contacts_send (network : Recorded ν) (client : Nat) (handle : Handle)
    (request : Request) : (Network.send network client handle request).1.contacts
      = network.contacts ++ [.send client handle request] := rfl

@[simp] lemma contacts_settle (network : Recorded ν) (client : Nat) (handle : Handle)
    (request : Request) (answer : Answer) :
    (Network.settle network client handle request answer).1.contacts = network.contacts := rfl

@[simp] lemma contacts_start (network : Recorded ν) (client : Nat) :
    (Network.start network client).1.contacts = network.contacts ++ [.start client] := rfl

@[simp] lemma contacts_stop (network : Recorded ν) (client : Nat) :
    (Network.stop network client).contacts = network.contacts ++ [.stop client] := rfl

@[simp] lemma contacts_signal (network : Recorded ν) (signal : Signal) :
    (Network.signal network signal).1.contacts = network.contacts := rfl

@[simp] lemma searches_send (network : Recorded ν) (client : Nat) (handle : Handle)
    (request : Request) :
    (Network.send network client handle request).1.searches = network.searches := by
  simp [searches, Contact.isSearch]

@[simp] lemma searches_settle (network : Recorded ν) (client : Nat) (handle : Handle)
    (request : Request) (answer : Answer) :
    (Network.settle network client handle request answer).1.searches = network.searches := rfl

@[simp] lemma searches_start (network : Recorded ν) (client : Nat) :
    (Network.start network client).1.searches = network.searches ++ [.start client] := by
  simp [searches, Contact.isSearch]

@[simp] lemma searches_stop (network : Recorded ν) (client : Nat) :
    (Network.stop network client).searches = network.searches ++ [.stop client] := by
  simp [searches, Contact.isSearch]

@[simp] lemma searches_signal (network : Recorded ν) (signal : Signal) :
    (Network.signal network signal).1.searches = network.searches := rfl

end Recorded

end Lamplighter
