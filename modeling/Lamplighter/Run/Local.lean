import Lamplighter.Network.Lan
import Lamplighter.Run.Session

/-!
# Runs on the local network

A run on the local network has a client of its own, which the settings configure, and which listens
no longer once the run has ended.
-/

namespace Lamplighter

/-- a new client as the settings configure it -/
def LanClient.ofSettings (settings : Settings) : LanClient :=
  { broadcast := settings.broadcast, interval := settings.discoveryInterval }

/-- run an action with a client of its own, and tell how the run went -/
def Session.runLocally (s : Session Lan) (action : Action) (settings : Settings) :
    Session Lan × Run :=
  let (network, client) := s.network.addClient (.ofSettings settings)
  let run := Run.ofAction action settings client (.recorder [])
  let (s, r) := { s with network }.runThrough run
  (s.unlisten client, (s.runs[r]?).getD run)

end Lamplighter
