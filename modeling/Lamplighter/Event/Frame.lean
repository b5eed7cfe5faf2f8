import Lamplighter.Event.Basic
import Lamplighter.Json.Writer

/-!
# Frames: events as a stream of text

An event is one line of data and an empty line.  While there is nothing to send, a comment keeps the
stream alive.
-/

namespace Lamplighter.Frame

/-- how long a stream waits for an event before it sends a comment -/
def patience : Duration := .seconds 15

def ofEvent (event : Event) : String :=
  "data: " ++ event.toJson.toText .ascii ++ "\n\n"

def keepAlive : String := ": keepalive\n\n"

end Lamplighter.Frame
