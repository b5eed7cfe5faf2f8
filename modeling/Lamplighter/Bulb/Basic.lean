/-!
# Bulbs: the handle of one, and its state

Every channel of a state is on the 16-bit scale of the lights.  A bulb is on when its power is not
zero.
-/

namespace Lamplighter

/-- the port that lights listen on -/
def defaultPort : Int := 56700

/-- how a bulb is addressed; its label is also its name -/
structure Handle where
  serial : String
  label : String
  host : String
  port : Int := defaultPort
  deriving DecidableEq, Repr, Inhabited

namespace Handle

def name (handle : Handle) : String :=
  handle.label

end Handle

structure BulbState where
  label : String
  power : Int
  hue : Int
  saturation : Int
  brightness : Int
  kelvin : Int
  duration : Int := 0
  deriving DecidableEq, Repr, Inhabited

def powerOff : Int := 0

def powerOn : Int := 0xFFFF

/-- the largest value of a channel -/
def maxLevel : Int := 0xFFFF

namespace BulbState

def isOn (state : BulbState) : Bool :=
  state.power != powerOff

end BulbState

end Lamplighter
