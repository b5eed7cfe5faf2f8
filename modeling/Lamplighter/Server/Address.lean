import Lamplighter.Settings

/-!
# The address of the front

The front listens at the host that the environment names, else on every interface, and at the port
of the settings.
-/

namespace Lamplighter.Server

structure Address where
  host : String
  port : Int
  deriving DecidableEq, Repr, Inhabited

namespace Address

/-- every interface -/
def anyHost : String := "0.0.0.0"

def ofEnvironment (env : Environment) (place : Place) : Except SettingsFault Address := do
  let settings ← Settings.ofEnvironment env place
  return { host := (env.get? "HOST").getD anyHost, port := settings.port }

end Address

end Lamplighter.Server
