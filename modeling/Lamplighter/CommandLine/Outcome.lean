import Lamplighter.Bulb.Record
import Lamplighter.CommandLine.Arguments
import Lamplighter.Run.Fault
import Lamplighter.Settings

/-!
# Outcomes: how a program ends

A program ends with an exit code, or with a fault that nothing in it deals with.
-/

namespace Lamplighter.CommandLine

/-- a fault that a program does not deal with -/
inductive Crash where
  | settings (fault : SettingsFault)
  | run (fault : Fault)
  /-- the reply of a server is not made as it should be -/
  | reply (fault : RecordFault)
  deriving Repr

def Crash.message : Crash → String
  | .settings fault => fault.message
  | .run fault => fault.message
  | .reply fault => fault.message

structure Outcome where
  result : Except Crash Nat
  output : String := ""
  errors : String := ""

namespace Outcome

def crash (crash : Crash) (output : String := "") : Outcome :=
  { result := .error crash, output }

/-- the end of a program whose arguments are not gone on with -/
def ofHalt (grammar : Grammar) : Halt → Outcome
  | .help => { result := .ok 0, output := "usage: " ++ grammar.program ++ " [options]\n" }
  | .usage error => { result := .ok 2, errors := error.line grammar.program }

end Outcome

def helpOption : OptionSpec := ⟨["-h", "--help"], .help⟩

def verboseOption : OptionSpec := ⟨["--verbose", "-v"], .flag⟩

end Lamplighter.CommandLine
