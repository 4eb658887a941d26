import QuorumRouting.CommandLine.BalanceReport
import QuorumRouting.CommandLine.Invocation
import QuorumRouting.CommandLine.RingReport
import QuorumRouting.CommandLine.SimulationReport
import QuorumRouting.Settings.File

/-!
Running a command: the settings come from the file that the user named, or are the usual ones, and
the lines of the report are the output.
-/

set_option autoImplicit false

namespace QuorumRouting.CommandLine

def Invocation.settings (invocation : Invocation) (files : Files) : Except Trouble Settings :=
  match invocation.common.config with
  | none => .ok .usual
  | some path =>
      match files path with
      | .error reason => .error (.unreadableFile path reason)
      | .ok text => (Settings.ofText text).mapError (.unusableFile path)

def Command.report (settings : Settings) (draws : Draws) :
    Command → Except (Failure Trouble) (List String)
  | .ring request => request.report settings
  | .balance request => request.report draws
  | .simulate request => request.report settings

def outputOf (lines : List String) : String :=
  String.join (lines.map (fun line => line ++ "\n"))

def Invocation.run (invocation : Invocation) (files : Files) (draws : Draws) :
    Except (Failure Trouble) String := do
  let settings ← (invocation.settings files).mapError Failure.refused
  let lines ← invocation.command.report settings draws
  return outputOf lines

end QuorumRouting.CommandLine
