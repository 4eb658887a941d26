import QuorumRouting.CommandLine.Files
import QuorumRouting.Failure

/-!
Why a command that was understood gives no output.
-/

set_option autoImplicit false

namespace QuorumRouting.CommandLine

inductive Trouble where
  | unreadableFile (path : String) (reason : Unreadable)
  | unusableFile (path : String) (reason : Refusal)
  | noRing (reason : Refusal)
  | noSamples
  | noNodes
  | unknownNode (id : String) (count : Nat)
  | noRouting (reason : Refusal)
  deriving DecidableEq, Repr

def Trouble.message : Trouble → String
  | .unreadableFile path reason => "failed to read " ++ path ++ ": " ++ reason.message
  | .unusableFile path reason => "invalid config " ++ path ++ ": " ++ reason.message
  | .noRing reason => "failed to build ring: " ++ reason.message
  | .noSamples => "--samples must be > 0"
  | .noNodes => "--nodes must be > 0"
  | .unknownNode id count =>
      "--fail " ++ id ++ ": no such node (expected node-1..node-" ++ toString count ++ ")"
  | .noRouting reason => reason.message

end QuorumRouting.CommandLine
