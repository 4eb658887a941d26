import QuorumRouting.Json.Number
import QuorumRouting.Json.Text
import QuorumRouting.Settings.Basic

/-!
The settings that a file can hold, one by one: the name of each, how its value is written and how
it is read. A test for ignored errors cannot be written down and is not among them.
-/

set_option autoImplicit false

namespace QuorumRouting

inductive Field where
  | quorumSize
  | virtualNodes
  | failureRatioThreshold
  | minRequests
  | healthCheckInterval
  | probeInterval
  | connectionWait
  | ignoredKinds
  deriving DecidableEq, Repr

namespace Field

def all : List Field :=
  [.quorumSize, .virtualNodes, .failureRatioThreshold, .minRequests, .healthCheckInterval,
    .probeInterval, .connectionWait, .ignoredKinds]

def name : Field → String
  | .quorumSize => "quorum_size"
  | .virtualNodes => "virtual_nodes_per_physical_node"
  | .failureRatioThreshold => "failure_ratio_threshold"
  | .minRequests => "min_requests_per_window"
  | .healthCheckInterval => "health_check_interval_ms"
  | .probeInterval => "probe_interval_secs"
  | .connectionWait => "max_wait_for_connection_ms"
  | .ignoredKinds => "ignored_error_kinds"

def ofName? (name : String) : Option Field :=
  all.find? (fun field => field.name = name)

theorem ofName?_name (field : Field) : ofName? field.name = some field := by
  cases field <;> decide

/-- Thresholds in a file: positional from `0.00001` up, and ties go to the even neighbour. -/
def thresholdStyle : Decimal.Style :=
  { tie := .even, positional := some (-4, 16), keepsPoint := true }

def separated : List (List Char) → List Char
  | [] => []
  | [item] => item
  | item :: next :: rest => item ++ ',' :: separated (next :: rest)

def writeValue (settings : Settings) : Field → List Char
  | .quorumSize => Nat.toDigits 10 settings.quorumSize.toNat
  | .virtualNodes => Nat.toDigits 10 settings.virtualNodes.toNat
  | .failureRatioThreshold => (thresholdStyle.write settings.failureRatioThreshold).toList
  | .minRequests => Nat.toDigits 10 settings.minRequests.toNat
  | .healthCheckInterval => Nat.toDigits 10 settings.healthCheckInterval.toNat
  | .probeInterval => Nat.toDigits 10 settings.probeInterval.toNat
  | .connectionWait => Nat.toDigits 10 settings.connectionWait.toNat
  | .ignoredKinds =>
      '[' :: separated (settings.ignoredKinds.map (fun kind => Json.writeText kind.toList))
        ++ [']']

def readWhole (limit : Nat) (input : List Char) : Option (Nat × List Char) :=
  (Json.readNumber (Json.skipBlanks input)).bind (fun (literal, rest) =>
    (literal.toWhole? limit).map (fun number => (number, rest)))

def readDouble (input : List Char) : Option (Float × List Char) :=
  (Json.readNumber (Json.skipBlanks input)).bind (fun (literal, rest) =>
    literal.toDouble?.map (fun number => (number, rest)))

def readString (input : List Char) : Option (String × List Char) :=
  match Json.skipBlanks input with
  | '"' :: rest =>
      (Json.readText rest).map (fun (text, after) => (String.ofList text, after))
  | _ => none

/-- The strings that follow the first one in a list, up to its end. Every turn takes at least one
character. -/
def readMoreStrings : Nat → List Char → Option (List String × List Char)
  | 0, _ => none
  | fuel + 1, input =>
      match Json.skipBlanks input with
      | ']' :: rest => some ([], rest)
      | ',' :: rest =>
          (readString rest).bind (fun (text, after) =>
            (readMoreStrings fuel after).map (fun (texts, final) => (text :: texts, final)))
      | _ => none

def readStrings (input : List Char) : Option (List String × List Char) :=
  match Json.skipBlanks input with
  | '[' :: rest =>
      match Json.skipBlanks rest with
      | ']' :: after => some ([], after)
      | start =>
          (readString start).bind (fun (text, after) =>
            (readMoreStrings (after.length + 1) after).map (fun (texts, final) =>
              (text :: texts, final)))
  | _ => none

def readValue (field : Field) (settings : Settings) (input : List Char) :
    Option (Settings × List Char) :=
  match field with
  | .quorumSize => (readWhole UInt64.size input).map (fun (number, rest) =>
      ({ settings with quorumSize := UInt64.ofNat number }, rest))
  | .virtualNodes => (readWhole UInt64.size input).map (fun (number, rest) =>
      ({ settings with virtualNodes := UInt64.ofNat number }, rest))
  | .failureRatioThreshold => (readDouble input).map (fun (number, rest) =>
      ({ settings with failureRatioThreshold := number }, rest))
  | .minRequests => (readWhole UInt32.size input).map (fun (number, rest) =>
      ({ settings with minRequests := UInt32.ofNat number }, rest))
  | .healthCheckInterval => (readWhole UInt64.size input).map (fun (number, rest) =>
      ({ settings with healthCheckInterval := UInt64.ofNat number }, rest))
  | .probeInterval => (readWhole UInt64.size input).map (fun (number, rest) =>
      ({ settings with probeInterval := UInt64.ofNat number }, rest))
  | .connectionWait => (readWhole UInt64.size input).map (fun (number, rest) =>
      ({ settings with connectionWait := UInt64.ofNat number }, rest))
  | .ignoredKinds => (readStrings input).map (fun (kinds, rest) =>
      ({ settings with ignoredKinds := kinds }, rest))

end Field

end QuorumRouting
