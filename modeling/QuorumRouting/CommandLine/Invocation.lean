import QuorumRouting.CommandLine.Request

/-!
A whole command line: options, the name of a command, and the options of that command. The
options that belong to no single command may stand on both sides of the name; those after it are
the stronger ones.
-/

set_option autoImplicit false

namespace QuorumRouting.CommandLine

inductive CommandName where
  | ring
  | balance
  | simulate
  deriving DecidableEq, Repr

def CommandName.ofText? : String → Option CommandName
  | "ring" => some .ring
  | "balance" => some .balance
  | "simulate" => some .simulate
  | _ => none

inductive Command where
  | ring (request : RingRequest)
  | balance (request : BalanceRequest)
  | simulate (request : SimulationRequest)

structure Invocation where
  common : CommonOptions
  command : Command

def helpName : String := "help"

def helpFlag : Flag :=
  { name := helpName, letter := 'h', notice := .help }

def versionFlag : Flag :=
  { name := "version", letter := 'V', notice := .version }

def CommonOptions.blank : CommonOptions :=
  { config := none, log := none }

/-- The options given at one level, completed by those given at a weaker one. -/
def CommonOptions.orElse (common weaker : CommonOptions) : CommonOptions :=
  { config := common.config <|> weaker.config, log := common.log <|> weaker.log }

def outerLevel : Level CommonOptions :=
  { options := CommonOptions.options, flags := [helpFlag, versionFlag] }

def innerLevel {Request : Type} (options : List (ValueOption Request)) :
    Level (CommonOptions × Request) :=
  { options :=
      options.map (.within Prod.snd (fun (common, _) request => (common, request))) ++
        CommonOptions.options.map (.within Prod.fst (fun (_, request) common => (common, request)))
    flags := [helpFlag] }

def readInner {Request : Type} (options : List (ValueOption Request)) (blank : Request)
    (arguments : List String) : Except Notice (CommonOptions × Request) :=
  (innerLevel options).readAll (.start (CommonOptions.blank, blank)) arguments

def readWithNodes {Request Entry : Type} (options : List (ValueOption Request)) (blank : Request)
    (nodes : Request → List Entry) (arguments : List String) :
    Except Notice (CommonOptions × Request) := do
  let (common, request) ← readInner options blank arguments
  if (nodes request).isEmpty then throw .missingOption
  return (common, request)

def CommandName.read (arguments : List String) :
    CommandName → Except Notice (CommonOptions × Command)
  | .ring =>
      (readWithNodes RingRequest.options .blank RingRequest.nodes arguments).map
        (fun (common, request) => (common, .ring request))
  | .balance =>
      (readWithNodes BalanceRequest.options .blank BalanceRequest.nodes arguments).map
        (fun (common, request) => (common, .balance request))
  | .simulate =>
      (readInner SimulationRequest.options .blank arguments).map
        (fun (common, request) => (common, .simulate request))

/-- What the help command shows: it knows every command, and nothing has commands of its own. -/
def helpAbout : List String → Notice
  | [] => .help
  | [name] =>
      if name = helpName ∨ (CommandName.ofText? name).isSome then .help else .unknownCommand
  | _ :: _ :: _ => .unknownCommand

def withoutCommand (reading : Reading CommonOptions) : Notice :=
  match reading.settle with
  | .error notice => notice
  | .ok common => if common = .blank then .helpUnasked else .missingCommand

/-- A separator stands before there was a command: no command can follow it. -/
def afterSeparator (reading : Reading CommonOptions) : List String → Notice
  | [] => withoutCommand reading
  | name :: _ =>
      if name = helpName ∨ (CommandName.ofText? name).isSome then .unknownArgument
      else .unknownCommand

/-- Reads the arguments up to the name of the command, and then the command. An option that is
still pending is given when the command has been read. -/
def readOuter : Reading CommonOptions → List String → Except Notice Invocation
  | reading, [] => .error (withoutCommand reading)
  | reading, text :: rest =>
      if Argument.ofText text = .separator then .error (afterSeparator reading rest)
      else
        match outerLevel.step reading text with
        | .error notice => .error notice
        | .ok (some next) => readOuter next rest
        | .ok none =>
            if text = helpName then .error (helpAbout rest)
            else match CommandName.ofText? text with
              | none => .error .unknownCommand
              | some name => do
                  let (inner, command) ← name.read rest
                  let outer ← reading.settle
                  return { common := inner.orElse outer, command := command }

def Invocation.ofArguments (arguments : List String) : Except Notice Invocation :=
  readOuter (.start .blank) arguments

end QuorumRouting.CommandLine
