import QuorumRouting.CommandLine.Argument

/-!
Reading the arguments of one level: those before the name of a command, or those after it. Each
option takes one value, in the same argument or in the next one. The value in the next argument is
looked at only when the option after it is met or the level ends; an argument that nothing knows
stops the reading at once. So of two faults it is not always the first one that is told.
-/

set_option autoImplicit false

namespace QuorumRouting.CommandLine

inductive Notice where
  | help
  /-- Help, because nothing was asked for. -/
  | helpUnasked
  | version
  | unknownArgument
  | unknownCommand
  | missingCommand
  /-- An option that the command cannot do without was not given. -/
  | missingOption
  | missingValue
  | unsuitableValue
  | repeatedOption
  /-- A value for an option that takes none. -/
  | excessValue
  | malformedValue (reason : String)
  deriving DecidableEq, Repr

def Notice.message : Notice → String
  | .help | .helpUnasked =>
      "usage: routectl [--config FILE] [--log FILTER] ring|balance|simulate [OPTIONS]"
  | .version => "routectl 0.1.0"
  | .unknownArgument => "unknown argument"
  | .unknownCommand => "unknown command"
  | .missingCommand => "a command is missing"
  | .missingOption => "an option is missing"
  | .missingValue => "a value is missing"
  | .unsuitableValue => "unsuitable value"
  | .repeatedOption => "an option was given twice"
  | .excessValue => "an option takes no value"
  | .malformedValue reason => "malformed value: " ++ reason

def Notice.isAsked : Notice → Bool
  | .help => true
  | .version => true
  | _ => false

structure ValueOption (Request : Type) where
  name : String
  give : Request → String → Except Notice Request

namespace ValueOption

variable {Request Value : Type}

/-- An option that may be given once. A second time is refused before its value is read. -/
def once (name : String) (held : Request → Option Value) (hold : Request → Value → Request)
    (read : String → Except Notice Value) : ValueOption Request :=
  { name := name
    give := fun request text =>
      if (held request).isSome then .error .repeatedOption
      else (read text).map (hold request) }

def manyTimes (name : String) (hold : Request → Value → Request)
    (read : String → Except Notice Value) : ValueOption Request :=
  { name := name, give := fun request text => (read text).map (hold request) }

def within {Whole : Type} (part : Whole → Request) (replace : Whole → Request → Whole)
    (option : ValueOption Request) : ValueOption Whole :=
  { name := option.name
    give := fun whole text => (option.give (part whole) text).map (replace whole) }

end ValueOption

structure Flag where
  name : String
  letter : Char
  notice : Notice

structure Level (Request : Type) where
  options : List (ValueOption Request)
  flags : List Flag

/-- The request so far, and the option that was named last with its value, which may still be to
come. -/
structure Reading (Request : Type) where
  request : Request
  pending : Option (ValueOption Request × Option String)

variable {Request : Type}

namespace Reading

def start (request : Request) : Reading Request :=
  { request := request, pending := none }

def settle (reading : Reading Request) : Except Notice Request :=
  match reading.pending with
  | none => .ok reading.request
  | some (_, none) => .error .missingValue
  | some (option, some value) => option.give reading.request value

/-- Shows what a flag asks for, unless the pending option is at fault. -/
def raise (reading : Reading Request) (flag : Flag) : Except Notice (Reading Request) := do
  let _ ← reading.settle
  throw flag.notice

/-- Goes on with an option that was named, with its value if that came along. -/
def meet (reading : Reading Request) (option : ValueOption Request) (value : Option String) :
    Except Notice (Reading Request) := do
  let request ← reading.settle
  match value with
  | none => return { request := request, pending := some (option, none) }
  | some value => return start (← option.give request value)

def supply? (reading : Reading Request) (text : String) : Option (Reading Request) :=
  match reading.pending with
  | some (option, none) => some { reading with pending := some (option, some text) }
  | _ => none

end Reading

namespace Level

/-- Reads one argument that is not a separator. A word that no option waits for is left to the
caller. -/
def step (level : Level Request) (reading : Reading Request) (text : String) :
    Except Notice (Option (Reading Request)) :=
  match Argument.ofText text with
  | .long name value =>
      match level.flags.find? (fun flag => flag.name = name) with
      | some flag =>
          if value.isSome then .error .excessValue else (reading.raise flag).map some
      | none =>
          match level.options.find? (fun option => option.name = name) with
          | some option => (reading.meet option value).map some
          | none => .error .unknownArgument
  | .short letter =>
      match level.flags.find? (fun flag => flag.letter = letter) with
      | some flag => (reading.raise flag).map some
      | none => .error .unknownArgument
  | .separator => .ok none
  | .word => .ok (reading.supply? text)

def readAll (level : Level Request) : Reading Request → List String → Except Notice Request
  | reading, [] => reading.settle
  | reading, text :: rest =>
      if Argument.ofText text = .separator then
        if rest.isEmpty then reading.settle else .error .unknownArgument
      else
        match level.step reading text with
        | .error notice => .error notice
        | .ok none => .error .unknownArgument
        | .ok (some next) => level.readAll next rest

end Level

end QuorumRouting.CommandLine
