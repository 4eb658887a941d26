/-!
Arguments of a command line by their looks. What an argument means also depends on the option
before it, which is not decided here.
-/

set_option autoImplicit false

namespace QuorumRouting.CommandLine

inductive Argument where
  /-- Two dashes alone: what follows is no option, whatever it looks like. -/
  | separator
  /-- Two dashes and a name, and a value after the first equals sign. -/
  | long (name : String) (value : Option String)
  /-- One dash and more; the first letter is all that matters. -/
  | short (letter : Char)
  /-- Anything else, a single dash and the empty text among them. -/
  | word
  deriving DecidableEq, Repr

def splitAtEquals (text : List Char) : String × Option String :=
  let before := String.ofList (text.takeWhile (fun char => char ≠ '='))
  match text.dropWhile (fun char => char ≠ '=') with
  | [] => (before, none)
  | _ :: after => (before, some (String.ofList after))

def Argument.ofText (text : String) : Argument :=
  match text.toList with
  | ['-', '-'] => .separator
  | '-' :: '-' :: rest =>
      let (name, value) := splitAtEquals rest
      .long name value
  | '-' :: letter :: _ => .short letter
  | _ => .word

end QuorumRouting.CommandLine
