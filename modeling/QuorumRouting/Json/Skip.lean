import QuorumRouting.Json.Number
import QuorumRouting.Json.Text

/-!
Skipping values of JSON. A skipped value is only checked for how it is spelled; its strings and
numbers are not decoded, and it may be nested to any depth.
-/

set_option autoImplicit false

namespace QuorumRouting.Json

def expect : List Char → List Char → Option (List Char)
  | [], input => some input
  | wanted :: more, char :: rest => if wanted = char then expect more rest else none
  | _ :: _, [] => none

def skipScalar : List Char → Option (List Char)
  | '"' :: rest => skipText rest
  | 'n' :: rest => expect ['u', 'l', 'l'] rest
  | 't' :: rest => expect ['r', 'u', 'e'] rest
  | 'f' :: rest => expect ['a', 'l', 's', 'e'] rest
  | input => (readNumber input).map Prod.snd

inductive Enclosure where
  | array
  | object
  deriving DecidableEq, Repr

/-- What comes next: a value, or what may follow one. -/
inductive Expected where
  | value
  | follower
  deriving DecidableEq, Repr

def skipKey (input : List Char) : Option (List Char) :=
  match skipBlanks input with
  | '"' :: rest => (skipText rest).bind (fun after => expect [':'] (skipBlanks after))
  | _ => none

/-- Skips up to the end of the outermost value; `enclosures` lists what encloses the present place,
the innermost first. Every turn but the last takes at least one character. -/
def skipWithin : Nat → Expected → List Enclosure → List Char → Option (List Char)
  | _, .follower, [], input => some input
  | 0, _, _, _ => none
  | fuel + 1, .value, enclosures, input =>
      match skipBlanks input with
      | '[' :: rest =>
          match skipBlanks rest with
          | ']' :: after => skipWithin fuel .follower enclosures after
          | after => skipWithin fuel .value (.array :: enclosures) after
      | '{' :: rest =>
          match skipBlanks rest with
          | '}' :: after => skipWithin fuel .follower enclosures after
          | after =>
              match skipKey after with
              | some value => skipWithin fuel .value (.object :: enclosures) value
              | none => none
      | start =>
          match skipScalar start with
          | some after => skipWithin fuel .follower enclosures after
          | none => none
  | fuel + 1, .follower, .array :: enclosures, input =>
      match skipBlanks input with
      | ',' :: rest => skipWithin fuel .value (.array :: enclosures) rest
      | ']' :: rest => skipWithin fuel .follower enclosures rest
      | _ => none
  | fuel + 1, .follower, .object :: enclosures, input =>
      match skipBlanks input with
      | ',' :: rest =>
          match skipKey rest with
          | some value => skipWithin fuel .value (.object :: enclosures) value
          | none => none
      | '}' :: rest => skipWithin fuel .follower enclosures rest
      | _ => none

def skipValue (input : List Char) : Option (List Char) :=
  skipWithin (input.length + 1) .value [] input

end QuorumRouting.Json
