import QuorumRouting.CommandLine.Run

/-!
The command `routectl`. Reports go to standard output; notices and troubles go to standard error
and show in the exit code.
-/

set_option autoImplicit false

namespace QuorumRouting.CommandLine

def readFile (path : String) : IO (Except Unreadable String) := do
  try
    return .ok (← IO.FS.readFile path)
  catch
    | .noFileOrDirectory _ _ _ => return .error .missing
    | error@(.inappropriateType _ code _) => return .error (numbered 21 code .directory error)
    | error@(.invalidArgument _ code _) => return .error (numbered 36 code .nameTooLong error)
    | error => return .error (.other (toString error))
where
  -- the number of an error is given with either sign
  numbered (number code : UInt32) (reason : Unreadable) (error : IO.Error) : Unreadable :=
    if code = number ∨ code = -number then reason else .other (toString error)

def Invocation.readFiles (invocation : Invocation) : IO Files := do
  match invocation.common.config with
  | none => return Files.bare []
  | some path =>
      let found ← readFile path
      return fun _ => found

def Notice.print (notice : Notice) : IO UInt32 := do
  if notice.isAsked then
    IO.println notice.message
    return 0
  else
    IO.eprintln notice.message
    return 2

def Invocation.perform (invocation : Invocation) : IO UInt32 := do
  let files ← invocation.readFiles
  let seed ← IO.getRandomBytes 8
  match invocation.run files (.seeded (Hash.word64 seed.toList)) with
  | .ok output =>
      IO.print output
      return 0
  | .error (.refused trouble) =>
      IO.eprintln ("Error: " ++ trouble.message)
      return 1
  | .error (.overflowed cause) =>
      IO.eprintln cause.message
      return 101

end QuorumRouting.CommandLine

open QuorumRouting.CommandLine in
def main (arguments : List String) : IO UInt32 :=
  match Invocation.ofArguments arguments with
  | .error notice => notice.print
  | .ok invocation => invocation.perform
