/-!
Files as commands read them: the text at a path, or why it cannot be read. A disk without files
gives the reasons that do not depend on what a disk holds.
-/

set_option autoImplicit false

namespace QuorumRouting.CommandLine

inductive Unreadable where
  | missing
  | directory
  | nameTooLong
  /-- The path has a NUL character, with which a path ends. -/
  | nulInPath
  | other (reason : String)
  deriving DecidableEq, Repr

namespace Unreadable

def message : Unreadable → String
  | .missing => "No such file or directory (os error 2)"
  | .directory => "Is a directory (os error 21)"
  | .nameTooLong => "File name too long (os error 36)"
  | .nulInPath => "file name contained an unexpected NUL byte"
  | .other reason => reason

/-- The largest size of a path in bytes. -/
def longestPath : Nat := 4095

def longestName : Nat := 255

/-- Why names that are followed from a directory with nothing in it lead to no file. The first
name decides, since the others are never looked up. -/
def following : List String → Unreadable
  | [] => .directory
  | name :: _ => if longestName < name.utf8ByteSize then .nameTooLong else .missing

end Unreadable

abbrev Files := String → Except Unreadable String

/-- The names in a path, without those that lead nowhere else. -/
def pathNames (path : String) : List String :=
  (path.splitOn "/").filter (fun name => name ∉ ["", ".", ".."])

/-- A disk without files. Below its root it has some directories with nothing in them; the working
directory has nothing in it either. -/
def Files.bare (directories : List String) : Files := fun path =>
  let names := pathNames path
  .error (
    if path.contains '\x00' then .nulInPath
    else if path.isEmpty then .missing
    else if Unreadable.longestPath < path.utf8ByteSize then .nameTooLong
    else match names with
      | first :: rest =>
          if path.startsWith "/" && directories.contains first then .following rest
          else .following names
      | [] => .directory)

end QuorumRouting.CommandLine
