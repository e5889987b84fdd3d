set_option autoImplicit false

/-! # Files

What is found in a file system under a path. Two names that differ in form may lead to one file; a
path is only taken apart here to find the name of a file. -/

namespace Messenger

/-- What is found under a path. -/
inductive File where
  | absent
  /-- Something that cannot be read as a file, such as a directory. -/
  | unreadable
  | bytes (bs : List UInt8)
deriving DecidableEq, Repr

namespace File

/-- The content of a file that can be read. -/
def content? : File → Option (List UInt8)
  | .bytes bs => some bs
  | _ => none

/-- The name of the file at a path: what follows the last slash. -/
def nameOf (path : String) : String :=
  String.ofList (path.toList.reverse.takeWhile (· != '/')).reverse

end File
end Messenger
