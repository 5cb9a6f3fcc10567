set_option autoImplicit false

/-!
# Files: faults of the file system and of streams

What can go wrong with a file or a stream, and the words of the operating system for it.
-/

namespace NfaWorkbench

/-- Why the file system or a stream refused. -/
inductive IoFault
  /-- There is nothing at the path, or its folder does not exist. -/
  | notFound
  /-- There is a folder where a file is needed. -/
  | isADirectory
  /-- There is a file where a folder is needed. -/
  | notADirectory
  /-- The path or one of its parts is longer than a path or a part may be. -/
  | nameTooLong
  /-- The path holds a zero character, which no file name can. -/
  | zeroInPath
  /-- The contents are not text. -/
  | notUtf8
  /-- A fault of a stream with words of its own. -/
  | stream (message : String)
  deriving DecidableEq, Repr

/-- The wording of a fault. -/
def IoFault.message : IoFault → String
  | notFound => "No such file or directory (os error 2)"
  | isADirectory => "Is a directory (os error 21)"
  | notADirectory => "Not a directory (os error 20)"
  | nameTooLong => "File name too long (os error 36)"
  | zeroInPath => "file name contained an unexpected NUL byte"
  | notUtf8 => "stream did not contain valid UTF-8"
  | stream message => message

end NfaWorkbench
