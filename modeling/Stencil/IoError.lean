/-
  Why a file cannot be read or a command cannot be run.
-/

namespace Stencil

inductive IoError where
  | notFound
  | permissionDenied
  | notDirectory
  | isDirectory
  | brokenPipe
  | nameTooLong
  /-- A word holds a NUL, which no program can be given. -/
  | nulInWord
  /-- A path holds a NUL, which no file can have. -/
  | nulInPath
  | invalidUtf8
  deriving DecidableEq, Repr

def IoError.message : IoError → String
  | notFound => "No such file or directory (os error 2)"
  | permissionDenied => "Permission denied (os error 13)"
  | notDirectory => "Not a directory (os error 20)"
  | isDirectory => "Is a directory (os error 21)"
  | brokenPipe => "Broken pipe (os error 32)"
  | nameTooLong => "File name too long (os error 36)"
  | nulInWord => "nul byte found in provided data"
  | nulInPath => "file name contained an unexpected NUL byte"
  | invalidUtf8 => "stream did not contain valid UTF-8"

end Stencil
