import Frontier.Machine.Bytes

/-!
# Errors of the system

Why the system refuses what a program asks for.
-/

namespace Frontier

/-- A refusal. -/
inductive Errno where
  | notPermitted
  | notFound
  | noProcess
  | interrupted
  | noDeviceHere
  | badFormat
  | badDescriptor
  | noChild
  | accessDenied
  | alreadyThere
  | notDirectory
  | isDirectory
  | invalid
  | noSpace
  | illegalSeek
  | brokenPipe
  | nameTooLong
  | notEmpty
  | tooManyLinks
  | readOnly
  deriving DecidableEq, Repr, Inhabited

/-- The wording of the system. -/
def Errno.message : Errno → Bytes
  | notPermitted => bytesOf "Operation not permitted"
  | notFound => bytesOf "No such file or directory"
  | noProcess => bytesOf "No such process"
  | interrupted => bytesOf "Interrupted system call"
  | noDeviceHere => bytesOf "No such device or address"
  | badFormat => bytesOf "Exec format error"
  | badDescriptor => bytesOf "Bad file descriptor"
  | noChild => bytesOf "No child processes"
  | accessDenied => bytesOf "Permission denied"
  | alreadyThere => bytesOf "File exists"
  | notDirectory => bytesOf "Not a directory"
  | isDirectory => bytesOf "Is a directory"
  | invalid => bytesOf "Invalid argument"
  | noSpace => bytesOf "No space left on device"
  | illegalSeek => bytesOf "Illegal seek"
  | brokenPipe => bytesOf "Broken pipe"
  | nameTooLong => bytesOf "File name too long"
  | notEmpty => bytesOf "Directory not empty"
  | tooManyLinks => bytesOf "Too many levels of symbolic links"
  | readOnly => bytesOf "Read-only file system"

end Frontier
