/-!
# Faults of the operating system

Why a file cannot be read or a program not be started, with the system's own wording.
-/

set_option autoImplicit false

namespace Shakedown

/-- Why the operating system refuses a file or a program. -/
inductive Fault where
  /-- Only others may do this. -/
  | notPermitted
  /-- Nothing by that name. -/
  | notFound
  /-- No process by that number. -/
  | noProcess
  /-- A device that is not there. -/
  | noDevice
  /-- Arguments that are too long together. -/
  | argumentsTooLong
  /-- An executable file in no known format. -/
  | execFormat
  /-- A descriptor that stands for no open file. -/
  | badDescriptor
  /-- Not allowed. -/
  | permissionDenied
  /-- In use. -/
  | busy
  /-- Something by that name is there already. -/
  | exists
  /-- A link from one device to another. -/
  | crossDevice
  /-- A file where a directory is needed. -/
  | notADirectory
  /-- A directory where a file is needed. -/
  | isADirectory
  /-- An argument that makes no sense. -/
  | invalidArgument
  /-- A place where one cannot go back and forth. -/
  | illegalSeek
  /-- A full device. -/
  | noSpace
  /-- A pipe that nobody reads. -/
  | brokenPipe
  /-- A name or a path over the limit. -/
  | nameTooLong
  /-- A directory with something in it. -/
  | notEmpty
  /-- Links that lead to links without end. -/
  | tooManyLinks
  /-- A path with a zero byte. -/
  | nulInPath
  /-- A program, an argument or a variable with a zero byte. -/
  | nulInArgument
  /-- File contents that are not UTF-8. -/
  | notText
  /-- Anything else, in the system's own words. -/
  | other (text : String)
  deriving DecidableEq, Repr

/-- What is wrong, in words. -/
def Fault.reason : Fault → String
  | .notPermitted => "Operation not permitted"
  | .notFound => "No such file or directory"
  | .noProcess => "No such process"
  | .noDevice => "No such device or address"
  | .argumentsTooLong => "Argument list too long"
  | .execFormat => "Exec format error"
  | .badDescriptor => "Bad file descriptor"
  | .permissionDenied => "Permission denied"
  | .busy => "Device or resource busy"
  | .exists => "File exists"
  | .crossDevice => "Invalid cross-device link"
  | .notADirectory => "Not a directory"
  | .isADirectory => "Is a directory"
  | .invalidArgument => "Invalid argument"
  | .illegalSeek => "Illegal seek"
  | .noSpace => "No space left on device"
  | .brokenPipe => "Broken pipe"
  | .nameTooLong => "File name too long"
  | .notEmpty => "Directory not empty"
  | .tooManyLinks => "Too many levels of symbolic links"
  | .nulInPath => "file name contained an unexpected NUL byte"
  | .nulInArgument => "nul byte found in provided data"
  | .notText => "stream did not contain valid UTF-8"
  | .other text => text

/-- The system's number of a fault, if the system itself found it. -/
def Fault.number? : Fault → Option Nat
  | .notPermitted => some 1
  | .notFound => some 2
  | .noProcess => some 3
  | .noDevice => some 6
  | .argumentsTooLong => some 7
  | .execFormat => some 8
  | .badDescriptor => some 9
  | .permissionDenied => some 13
  | .busy => some 16
  | .exists => some 17
  | .crossDevice => some 18
  | .notADirectory => some 20
  | .isADirectory => some 21
  | .invalidArgument => some 22
  | .illegalSeek => some 29
  | .noSpace => some 28
  | .brokenPipe => some 32
  | .nameTooLong => some 36
  | .notEmpty => some 39
  | .tooManyLinks => some 40
  | _ => none

/-- The wording of a fault: the reason, with its number. -/
def Fault.message (f : Fault) : String :=
  match f.number? with
  | none => f.reason
  | some n => f.reason ++ " (os error " ++ n.repr ++ ")"

end Shakedown
