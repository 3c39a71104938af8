/-!
# Ensemble.Machine.Fault

The **reasons** why a machine refuses what it is asked, each with its number and the words in which
it is told.
-/

namespace Ensemble

/-- Why a machine refuses something. -/
inductive MachineFault
  | notAllowed
  | notFound
  | noProcess
  | interrupted
  | noDevice
  | tooMuch
  | badFormat
  | badDescriptor
  | noChild
  | notPermitted
  | busy
  | present
  | notDirectory
  | isDirectory
  | invalid
  | tooManyFiles
  | noTerminal
  | tooLarge
  | noSpace
  | notSeekable
  | brokenPipe
  | outOfRange
  | tooLong
  | notEmpty
  | tooManyLinks
deriving DecidableEq, Repr

namespace MachineFault

/-- The words for a fault. -/
def message : MachineFault → String
  | .notAllowed => "Operation not permitted"
  | .notFound => "No such file or directory"
  | .noProcess => "No such process"
  | .interrupted => "Interrupted system call"
  | .noDevice => "No such device or address"
  | .tooMuch => "Argument list too long"
  | .badFormat => "Exec format error"
  | .badDescriptor => "Bad file descriptor"
  | .noChild => "No child processes"
  | .notPermitted => "Permission denied"
  | .busy => "Device or resource busy"
  | .present => "File exists"
  | .notDirectory => "Not a directory"
  | .isDirectory => "Is a directory"
  | .invalid => "Invalid argument"
  | .tooManyFiles => "Too many open files"
  | .noTerminal => "Inappropriate ioctl for device"
  | .tooLarge => "File too large"
  | .noSpace => "No space left on device"
  | .notSeekable => "Illegal seek"
  | .brokenPipe => "Broken pipe"
  | .outOfRange => "Numerical result out of range"
  | .tooLong => "File name too long"
  | .notEmpty => "Directory not empty"
  | .tooManyLinks => "Too many levels of symbolic links"

/-- The number of a fault. -/
def number : MachineFault → Nat
  | .notAllowed => 1
  | .notFound => 2
  | .noProcess => 3
  | .interrupted => 4
  | .noDevice => 6
  | .tooMuch => 7
  | .badFormat => 8
  | .badDescriptor => 9
  | .noChild => 10
  | .notPermitted => 13
  | .busy => 16
  | .present => 17
  | .notDirectory => 20
  | .isDirectory => 21
  | .invalid => 22
  | .tooManyFiles => 24
  | .noTerminal => 25
  | .tooLarge => 27
  | .noSpace => 28
  | .notSeekable => 29
  | .brokenPipe => 32
  | .outOfRange => 34
  | .tooLong => 36
  | .notEmpty => 39
  | .tooManyLinks => 40

/-- The words for a fault, with its number. -/
def numbered (f : MachineFault) : String :=
  f.message ++ " (os error " ++ toString f.number ++ ")"

/-- No two faults have one number. -/
theorem number_injective {f g : MachineFault} (h : f.number = g.number) : f = g := by
  cases f <;> cases g <;> first | rfl | (simp [number] at h)

end MachineFault

end Ensemble
