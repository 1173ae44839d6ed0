import DirMarkers.Text.Quoted

/-!
Failures of system calls: their numbers, their wording, and the report of a call that failed on a
path.
-/

namespace DirMarkers

/-- The numbers of the failures that have a name of their own here. -/
def namedErrors : List Nat :=
  [1, 2, 5, 13, 16, 20, 21, 28, 30, 36, 40]

/-- Why a system call fails. -/
inductive Errno where
  | notPermitted
  | notFound
  | inputOutput
  | accessDenied
  | busy
  | notDirectory
  | isDirectory
  | noSpace
  | readOnly
  | nameTooLong
  | linkLoop
  /-- Any other failure, by its number and its wording. -/
  | other (number : Nat) (text : String) (unnamed : number ∉ namedErrors)
deriving DecidableEq, Repr

namespace Errno

def number : Errno → Nat
  | .notPermitted => 1
  | .notFound => 2
  | .inputOutput => 5
  | .accessDenied => 13
  | .busy => 16
  | .notDirectory => 20
  | .isDirectory => 21
  | .noSpace => 28
  | .readOnly => 30
  | .nameTooLong => 36
  | .linkLoop => 40
  | .other number .. => number

def message : Errno → String
  | .notPermitted => "Operation not permitted"
  | .notFound => "No such file or directory"
  | .inputOutput => "Input/output error"
  | .accessDenied => "Permission denied"
  | .busy => "Device or resource busy"
  | .notDirectory => "Not a directory"
  | .isDirectory => "Is a directory"
  | .noSpace => "No space left on device"
  | .readOnly => "Read-only file system"
  | .nameTooLong => "File name too long"
  | .linkLoop => "Too many levels of symbolic links"
  | .other _ text _ => text

end Errno

/-- A system call that failed, with the text of the path it was given. -/
structure SystemError where
  errno : Errno
  path : String
deriving DecidableEq, Repr

def SystemError.message (e : SystemError) : String :=
  "[Errno " ++ toString e.errno.number ++ "] " ++ e.errno.message ++ ": " ++ Text.quote e.path

end DirMarkers
