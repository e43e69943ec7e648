/-!
# Errors of the operating system

The causes for which reading, writing or running a file fails, with the text the system gives them.
-/

namespace PapyrusWriter

set_option autoImplicit false

inductive SystemError where
  | notFound
  | permissionDenied
  | fileExists
  | notDirectory
  | isDirectory
  | nameTooLong
  | tooManyLinks
  | execFormat
  | notImplemented
  | inputOutput
  | noSpace
  | readOnly
  | quotaExceeded
  /-- The content of the file is no text. -/
  | invalidText
  /-- The path holds the null character. -/
  | nulInPath
deriving DecidableEq, Inhabited

namespace SystemError

/-- What the system says. -/
def text : SystemError → String
  | .notFound => "No such file or directory"
  | .permissionDenied => "Permission denied"
  | .fileExists => "File exists"
  | .notDirectory => "Not a directory"
  | .isDirectory => "Is a directory"
  | .nameTooLong => "File name too long"
  | .tooManyLinks => "Too many levels of symbolic links"
  | .execFormat => "Exec format error"
  | .notImplemented => "Function not implemented"
  | .inputOutput => "Input/output error"
  | .noSpace => "No space left on device"
  | .readOnly => "Read-only file system"
  | .quotaExceeded => "Disk quota exceeded"
  | .invalidText => "stream did not contain valid UTF-8"
  | .nulInPath => "file name contained an unexpected NUL byte"

/-- The number of the error; the errors that the system does not know have none. -/
def number? : SystemError → Option Nat
  | .notFound => some 2
  | .permissionDenied => some 13
  | .fileExists => some 17
  | .notDirectory => some 20
  | .isDirectory => some 21
  | .nameTooLong => some 36
  | .tooManyLinks => some 40
  | .execFormat => some 8
  | .notImplemented => some 38
  | .inputOutput => some 5
  | .noSpace => some 28
  | .readOnly => some 30
  | .quotaExceeded => some 122
  | .invalidText | .nulInPath => none

/-- The errors that the system numbers. -/
def numbered : List SystemError :=
  [.notFound, .permissionDenied, .fileExists, .notDirectory, .isDirectory, .nameTooLong,
    .tooManyLinks, .execFormat, .notImplemented, .inputOutput, .noSpace, .readOnly, .quotaExceeded]

/-- The error with a number. -/
def ofNumber? (number : Nat) : Option SystemError :=
  numbered.find? fun error => error.number? = some number

def message (error : SystemError) : String :=
  match error.number? with
  | some number => error.text ++ " (os error " ++ toString number ++ ")"
  | none => error.text

end SystemError

end PapyrusWriter
