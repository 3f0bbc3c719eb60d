namespace PlatformCatalog

inductive OsError where
  | noEntry
  | busy
  | alreadyExists
  | notDirectory
  | isDirectory
  | invalidArgument
  | nameTooLong
  | notEmpty
  deriving DecidableEq, Repr

namespace OsError

def code : OsError → Nat
  | .noEntry => 2
  | .busy => 16
  | .alreadyExists => 17
  | .notDirectory => 20
  | .isDirectory => 21
  | .invalidArgument => 22
  | .nameTooLong => 36
  | .notEmpty => 39

def text : OsError → String
  | .noEntry => "No such file or directory"
  | .busy => "Device or resource busy"
  | .alreadyExists => "File exists"
  | .notDirectory => "Not a directory"
  | .isDirectory => "Is a directory"
  | .invalidArgument => "Invalid argument"
  | .nameTooLong => "File name too long"
  | .notEmpty => "Directory not empty"

end OsError

inductive IoFault where
  | os (e : OsError)
  | nulInPath
  | notUtf8
  | other (text : String)
  deriving DecidableEq, Repr

def IoFault.message : IoFault → String
  | .os e => s!"{e.text} (os error {e.code})"
  | .nulInPath => "file name contained an unexpected NUL byte"
  | .notUtf8 => "stream did not contain valid UTF-8"
  | .other text => text

end PlatformCatalog
