/-! What the operating system answers when it refuses to do something with a file. -/

set_option autoImplicit false

namespace ShapeInference.Files

inductive OsError where
  | notFound
  | alreadyExists
  | notDirectory
  | isDirectory
  | nameTooLong
  | nulInName
  /-- Any other answer, in its own words. -/
  | other (text : String)
  deriving DecidableEq, Repr

def OsError.text : OsError → String
  | .notFound => "No such file or directory (os error 2)"
  | .alreadyExists => "File exists (os error 17)"
  | .notDirectory => "Not a directory (os error 20)"
  | .isDirectory => "Is a directory (os error 21)"
  | .nameTooLong => "File name too long (os error 36)"
  | .nulInName => "file name contained an unexpected NUL byte"
  | .other text => text

/-- Why a file gives no text. -/
inductive TextError where
  | system (error : OsError)
  | notUtf8
  deriving DecidableEq, Repr

def TextError.text : TextError → String
  | .system error => error.text
  | .notUtf8 => "stream did not contain valid UTF-8"

end ShapeInference.Files
