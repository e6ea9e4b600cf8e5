
namespace AccessLayer

/-- The failures of file operations. -/
inductive FileFault
  | notFound
  | alreadyExists
  | notFolder
  | isFolder
  | nameTooLong
  /-- A path holds the character that ends texts of the system. -/
  | endInside
  | notText
  | other (message : String)
  deriving DecidableEq, Repr

/-- What the system says of a fault. -/
def FileFault.message : FileFault → String
  | notFound => "No such file or directory (os error 2)"
  | alreadyExists => "File exists (os error 17)"
  | notFolder => "Not a directory (os error 20)"
  | isFolder => "Is a directory (os error 21)"
  | nameTooLong => "File name too long (os error 36)"
  | endInside => "file name contained an unexpected NUL byte"
  | notText => "stream did not contain valid UTF-8"
  | other message => message

end AccessLayer
