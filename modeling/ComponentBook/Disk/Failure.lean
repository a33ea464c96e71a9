import ComponentBook.Disk.Path
import ComponentBook.Text.Quoted
import ComponentBook.Text.Utf8

/-! # What can go wrong with a file

A path may lead to nothing, to something else than is wanted, or nowhere at all. **`Disk.Failure`**
names each cause and **`Disk.Failure.message`** gives its wording. -/

namespace ComponentBook.Disk

/-- Why a path does not lead to what is wanted. -/
inductive Fault where
  /-- Nothing has the name. -/
  | missing
  /-- Something has the name already. -/
  | taken
  /-- The way leads through a file. -/
  | notADirectory
  /-- The path leads to a directory. -/
  | isADirectory
  /-- A name, or the whole path, is longer than a file system takes. -/
  | nameTooLong
  deriving DecidableEq, Repr

/-- The number by which a file system knows a fault. -/
def Fault.number : Fault → Nat
  | .missing => 2
  | .taken => 17
  | .notADirectory => 20
  | .isADirectory => 21
  | .nameTooLong => 36

/-- The wording of a fault. -/
def Fault.reason : Fault → Text
  | .missing => "No such file or directory".toList
  | .taken => "File exists".toList
  | .notADirectory => "Not a directory".toList
  | .isADirectory => "Is a directory".toList
  | .nameTooLong => "File name too long".toList

/-- A fault together with the path at which it shows. -/
def Fault.message (fault : Fault) (path : Text) : Text :=
  "[Errno ".toList ++ Text.decimal fault.number ++ "] ".toList ++ fault.reason ++ ": ".toList ++
    path.quoted

/-- Why a file cannot be read or written. -/
inductive Failure where
  /-- The path does not lead to what is wanted. -/
  | fault (fault : Fault) (path : Text)
  /-- The path holds the character that ends the names a file system takes. -/
  | nulInPath
  /-- The file holds bytes that are no text. -/
  | notText (error : Text.Utf8Error)
  /-- The path starts with the home directory of somebody who has none. -/
  | noHome
  /-- A file name pattern has two stars next to each other within a name. -/
  | misplacedStars
  deriving DecidableEq, Repr

/-- The text of a failure. -/
def Failure.message : Failure → Text
  | .fault reason path => reason.message path
  | .nulInPath => "embedded null byte".toList
  | .notText error => error.message
  | .noHome => "Could not determine home directory.".toList
  | .misplacedStars =>
    "Invalid pattern: '**' can only be an entire path component".toList

end ComponentBook.Disk
