import BranchGuard.Text.Segments

/-!
# Folders

A `Folder` holds files under their names and has no folders inside.  `Folder.read` follows a path
from it, as an operating system does: a path may go through the folder itself and leave it, but it
finds no file anywhere else, and it cannot go on after a file.
-/

namespace BranchGuard

/-- Why a file cannot be read as text. -/
inductive FileFault where
  | notFound
  /-- The path goes on after a file. -/
  | notDirectory
  | isDirectory
  | nameTooLong
  /-- A path holds the character that ends a path. -/
  | nulInPath
  /-- The content is not UTF-8. -/
  | notText
deriving DecidableEq, Repr

/-- The fault in words. -/
def FileFault.reason : FileFault → String
  | .notFound => "No such file or directory (os error 2)"
  | .notDirectory => "Not a directory (os error 20)"
  | .isDirectory => "Is a directory (os error 21)"
  | .nameTooLong => "File name too long (os error 36)"
  | .nulInPath => "file name contained an unexpected NUL byte"
  | .notText => "stream did not contain valid UTF-8"

/-- A folder with files. -/
structure Folder where
  files : List (String × ByteArray) := []

namespace Folder

/-- The greatest number of bytes of a name. -/
def maxNameSize : Nat := 255

/-- The number of bytes that is too great for a path. -/
def pathSizeLimit : Nat := 4096

/-- A folder with no files, as every other folder looks. -/
def empty : Folder := {}

/-- The names along a path, empty ones included. -/
def names (path : String) : List String :=
  (Text.segments '/' path.toList).map String.ofList

/-- The content of the file at the end of a path. -/
def follow (folder : Folder) : List String → Except FileFault ByteArray
  | [] => .error .isDirectory
  | name :: rest =>
    if name = "" ∨ name = "." then folder.follow rest
    else if name = ".." then empty.follow rest
    else if maxNameSize < name.utf8ByteSize then .error .nameTooLong
    else
      match folder.files.lookup name with
      | none => .error .notFound
      | some content => if rest.isEmpty then .ok content else .error .notDirectory

/-- The content of the file at the end of a path that the operating system accepts. -/
def content (folder : Folder) (path : String) : Except FileFault ByteArray :=
  if '\x00' ∈ path.toList then .error .nulInPath
  else if path.isEmpty then .error .notFound
  else if pathSizeLimit ≤ path.utf8ByteSize then .error .nameTooLong
  else if path.toList.head? = some '/' then empty.follow (names path)
  else folder.follow (names path)

/-- The text in the file at the end of a path. -/
def read (folder : Folder) (path : String) : Except FileFault String :=
  match folder.content path with
  | .error fault => .error fault
  | .ok bytes =>
    match String.fromUTF8? bytes with
    | some text => .ok text
    | none => .error .notText

end Folder

end BranchGuard
