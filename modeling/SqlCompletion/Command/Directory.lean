import SqlCompletion.Command.Run

/-!
# Reading in a directory

What a run can read in a directory that holds just the given files. A path is taken apart at its
slashes and followed segment by segment: an empty segment and `.` stay in a directory, and `..`
leaves it. Of the directories above nothing is known, so that no file is found there.
-/

namespace SqlCompletion.Command

/-- Why a path cannot be read. -/
inductive PathError where
  | missing
  | notDirectory
  | isDirectory
  | nameTooLong
  deriving DecidableEq

/-- The system's words for a reason. -/
def PathError.reason : PathError → String
  | .missing => "No such file or directory (os error 2)"
  | .notDirectory => "Not a directory (os error 20)"
  | .isDirectory => "Is a directory (os error 21)"
  | .nameTooLong => "File name too long (os error 36)"

/-- Where a path has led so far. -/
inductive Place where
  /-- The directory with the files. -/
  | inside
  /-- A directory above it. -/
  | above
  | file (content : String)

/-- The longest name that a file may have, in bytes. -/
def longestName : Nat := 255

/-- One more segment of a path. -/
def Place.step (files : List (String × String)) (place : Place) (segment : String) :
    Except PathError Place :=
  match place with
  | .file _ => .error .notDirectory
  | directory =>
    if segment = "" || segment = "." then .ok directory
    else if segment = ".." then .ok .above
    else if longestName < segment.utf8ByteSize then .error .nameTooLong
    else
      match directory, files.lookup segment with
      | .inside, some content => .ok (.file content)
      | _, _ => .error .missing

/-- The content of the file that a path leads to. -/
def contentAt (files : List (String × String)) (path : String) : Except PathError String := do
  if path = "" then throw .missing
  let start := if path.startsWith "/" then Place.above else .inside
  match ← (path.splitOn "/").foldlM (Place.step files) start with
  | .file content => return content
  | _ => throw .isDirectory

/-- What a run can read in a directory with the given files, and the given standard input. -/
def Sources.ofFiles (files : List (String × String)) (input : String) : Sources where
  file path := (contentAt files path).mapError PathError.reason
  input := .ok input

end SqlCompletion.Command
