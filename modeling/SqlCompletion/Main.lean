import SqlCompletion.Command.Directory
import SqlCompletion.Sql.Parser

/-!
# The command

Reads what the arguments name, answers and writes the answer. Nothing is decided here: the answer is
`Command.respond`.
-/

namespace SqlCompletion.Command

/-- The system's reason for a read that failed. -/
def systemReason : IO.Error → String
  | .noFileOrDirectory _ _ _ => PathError.missing.reason
  | .permissionDenied _ _ _ => "Permission denied (os error 13)"
  | .inappropriateType _ _ details =>
    if details.toLower = "is a directory" then PathError.isDirectory.reason
    else PathError.notDirectory.reason
  | e => toString e

/-- The text that a read gives, or the reason why there is none. -/
def readText (read : IO ByteArray) : IO (Except String String) := do
  try
    match String.fromUTF8? (← read) with
    | some text => return .ok text
    | none => return .error "stream did not contain valid UTF-8"
  catch e => return .error (systemReason e)

/-- Reads the files that the arguments name, and standard input when they name no document. -/
def readSources (args : Arguments) : IO Sources := do
  let names := args.file.toList ++ args.schema.toList
  let files ← names.mapM fun (name : String) => return (name, ← readText (IO.FS.readBinFile name))
  let input ←
    if args.file.isSome then pure (.ok "") else readText (do (← IO.getStdin).readBinToEnd)
  return {
    file := fun name => (files.lookup name).getD (.error "not read")
    input := input }

end SqlCompletion.Command

open SqlCompletion in
/-- Runs the command with its arguments and gives its exit code. -/
def main (argv : List String) : IO UInt32 := do
  let sources ←
    match Command.Arguments.parse argv with
    | .ok args => Command.readSources args
    | .error _ => pure { file := fun _ => .error "not read", input := .ok "" }
  let response := Command.respond Sql.parser sources argv
  IO.print response.stdout
  IO.eprint response.stderr
  return UInt32.ofNat response.exitCode
