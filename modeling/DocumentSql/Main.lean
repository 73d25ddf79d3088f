import DocumentSql.CommandLine.Run

/-!
# The program

Runs the command of the arguments and prints its line, or the failure on the error output. The
only file it may read is the schema of a search.
-/

set_option autoImplicit false

namespace DocumentSql.CommandLine

/-- The file a command may read. -/
def schemaFile? (arguments : List String) : Option String :=
  match readCommand arguments with
  | .ok (.search _ _ _ _ schema) => some (schema.getD defaultSchemaFile)
  | _ => none

/-- What the file at a path holds in the file system. -/
def readFile (path : String) : IO (Except FileFault ByteArray) := do
  if path.contains '\x00' then return .error .zeroInPath
  try
    return .ok (← IO.FS.readBinFile path)
  catch
    | .inappropriateType _ 20 _ => return .error .notDirectory
    | .inappropriateType .. => return .error .isDirectory
    | .invalidArgument _ 36 _ => return .error .nameTooLong
    | _ => return .error .missing

end DocumentSql.CommandLine

open DocumentSql.CommandLine in
/-- Runs the program. -/
def main (arguments : List String) : IO UInt32 := do
  let content ←
    match schemaFile? arguments with
    | some path => readFile path
    | none => pure (.error .missing)
  match run (fun _ => content) arguments with
  | .ok printed =>
      IO.println printed.text
      return 0
  | .error error =>
      IO.eprintln error.message
      return 1
