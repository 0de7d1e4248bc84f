import Teletype.CommandLine.Basic

/-!
# The program

All that happens here is reading what the command line needs and writing what it
answers.
-/

namespace Teletype.CommandLine

/-- The number by which the system says that a directory cannot be read as a file. -/
def directoryCode : UInt32 := 21

/-- What there is at a path of the file system. -/
def readFile (path : String) : IO Config.File := do
  try
    pure (.content (← IO.FS.readBinFile path).toList)
  catch
    | .inappropriateType _ code _ =>
      pure (if code == directoryCode then .directory else .beyondFile)
    | .invalidArgument .. => pure .nameTooLong
    | _ => pure .missing

/-- The variables that matter, with their values. -/
def readEnvironment : IO Environment := do
  let pairs ← ["HOME", "USERPROFILE", "TERM", "POLYTERM_STRICT_CLOSED"].mapM fun name => do
    pure ((← IO.getEnv name).toList.map fun value => (name, value))
  pure pairs.flatten

/-- The file that is named, if one is. -/
def readNamed (request : Request) : IO Config.File :=
  match request with
  | .work { configuration := some path, .. } => readFile path
  | _ => pure .missing

/-- All that can be read from an input. -/
partial def readAll (input : IO.FS.Stream) (soFar : List UInt8) : IO (List UInt8) := do
  let bytes ← input.read 4096
  if bytes.isEmpty then pure soFar else readAll input (soFar ++ bytes.toList)

/-- What the program finds. -/
def readSetting (arguments : List String) : IO Setting := do
  let environment ← readEnvironment
  let named ← readNamed (Request.read {} arguments)
  let usualFile ← match Config.home? environment with
    | some home => readFile (home ++ "/" ++ Config.usualPlace)
    | none => pure .missing
  let content ← readAll (← IO.getStdin) []
  pure { environment, file := fun _ => named, usualFile, programs := Toolbox.programs,
         tool := fun program => { program }, input := .pipe { content, hungUp := true } }

end Teletype.CommandLine

open Teletype CommandLine in
/-- The program. -/
def main (arguments : List String) : IO UInt32 := do
  let (outcome, _) := run (← readSetting arguments) arguments
  let out ← IO.getStdout
  out.write ⟨outcome.output.toArray⟩
  out.flush
  let err ← IO.getStderr
  err.write ⟨outcome.complaint.toArray⟩
  pure (match outcome.status with
    | .exited code => UInt32.ofNat code
    | .killed signal => UInt32.ofNat (128 + signal))
