import Teletype.CommandLine.Diagnosis
import Teletype.CommandLine.FileTree
import Teletype.CommandLine.Request
import Teletype.Terminal.Open

/-!
# The command line

The program looks at the terminal that it was started on. What it is asked is
on the command line, and the rest is in a configuration. It answers with what
it writes and with a status: zero unless something went wrong.

Closing the terminal comes last. If it fails, that is what is told, even when
something had gone wrong before.
-/

namespace Teletype.CommandLine

/-- **What the program finds** when it is started. -/
structure Setting where
  /-- The environment. -/
  environment : Environment
  /-- What there is at a path. -/
  file : String → Config.File
  /-- What there is at the usual place of the configuration. -/
  usualFile : Config.File
  /-- The other programs. -/
  programs : Programs
  /-- The tool for settings of a name. -/
  tool : String → SttyTool
  /-- The standard input. -/
  input : StandardInput

/-- The outcome of a failure, after some output. -/
def failed (output : List UInt8) (f : Failure) : Outcome :=
  { output, complaint := Text.bytesOf f.text, status := .exited 1 }

/-- The configuration: of the file that is named, or else of the usual one. -/
def configuration (s : Setting) (o : Options) : Except Failure Config :=
  match o.configuration with
  | none => .ok (Config.load s.environment s.usualFile)
  | some path =>
    match Config.loadFrom s.environment (s.file path) with
    | .ok c => .ok c
    | .error error => .error ⟨some ("Unable to load config from " ++ path), error⟩

/-- **A terminal diagnosed and closed**: the result, and what became of it. -/
def diagnose (o : Options) (t : Terminal SystemDevice) :
    Except Failure Unit × Terminal SystemDevice :=
  let (result, t) := (if o.showsBytes then bytesShown else report).run.run t
  match (Terminal.close (δ := SystemDevice)).runOn t with
  | (.ok (), t) => (result, t)
  | (.error error, t) => (.error ⟨some "Unable to close the terminal", error⟩, t)

/-- **The work done**, with what became of the tool for settings. -/
def work (s : Setting) (o : Options) : Outcome × Option SttyTool :=
  match configuration s o with
  | .error f => (failed [] f, none)
  | .ok c =>
    let opening := Terminal.openSystem s.programs c {} "polyterm" (s.tool c.stty)
    match opening.runOn { input := s.input } with
    | (.error error, d) => (failed [] ⟨some "Unable to open the terminal", error⟩, d.tool)
    | (.ok t, _) =>
      match diagnose o t with
      | (.ok (), t) => ({ output := t.device.output.taken }, t.device.tool)
      | (.error f, t) => (failed t.device.output.taken f, t.device.tool)

/-- **The program**, with what became of the tool for settings. -/
def run (s : Setting) (arguments : List String) : Outcome × Option SttyTool :=
  match Request.read {} arguments with
  | .help => ({ complaint := Text.bytesOf helpText }, none)
  | .version => ({ complaint := Text.bytesOf (versionText ++ "\n") }, none)
  | .unknown a =>
    ({ complaint := Text.bytesOf (usageText ("Unknown argument: " ++ a)), status := .exited 1 },
      none)
  | .incomplete =>
    ({ complaint := Text.bytesOf (usageText "Missing config path"), status := .exited 1 }, none)
  | .work o => work s o

end Teletype.CommandLine
