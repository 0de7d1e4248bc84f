import Teletype.Command.Toolbox
import Teletype.Stty.Script

/-!
# The tool behind settings

What is run under the name of `stty` is either one of the programs that every
system has or one that follows a script. Either way a run prints something or
fails with a complaint.
-/

namespace Teletype

/-- **A tool that reads and changes settings.** -/
structure SttyTool where
  /-- The name it is run by. -/
  program : String
  /-- The script it follows, unless it is a program of the system. -/
  script : Option SttyScript := none

namespace SttyTool

/-- How many calls were made of a script. -/
def calls (t : SttyTool) : List (List String) := (t.script.map (·.calls)).getD []

/-- The failure of a run that complains. -/
def failure (t : SttyTool) (args : List String) (complaint : String) : TerminalError :=
  .command (Programs.line t.program args) (Status.exited 1).text
    (String.ofList (Text.trim complaint.toList))

/-- **A run of the tool.** -/
def run (args : List String) : Action SttyTool String :=
  Action.ofStep fun t =>
    match t.script with
    | none => (Toolbox.programs.run t.program args, t)
    | some s =>
      let (r, s) := (SttyScript.run (t.failure args) args).runOn s
      (r, { t with script := some s })

end SttyTool

end Teletype
