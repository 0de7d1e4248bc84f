import Teletype.Error

/-!
# How failures are told

A failure is told with what was being done when it happened, and below that with
its causes, the nearest first. A single cause is only indented; several are
numbered. Lines after the first of a cause are indented as far as its text.
-/

namespace Teletype.CommandLine

/-- **A failure**, and what was being done. -/
structure Failure where
  /-- What was being done, if that is told. -/
  context : Option String
  /-- What went wrong. -/
  error : TerminalError

/-- What a failure consists of, from what was being done to the first cause. -/
def Failure.chain (f : Failure) : List String :=
  f.context.toList ++ f.error.message :: f.error.source?.toList

/-- A text with something put in front of all its lines but the first. -/
def hanging (indent text : String) : String :=
  String.ofList (text.toList.flatMap fun c => if c == '\n' then c :: indent.toList else [c])

/-- A cause as it is told, with its number if it has one. -/
def causeText (number : Option Nat) (text : String) : String :=
  match number with
  | none => "\n    " ++ hanging "    " text
  | some n => "\n    " ++ toString n ++ ": " ++ hanging "       " text

/-- **The text of a failure.** -/
def Failure.text (f : Failure) : String :=
  match f.chain with
  | [] => ""
  | [told] => "Error: " ++ told ++ "\n"
  | [told, cause] => "Error: " ++ told ++ "\n\nCaused by:" ++ causeText none cause ++ "\n"
  | told :: causes =>
    "Error: " ++ told ++ "\n\nCaused by:"
      ++ String.join (causes.zipIdx.map fun (cause, n) => causeText (some n) cause) ++ "\n"

end Teletype.CommandLine
