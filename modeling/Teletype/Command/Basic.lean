import Teletype.Error
import Teletype.Text.Blank
import Teletype.Text.Utf8

/-!
# Commands

Some of what a terminal needs is done by other programs: `stty` reads and
changes settings, `infocmp` prints descriptions. Here a program is what it
answers: given its arguments it cannot be started, or it writes some output
and some complaints and ends with a status.
-/

namespace Teletype

/-- How a program ended. -/
inductive Status where
  /-- It returned a number; zero is success. -/
  | exited (code : Nat)
  /-- A signal killed it. -/
  | killed (signal : Nat)
  deriving DecidableEq

namespace Status

/-- The names of the signals that kill. Those for real time have none. -/
def signalName : Nat → String
  | 1 => "SIGHUP"
  | 2 => "SIGINT"
  | 3 => "SIGQUIT"
  | 4 => "SIGILL"
  | 5 => "SIGTRAP"
  | 6 => "SIGABRT"
  | 7 => "SIGBUS"
  | 8 => "SIGFPE"
  | 9 => "SIGKILL"
  | 10 => "SIGUSR1"
  | 11 => "SIGSEGV"
  | 12 => "SIGUSR2"
  | 13 => "SIGPIPE"
  | 14 => "SIGALRM"
  | 15 => "SIGTERM"
  | 16 => "SIGSTKFLT"
  | 24 => "SIGXCPU"
  | 25 => "SIGXFSZ"
  | 26 => "SIGVTALRM"
  | 27 => "SIGPROF"
  | 29 => "SIGIO"
  | 30 => "SIGPWR"
  | 31 => "SIGSYS"
  | _ => ""

/-- Success is returning zero. -/
def succeeded (s : Status) : Bool := s == exited 0

/-- The text of a status. -/
def text : Status → String
  | exited code => "exit status: " ++ toString code
  | killed signal =>
    let name := signalName signal
    "signal: " ++ toString signal ++ if name.isEmpty then "" else " (" ++ name ++ ")"

end Status

/-- What a program left behind. -/
structure Outcome where
  /-- What it wrote to its output. -/
  output : List UInt8 := []
  /-- What it wrote to its error output. -/
  complaint : List UInt8 := []
  /-- How it ended. -/
  status : Status := .exited 0
  deriving DecidableEq

/-- **The programs there are**, by name and arguments. Nothing when a program
cannot be started. -/
abbrev Programs : Type := String → List String → Option Outcome

namespace Programs

/-- No programs at all. -/
def none : Programs := fun _ _ => Option.none

/-- Whether a text can be handed to a program: a zero character would end it. -/
def canPass (text : String) : Bool := !text.toList.contains (Char.ofNat 0)

/-- The line that is shown for a command. -/
def line (program : String) (args : List String) : String :=
  program ++ " " ++ String.intercalate " " args

/-- **A command's output** as a text, if it succeeds. A program that cannot be
started fails like a missing file, and one that fails shows its complaint. -/
def run (programs : Programs) (program : String) (args : List String) :
    Except TerminalError String :=
  if !(program :: args).all canPass then .error (.device .zeroCharacter)
  else
    match programs program args with
    | .none => .error (.device .notFound)
    | some o =>
      if o.status.succeeded then .ok (String.ofList (Text.decodeLossy o.output))
      else
        let complaint := String.ofList (Text.trim (Text.decodeLossy o.complaint))
        .error (.command (line program args) o.status.text complaint)

end Programs

end Teletype
