import Teletype.Command.Shell

/-!
# The programs every system has

A few small programs can be relied on everywhere: `true`, `false`, `echo`,
`printf`, `cat` for an empty input and for files that are not there, a shell, and
`stty`, which refuses to work on anything but a terminal.
-/

namespace Teletype.Toolbox

/-! ## Printing arguments -/

/-- Whether an argument is a run of option letters of `echo`. -/
def isEchoOption (argument : String) : Bool :=
  match argument.toList with
  | '-' :: c :: cs => (c :: cs).all fun d => d == 'n' || d == 'e' || d == 'E'
  | _ => false

/-- The escapes of `echo`. -/
def echoStyle : EscapeStyle := { skipsZero := true, hex := true, stops := true }

/-- `echo`: its arguments and a line end. The last letter about escapes counts. -/
def echo (arguments : List String) : List UInt8 :=
  let options := arguments.takeWhile isEchoOption
  let words := String.intercalate " " (arguments.dropWhile isEchoOption)
  let letters := options.flatMap String.toList
  let resolves := (letters.reverse.find? fun c => c == 'e' || c == 'E') == some 'e'
  let (body, stopped) := if resolves then echoStyle.resolve words else (Text.bytesOf words, false)
  if stopped || letters.contains 'n' then body else body ++ [10]

/-- How `printf` prints. -/
def printing : Format.Manner where
  heading := "printf: "
  escapes := { hex := true, hexNeedsDigit := true, quotes := true, stops := true }
  modifiers := true
  fillsTexts := false
  name argument := "'" ++ argument ++ "'"
  noNumber := "expected a numeric value"
  incomplete := "value not completely converted"
  broken written _ := written ++ ": invalid conversion specification"
  brokenStatus := 1

/-- The complaint of `printf` without a format. -/
def missingOperand : String :=
  "printf: missing operand\nTry 'printf --help' for more information.\n"

/-- `printf`: its arguments as the first of them says. -/
def printf : List String → Outcome
  | "--" :: template :: arguments => Format.print printing template arguments
  | [] | ["--"] => { complaint := Text.bytesOf missingOperand, status := .exited 1 }
  | template :: arguments => Format.print printing template arguments

/-! ## Showing files -/

/-- The options of `cat`. -/
def catOptions : List Char := "AbeEnstTuv".toList

/-- The first letter among the options that is none, if there is one. -/
def badOption? (options : List Char) (arguments : List String) : Option Char :=
  arguments.findSome? fun argument =>
    match argument.toList with
    | '-' :: letters => letters.find? fun c => !options.contains c
    | _ => none

/-- What `cat` says of a file, unless it is one that is always there and empty. -/
def catComplaint (file : String) : String :=
  if file.startsWith "-" || file == "/dev/null" then ""
  else "cat: " ++ file ++ ": No such file or directory
"

/-- `cat`, where there is nothing to show. -/
def cat (arguments : List String) : Outcome :=
  match badOption? catOptions arguments with
  | some c =>
    { complaint := Text.bytesOf ("cat: invalid option -- '" ++ String.ofList [c]
        ++ "'
Try 'cat --help' for more information.
")
      status := .exited 1 }
  | none =>
    let complaint := String.join (arguments.map catComplaint)
    { complaint := Text.bytesOf complaint, status := .exited (if complaint.isEmpty then 0 else 1) }

/-! ## All programs -/

/-- **The programs** other than the shell. -/
def tools : Programs := fun program arguments =>
  match program, arguments with
  | "true", _ => some {}
  | "false", _ => some { status := .exited 1 }
  | "cat", arguments => some (cat arguments)
  | "echo", arguments => some { output := echo arguments }
  | "printf", arguments => some (printf arguments)
  | "stty", _ =>
    some
      { complaint := Text.bytesOf "stty: 'standard input': Inappropriate ioctl for device\n"
        status := .exited 1 }
  | _, _ => none

/-- A shell that is not given a script: it complains, unless it reads its script from
an empty input. -/
def shellWithoutScript (arguments : List String) : Outcome :=
  match arguments with
  | ["-c"] =>
    { complaint := Text.bytesOf "sh: 0: -c requires an argument\n", status := .exited 2 }
  | file :: _ =>
    if file.startsWith "-" then {}
    else
      { complaint := Text.bytesOf ("sh: 0: cannot open " ++ file ++ ": No such file\n")
        status := .exited 2 }
  | [] => {}

/-- **The programs every system has.** -/
def programs : Programs := fun program arguments =>
  match program, arguments with
  | "sh", "-c" :: script :: arguments =>
    let parameters := if arguments.isEmpty then [program] else arguments
    some (Shell.run { parameters, programs := tools } script)
  | "sh", arguments => some (shellWithoutScript arguments)
  | program, arguments => tools program arguments

end Teletype.Toolbox
