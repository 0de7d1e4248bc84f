import Teletype.Command.Format

/-!
# The shell

A shell runs a script: simple commands, one after the other, each perhaps only
if the one before succeeded or failed. It knows quoting, variables and its own
arguments, and output sent to the error output and back, or to nowhere.

Some commands are its own: those that print, `exec`, and the commands that end it,
which are `exit` and killing itself. All others are programs that it is given.
-/

namespace Teletype

/-! ## Scripts -/

namespace Script

/-- **A fragment of a word.** -/
inductive Fragment where
  /-- Text that stands for itself. -/
  | text (content : List Char)
  /-- A variable or an argument, perhaps between quotation marks. -/
  | expansion (name : String) (quoted : Bool)
  deriving DecidableEq

/-- A word before its variables are replaced. -/
abbrev Word : Type := List Fragment

/-- Where output goes. -/
inductive Destination where
  /-- To the output. -/
  | output
  /-- To the error output. -/
  | complaint
  /-- To nowhere. -/
  | nowhere
  deriving DecidableEq

/-- **A token of a script.** -/
inductive Lexeme where
  /-- A word. -/
  | word (w : Word)
  /-- The end of a command. -/
  | next
  /-- The end of a command and of a line. -/
  | newline
  /-- The end of a command the following one needs to have succeeded. -/
  | andThen
  /-- The end of a command the following one needs to have failed. -/
  | orElse
  /-- One of the two outputs, the error output or not, goes where the error output or the
  output goes. -/
  | duplicate (errors : Bool) (toErrors : Bool)
  /-- One of the two outputs goes to nowhere. -/
  | discard (errors : Bool)
  /-- A quotation mark that is never closed. -/
  | unclosed
  deriving DecidableEq

/-- **A word that is being read.** -/
structure Draft where
  /-- The fragments, the last first. -/
  fragments : List Fragment := []
  /-- The characters behind them, the last first. -/
  characters : List Char := []
  /-- Whether there is a word, though it may be empty. -/
  begun : Bool := false

namespace Draft

/-- The word with one more character. -/
def push (d : Draft) (c : Char) : Draft :=
  { d with characters := c :: d.characters, begun := true }

/-- The fragments, with the characters behind them as one more. -/
def closed (d : Draft) : List Fragment :=
  if d.characters.isEmpty then d.fragments
  else .text d.characters.reverse :: d.fragments

/-- The word with a variable. -/
def expand (d : Draft) (name : String) (quoted : Bool) : Draft :=
  { fragments := .expansion name quoted :: d.closed, characters := [], begun := true }

/-- The word as a token, if there is one. -/
def tokens (d : Draft) : List Lexeme :=
  if d.begun then [.word (if d.closed.isEmpty then [.text []] else d.closed.reverse)] else []

end Draft

/-- Whether a character may stand in the name of a variable. -/
def isNameChar (c : Char) : Bool := c.isAlphanum || c == '_'

/-- Whether a text is the name of a variable. -/
def isName (cs : List Char) : Bool :=
  match cs with
  | [] => false
  | c :: _ => !c.isDigit && cs.all isNameChar

/-- Whether a character names an argument, or the arguments, or a status. -/
def isSpecial (c : Char) : Bool := c.isDigit || ['#', '*', '@', '?', '$'].contains c

/-- The name of the variable behind a dollar sign, if there is one. -/
def variableName? (cs : List Char) : Option (String × List Char) :=
  match cs with
  | [] => none
  | c :: rest =>
    if isSpecial c then some (String.ofList [c], rest)
    else if c.toNat = 0x7b then
      match rest.span fun d => d.toNat != 0x7d with
      | (name, _ :: rest) =>
        let known := isName name || (name.length = 1 && name.all isSpecial)
        if known then some (String.ofList name, rest) else none
      | (_, []) => none
    else if isNameChar c then
      some (String.ofList (cs.takeWhile isNameChar), cs.dropWhile isNameChar)
    else none

/-- The characters a backslash still works on between double quotation marks. -/
def isQuotable (c : Char) : Bool := c == '"' || c == '\\' || c == '$' || c.toNat == 96

/-- The redirections there are, as they are written, with what they do. -/
def redirections : List (String × Lexeme) :=
  [(">&1", .duplicate false false), (">&2", .duplicate false true),
   ("1>&2", .duplicate false true), ("2>&1", .duplicate true false),
   (">/dev/null", .discard false), ("> /dev/null", .discard false),
   ("1>/dev/null", .discard false), ("1> /dev/null", .discard false),
   ("2>/dev/null", .discard true), ("2> /dev/null", .discard true),
   (">/dev/stderr", .duplicate false true), ("> /dev/stderr", .duplicate false true)]

/-- The redirection at the front of a script, if there is one. One that starts with a
number cannot go on with a word. -/
def redirection? (begun : Bool) (cs : List Char) : Option (Lexeme × List Char) :=
  redirections.findSome? fun (written, token) =>
    if begun && written.toList.head?.any Char.isDigit then none
    else (written.toList.isPrefixOf? cs).map fun rest => (token, rest)

/-- **The tokens of a script**, in at most so many steps, given the word being read and
the quotation mark that is open, if one is. -/
def tokensFor : Nat → Draft → Option Char → List Char → List Lexeme
  | 0, _, _, _ => []
  | _ + 1, d, none, [] => d.tokens
  | _ + 1, _, some _, [] => [.unclosed]
  | n + 1, d, some q, c :: cs =>
    if c == q then tokensFor n { d with begun := true } none cs
    else if q == '"' && c == '\\' then
      match cs with
      | '\n' :: rest => tokensFor n d (some q) rest
      | e :: rest =>
        if isQuotable e then tokensFor n (d.push e) (some q) rest
        else tokensFor n (d.push c) (some q) cs
      | [] => [.unclosed]
    else if q == '"' && c == '$' then
      match variableName? cs with
      | some (name, rest) => tokensFor n (d.expand name true) (some q) rest
      | none => tokensFor n (d.push c) (some q) cs
    else tokensFor n (d.push c) (some q) cs
  | n + 1, d, none, c :: cs =>
    match redirection? d.begun (c :: cs) with
    | some (token, rest) => d.tokens ++ token :: tokensFor n {} none rest
    | none =>
      if c == '\\' then
        match cs with
        | '\n' :: rest => tokensFor n d none rest
        | e :: rest => tokensFor n (d.push e) none rest
        | [] => (d.push c).tokens
      else if c == '$' then
        match variableName? cs with
        | some (name, rest) => tokensFor n (d.expand name false) none rest
        | none => tokensFor n (d.push c) none cs
      else if c == '"' || c.toNat == 39 then tokensFor n { d with begun := true } (some c) cs
      else if c == '&' && cs.head? == some '&' then
        d.tokens ++ .andThen :: tokensFor n {} none cs.tail
      else if c == '|' && cs.head? == some '|' then
        d.tokens ++ .orElse :: tokensFor n {} none cs.tail
      else if c == ';' then d.tokens ++ .next :: tokensFor n {} none cs
      else if c == '\n' then d.tokens ++ .newline :: tokensFor n {} none cs
      else if c == ' ' || c == '\t' then d.tokens ++ tokensFor n {} none cs
      else if c == '#' && !d.begun then tokensFor n d none (cs.dropWhile (· != '\n'))
      else tokensFor n (d.push c) none cs

/-- **The tokens of a script.** -/
def tokens (script : String) : List Lexeme :=
  tokensFor (script.length + 1) {} none script.toList

/-- How many lines a token reaches over beyond its first. -/
def Lexeme.lines : Lexeme → Nat
  | .newline => 1
  | .word w =>
    w.foldl (fun n f =>
      match f with
      | .text content => n + content.count '\n'
      | .expansion .. => n) 0
  | _ => 0

end Script

/-! ## Running -/

/-- **A shell on its way.** -/
structure Shell where
  /-- Its own name and its arguments. -/
  parameters : List String
  /-- The programs that it runs, by name and arguments. -/
  programs : Programs
  /-- The variables that are set, the last first, with their values. -/
  assigned : List (String × String) := [("LC_ALL", "C")]
  /-- Where its output goes. -/
  output : Script.Destination := .output
  /-- Where its error output goes. -/
  complaint : Script.Destination := .complaint
  /-- The line it is in. -/
  line : Nat := 1
  /-- What has been written to both outputs, and the last status. -/
  outcome : Outcome := {}
  /-- Whether it has ended. -/
  ended : Bool := false

/-- A simple command: its words, and where its two outputs go. -/
structure Simple where
  /-- The words, the last first. -/
  words : List Script.Word := []
  /-- Where the output goes. -/
  output : Script.Destination
  /-- Where the error output goes. -/
  complaint : Script.Destination

namespace Shell

open Script

/-- What a variable stands for. -/
def value (sh : Shell) (name : String) : String :=
  if name == "?" then
    match sh.outcome.status with
    | .exited code => toString code
    | .killed signal => toString (128 + signal)
  else if name == "#" then toString (sh.parameters.length - 1)
  else if name == "*" || name == "@" then String.intercalate " " sh.parameters.tail
  else if name == "$" then "$$"
  else
    match name.toNat? with
    | some n => sh.parameters.getD n ""
    | none => (sh.assigned.lookup name).getD ""

/-- The values that fragments stand for, of which the first goes on with the word before
it, and the last with what comes after it. -/
def values (sh : Shell) : Fragment → List (List Char)
  | .text content => [content]
  | .expansion name quoted =>
    if name == "@" && quoted then sh.parameters.tail.map String.toList
    else if quoted then [(sh.value name).toList]
    else (sh.value name).toList.splitOnP fun c => c == ' ' || c == '\t' || c == '\n'

/-- Values put behind fields, the last field first. -/
def join : List (List Char) → List (List Char) → List (List Char)
  | fields, [] => fields
  | [], v :: vs => vs.reverse ++ [v]
  | f :: fields, v :: vs => vs.reverse ++ (f ++ v) :: fields

/-- Whether a word is there even if it is empty. -/
def isKept (w : Word) : Bool :=
  w.any fun
    | .text _ => true
    | .expansion name quoted => quoted && name != "@"

/-- **The fields of a word**: variables without quotation marks are cut at blanks. -/
def fields (sh : Shell) (w : Word) : List String :=
  let all := (w.foldl (fun fs f => join fs (sh.values f)) []).reverse
  (if isKept w then all else all.filter fun f => !f.isEmpty).map String.ofList

/-- The text of a word as the value of a variable. -/
def textOf (sh : Shell) (w : Word) : String :=
  String.join (w.map fun
    | .text content => String.ofList content
    | .expansion name _ => sh.value name)

/-- The variable that a word sets, with the word for its value. -/
def assignment? (w : Word) : Option (String × Word) :=
  match w with
  | .text content :: rest =>
    match content.span (· != '=') with
    | (name, _ :: value) =>
      if isName name then some (String.ofList name, .text value :: rest) else none
    | (_, []) => none
  | _ => none

/-- Bytes sent to a destination. -/
def send (sh : Shell) (d : Destination) (bytes : List UInt8) : Shell :=
  match d with
  | .output => { sh with outcome := { sh.outcome with output := sh.outcome.output ++ bytes } }
  | .complaint =>
    { sh with outcome := { sh.outcome with complaint := sh.outcome.complaint ++ bytes } }
  | .nowhere => sh

/-- A complaint of the shell itself. -/
def complaintOf (sh : Shell) (text : String) : List UInt8 :=
  Text.bytesOf (sh.parameters.headD "" ++ ": " ++ toString sh.line ++ ": " ++ text ++ "\n")

/-- The shell after a command has run. -/
def finish (sh : Shell) (c : Simple) (o : Outcome) : Shell :=
  let sh := (sh.send c.complaint o.complaint).send c.output o.output
  { sh with outcome := { sh.outcome with status := o.status } }

/-- The status that a text names, if it does. -/
def statusOf? (text : String) : Option Status :=
  let cs := text.toList.dropWhile (· == ' ')
  let ds := if cs.head? == some '+' then cs.tail else cs
  match (String.ofList ds).toNat? with
  | some n => if ds.all Char.isDigit && n < 2147483648 then some (.exited (n % 256)) else none
  | none => none

/-- The signal that an option of `kill` names, if it does. -/
def signalOf? (text : String) : Option Nat :=
  if !text.isEmpty && text.toList.all Char.isDigit then text.toNat?.filter (· ≤ 64)
  else
    (List.range 32).find? fun n => n != 0 && Status.signalName n == "SIG" ++ text.map Char.toUpper

/-- Whether a signal does nothing to a process that does not expect it, or stops it
for a while. -/
def isHarmless (signal : Nat) : Bool := [0, 17, 18, 19, 20, 21, 22, 23, 28].contains signal

/-- How `kill` is used. -/
def killUsage : String :=
  "kill: Usage: kill [-s sigspec | -signum | -sigspec] [pid | job]... or\nkill -l [exitstatus]"

/-- **The shell that kills**: itself, which ends it, or some process that there is not. -/
def kill (sh : Shell) (c : Simple) (arguments : List String) : Shell :=
  let fail (text : String) (status : Nat) := sh.finish c
    { complaint := sh.complaintOf text, status := .exited status }
  let signalled (signal : Option Nat) (option : String) : List String → Shell
    | [] => fail killUsage 2
    | target :: _ =>
      match signal with
      | none => fail ("kill: Illegal option -" ++ option) 2
      | some signal =>
        if target != "$$" then
          if target.toNat?.isSome then fail "kill: No such process\n" 1
          else fail ("kill: Illegal number: " ++ target) 2
        else if isHarmless signal then sh.finish c {}
        else { sh.finish c { status := .killed signal } with ended := true }
  match arguments with
  | "-s" :: name :: rest => signalled (signalOf? name) "s" rest
  | option :: rest =>
    match option.toList with
    | '-' :: name =>
      signalled (signalOf? (String.ofList name)) (String.ofList (name.take 1)) rest
    | _ => signalled (some 15) "" (option :: rest)
  | [] => fail killUsage 2

/-- The escapes of the shell's own `echo`. -/
def echoStyle : EscapeStyle := { skipsZero := true, stops := true }

/-- The shell's own `echo`: it always resolves escapes, and its one option is `-n`. -/
def echo (arguments : List String) : List UInt8 :=
  let (words, ending) := match arguments with
    | "-n" :: rest => (rest, [])
    | words => (words, [(10 : UInt8)])
  let (bytes, stopped) := echoStyle.resolve (String.intercalate " " words)
  if stopped then bytes else bytes ++ ending

/-- How the shell's own `printf` prints. -/
def printing (sh : Shell) : Format.Manner where
  heading := sh.parameters.headD "" ++ ": " ++ toString sh.line ++ ": printf: "
  escapes := {}
  modifiers := false
  fillsTexts := true
  name := id
  noNumber := "expected numeric value"
  incomplete := "not completely converted"
  broken written cut :=
    if cut then "missing format character" else written ++ ": invalid directive"
  brokenStatus := 2

/-- The shell's own `printf`. -/
def printf (sh : Shell) : List String → Outcome
  | "--" :: template :: arguments => Format.print sh.printing template arguments
  | template :: arguments =>
    match template.toList with
    | '-' :: c :: _ =>
      { complaint := sh.complaintOf ("printf: Illegal option -" ++ String.ofList [c])
        status := .exited 2 }
    | _ => Format.print sh.printing template arguments
  | [] =>
    { complaint := sh.complaintOf "printf: usage: printf format [arg ...]", status := .exited 2 }

/-- What a command leaves behind that does not change the shell. -/
def outcomeOf (sh : Shell) (name : String) (arguments : List String) : Outcome :=
  if name == "echo" then { output := echo arguments }
  else if name == "printf" then sh.printf arguments
  else if name == ":" then {}
  else
    (sh.programs name arguments).getD
      { complaint := sh.complaintOf (name ++ ": not found"), status := .exited 127 }

/-- The shell that ends as it is told to. -/
def exit (sh : Shell) (c : Simple) (arguments : List String) : Shell :=
  let ended (o : Outcome) : Shell := { sh.finish c o with ended := true }
  match arguments with
  | [] => ended { status := sh.outcome.status }
  | code :: _ =>
    match statusOf? code with
    | some status => ended { status }
    | none =>
      ended { complaint := sh.complaintOf ("exit: Illegal number: " ++ code), status := .exited 2 }

/-- The shell that becomes another command, or whose outputs go elsewhere from then
on. -/
def exec (sh : Shell) (c : Simple) : List String → Shell
  | [] => { sh.finish c {} with output := c.output, complaint := c.complaint }
  | name :: arguments =>
    let outcome := (sh.programs name arguments).getD
      { complaint := sh.complaintOf ("exec: " ++ name ++ ": not found"), status := .exited 127 }
    { sh.finish c outcome with ended := true }

/-- A command with its fields. A mark of exclamation turns its success around. -/
def perform (sh : Shell) (c : Simple) : List String → Shell
  | [] => sh.finish c {}
  | "exit" :: arguments => sh.exit c arguments
  | "return" :: arguments => sh.exit c arguments
  | "kill" :: arguments => sh.kill c arguments
  | "exec" :: arguments => sh.exec c arguments
  | "!" :: fields =>
    let sh := sh.perform c fields
    if sh.ended then sh
    else
      let status := if sh.outcome.status.succeeded then 1 else 0
      { sh with outcome := { sh.outcome with status := .exited status } }
  | "command" :: name :: arguments => sh.finish c (sh.outcomeOf name arguments)
  | name :: arguments => sh.finish c (sh.outcomeOf name arguments)

/-- **A simple command run by the shell.** Words that set variables may stand in
front; they last only if there is no other word. -/
def command (sh : Shell) (c : Simple) : Shell :=
  let words := c.words.reverse
  let assignments := words.takeWhile fun w => (assignment? w).isSome
  let fields := (words.drop assignments.length).flatMap sh.fields
  if fields.isEmpty then
    let sh := (assignments.filterMap assignment?).foldl (fun sh (name, w) =>
      { sh with assigned := (name, sh.textOf w) :: sh.assigned }) sh
    if words.isEmpty then sh else sh.finish c {}
  else sh.perform c fields

/-- A simple command of which nothing has been read. -/
def blank (sh : Shell) : Simple := { output := sh.output, complaint := sh.complaint }

/-- One of the two outputs of a command sent elsewhere. -/
def redirect (c : Simple) (errors : Bool) (d : Destination) : Simple :=
  if errors then { c with complaint := d } else { c with output := d }

/-- A script run token by token: the command being read, and whether it is to be
passed over. -/
def runFrom (sh : Shell) (c : Simple) (skip : Bool) : List Lexeme → Shell
  | [] => if skip || sh.ended then sh else sh.command c
  | t :: rest =>
    match t with
    | .word w => sh.runFrom { c with words := w :: c.words } skip rest
    | .duplicate errors toErrors =>
      sh.runFrom (redirect c errors (if toErrors then c.complaint else c.output)) skip rest
    | .discard errors => sh.runFrom (redirect c errors .nowhere) skip rest
    | t =>
      let sh := if skip || sh.ended then sh else sh.command c
      let lines := c.words.foldl (fun n w => n + (Lexeme.word w).lines) t.lines
      let sh := { sh with line := sh.line + lines }
      let succeeded := sh.outcome.status.succeeded
      let skip := (t == .andThen && !succeeded) || (t == .orElse && succeeded)
      sh.runFrom sh.blank skip rest

/-- **A script run.** One with a quotation mark that is never closed is not run. -/
def run (sh : Shell) (script : String) : Outcome :=
  let tokens := tokens script
  if tokens.contains .unclosed then
    { complaint := sh.complaintOf "Syntax error: Unterminated quoted string"
      status := .exited 2 }
  else (sh.runFrom sh.blank false tokens).outcome

end Shell

end Teletype
