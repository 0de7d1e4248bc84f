/-!
# What can go wrong with a terminal

Every failure is one of a few causes, and a cause has one text. Failures of
the outside world – files, devices, sinks – are kept apart from the failures a
terminal reports of its own accord, because the same device failure is shown
with and without a heading depending on who reports it.
-/

namespace Teletype

/-- **A failure of the outside world.** -/
inductive DeviceError where
  /-- A file or program does not exist. -/
  | notFound
  /-- A directory stands where a file was expected. -/
  | isDirectory
  /-- A file stands where a directory was expected. -/
  | notDirectory
  /-- A name is longer than names can be. -/
  | nameTooLong
  /-- A file is not a text. -/
  | notText
  /-- A text with a zero character cannot be handed to a program. -/
  | zeroCharacter
  /-- An output sink takes no more. -/
  | sinkFull
  /-- A terminal line was hung up. -/
  | hungUp
  /-- A console operation failed. -/
  | consoleFailed (operation : String)
  /-- A console interprets no escape sequences. -/
  | noVirtualTerminal
  /-- An input source failed. -/
  | sourceFailed
  /-- The terminal behind a reader or writer has been closed. -/
  | closed
  deriving DecidableEq

/-- The text of a failure of the outside world. -/
def DeviceError.message : DeviceError → String
  | notFound => "No such file or directory (os error 2)"
  | isDirectory => "Is a directory (os error 21)"
  | notDirectory => "Not a directory (os error 20)"
  | nameTooLong => "File name too long (os error 36)"
  | notText => "stream did not contain valid UTF-8"
  | zeroCharacter => "nul byte found in provided data"
  | sinkFull => "sink full"
  | hungUp => "Input/output error (os error 5)"
  | consoleFailed operation => operation ++ " failed"
  | noVirtualTerminal => "no virtual terminal"
  | sourceFailed => "input failed"
  | closed => "Terminal has been closed"

/-- An operation that a kind of terminal does not have. -/
inductive Unsupported where
  /-- A console's size is not ours to set. -/
  | setConsoleSize
  /-- Input can be injected only where a line discipline runs in software. -/
  | injectInput
  /-- Attributes belong to terminals. -/
  | notATerminal
  deriving DecidableEq

/-- The text naming an operation that is not there. -/
def Unsupported.message : Unsupported → String
  | setConsoleSize => "set_size on the Windows console"
  | injectInput => "process_input without a software line discipline"
  | notATerminal => "file descriptor is not a terminal"

/-- **A failure of a terminal operation.** -/
inductive TerminalError where
  /-- The outside world failed. -/
  | device (cause : DeviceError)
  /-- The terminal has been closed. -/
  | closed
  /-- The terminal does not have the operation. -/
  | unsupported (operation : Unsupported)
  /-- Some settings were refused. -/
  | partialApply (flags : List String)
  /-- A command failed. -/
  | command (line : String) (status : String) (complaint : String)
  /-- A configuration is malformed. -/
  | config
  /-- A number in a template gets out of range. -/
  | outOfRange
  deriving DecidableEq

/-- What is said of a malformed configuration. -/
def malformed : String := "malformed document"

/-- **The text of a failure.** What is wrong with a configuration is not spelled
out. -/
def TerminalError.message : TerminalError → String
  | device cause => "I/O error: " ++ cause.message
  | closed => "Terminal has been closed"
  | unsupported operation => "Operation not supported by this backend: " ++ operation.message
  | partialApply flags => "Unable to apply terminal flags: " ++ String.intercalate " " flags
  | command line status complaint =>
    "Command `" ++ line ++ "` failed (" ++ status ++ "): " ++ complaint
  | config => "Invalid configuration: " ++ malformed
  | outOfRange => "Number out of range"

/-- What is behind a failure, for those that come from elsewhere. -/
def TerminalError.source? : TerminalError → Option String
  | device cause => some cause.message
  | config => some malformed
  | _ => none

end Teletype
