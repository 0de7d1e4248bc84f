/-!
# Mode flags of a terminal

A terminal's modes are four words of flags: how input is processed, how output
is, how the line is driven, and what the line discipline does for its user.
Each flag is one switch with one name. The names are those of settings
listings, in lower case.

The order of the flags, within a word and of the words, is the order in which
listings print them and requests name them.
-/

namespace Teletype

/-- The four words of flags. -/
inductive FlagWord where
  /-- Input processing. -/
  | input
  /-- Output processing. -/
  | output
  /-- Hardware control. -/
  | control
  /-- Local modes, the line discipline's own. -/
  | discipline
  deriving DecidableEq

/-- **A mode flag.** -/
inductive Flag where
  /-- Ignore breaks. -/
  | ignbrk
  /-- A break interrupts. -/
  | brkint
  /-- Ignore bytes with parity errors. -/
  | ignpar
  /-- Mark parity errors. -/
  | parmrk
  /-- Check parity on input. -/
  | inpck
  /-- Strip the high bit of input. -/
  | istrip
  /-- Turn NL into CR on input. -/
  | inlcr
  /-- Ignore CR on input. -/
  | igncr
  /-- Turn CR into NL on input. -/
  | icrnl
  /-- Stop and start characters hold output. -/
  | ixon
  /-- Send stop and start characters. -/
  | ixoff
  /-- Any character restarts output. -/
  | ixany
  /-- Ring when the input buffer is full. -/
  | imaxbel
  /-- Input is UTF-8. -/
  | iutf8
  /-- Turn CR into NL and drop the LF of a CR LF pair. -/
  | inormeol
  /-- Process output. -/
  | opost
  /-- Turn NL into CR NL on output. -/
  | onlcr
  /-- Expand tabs. -/
  | oxtabs
  /-- Drop end-of-transmission characters. -/
  | onoeot
  /-- Turn CR into NL on output. -/
  | ocrnl
  /-- Write no CR in the first column. -/
  | onocr
  /-- NL also returns the carriage. -/
  | onlret
  /-- Delay with fill characters. -/
  | ofill
  /-- Delay after NL. -/
  | nldly
  /-- Delay after tabs. -/
  | tabdly
  /-- Delay after CR. -/
  | crdly
  /-- Delay after form feeds. -/
  | ffdly
  /-- Delay after backspaces. -/
  | bsdly
  /-- Delay after vertical tabs. -/
  | vtdly
  /-- Fill with delete. -/
  | ofdel
  /-- Ignore the control word. -/
  | cignore
  /-- Five bits to a character. -/
  | cs5
  /-- Six bits to a character. -/
  | cs6
  /-- Seven bits to a character. -/
  | cs7
  /-- Eight bits to a character. -/
  | cs8
  /-- Two stop bits. -/
  | cstopb
  /-- Enable the receiver. -/
  | cread
  /-- Use parity. -/
  | parenb
  /-- Odd parity. -/
  | parodd
  /-- Hang up on the last close. -/
  | hupcl
  /-- Ignore modem lines. -/
  | clocal
  /-- CTS holds output. -/
  | cctsOflow
  /-- RTS holds input. -/
  | crtsIflow
  /-- DTR holds input. -/
  | cdtrIflow
  /-- DSR holds output. -/
  | cdsrOflow
  /-- Carrier holds output. -/
  | ccarOflow
  /-- KILL erases the line on the screen. -/
  | echoke
  /-- ERASE erases on the screen. -/
  | echoe
  /-- KILL is followed by NL. -/
  | echok
  /-- Echo input. -/
  | echo
  /-- Echo NL even without echo. -/
  | echonl
  /-- Echo erased characters. -/
  | echoprt
  /-- Echo control characters by their caret spelling. -/
  | echoctl
  /-- Signal characters raise signals. -/
  | isig
  /-- Input comes in edited lines. -/
  | icanon
  /-- Another rule for words. -/
  | altwerase
  /-- Quoting and word erasure. -/
  | iexten
  /-- Processing happens elsewhere. -/
  | extproc
  /-- Background output stops. -/
  | tostop
  /-- Output is being flushed. -/
  | flusho
  /-- STATUS prints nothing. -/
  | nokerninfo
  /-- Input waits to be retyped. -/
  | pendin
  /-- Signals leave the queues alone. -/
  | noflsh
  deriving DecidableEq

namespace Flag

/-- The flags of the input word, in order. -/
def inputs : List Flag :=
  [.ignbrk, .brkint, .ignpar, .parmrk, .inpck, .istrip, .inlcr, .igncr, .icrnl, .ixon,
   .ixoff, .ixany, .imaxbel, .iutf8, .inormeol]

/-- The flags of the output word, in order. -/
def outputs : List Flag :=
  [.opost, .onlcr, .oxtabs, .onoeot, .ocrnl, .onocr, .onlret, .ofill, .nldly, .tabdly,
   .crdly, .ffdly, .bsdly, .vtdly, .ofdel]

/-- The flags of the control word, in order. -/
def controls : List Flag :=
  [.cignore, .cs5, .cs6, .cs7, .cs8, .cstopb, .cread, .parenb, .parodd, .hupcl, .clocal,
   .cctsOflow, .crtsIflow, .cdtrIflow, .cdsrOflow, .ccarOflow]

/-- The flags of the local word, in order. -/
def locals : List Flag :=
  [.echoke, .echoe, .echok, .echo, .echonl, .echoprt, .echoctl, .isig, .icanon, .altwerase,
   .iexten, .extproc, .tostop, .flusho, .nokerninfo, .pendin, .noflsh]

/-- The flags of a word, in order. -/
def ofWord : FlagWord → List Flag
  | .input => inputs
  | .output => outputs
  | .control => controls
  | .discipline => locals

/-- **All flags**, word by word. -/
def all : List Flag := inputs ++ outputs ++ controls ++ locals

/-- Every flag is in the list of all flags. -/
theorem mem_all (f : Flag) : f ∈ all := by cases f <;> decide

/-- **The name of a flag** in a settings listing. -/
def name : Flag → String
  | ignbrk => "ignbrk"
  | brkint => "brkint"
  | ignpar => "ignpar"
  | parmrk => "parmrk"
  | inpck => "inpck"
  | istrip => "istrip"
  | inlcr => "inlcr"
  | igncr => "igncr"
  | icrnl => "icrnl"
  | ixon => "ixon"
  | ixoff => "ixoff"
  | ixany => "ixany"
  | imaxbel => "imaxbel"
  | iutf8 => "iutf8"
  | inormeol => "inormeol"
  | opost => "opost"
  | onlcr => "onlcr"
  | oxtabs => "oxtabs"
  | onoeot => "onoeot"
  | ocrnl => "ocrnl"
  | onocr => "onocr"
  | onlret => "onlret"
  | ofill => "ofill"
  | nldly => "nldly"
  | tabdly => "tabdly"
  | crdly => "crdly"
  | ffdly => "ffdly"
  | bsdly => "bsdly"
  | vtdly => "vtdly"
  | ofdel => "ofdel"
  | cignore => "cignore"
  | cs5 => "cs5"
  | cs6 => "cs6"
  | cs7 => "cs7"
  | cs8 => "cs8"
  | cstopb => "cstopb"
  | cread => "cread"
  | parenb => "parenb"
  | parodd => "parodd"
  | hupcl => "hupcl"
  | clocal => "clocal"
  | cctsOflow => "ccts_oflow"
  | crtsIflow => "crts_iflow"
  | cdtrIflow => "cdtr_iflow"
  | cdsrOflow => "cdsr_oflow"
  | ccarOflow => "ccar_oflow"
  | echoke => "echoke"
  | echoe => "echoe"
  | echok => "echok"
  | echo => "echo"
  | echonl => "echonl"
  | echoprt => "echoprt"
  | echoctl => "echoctl"
  | isig => "isig"
  | icanon => "icanon"
  | altwerase => "altwerase"
  | iexten => "iexten"
  | extproc => "extproc"
  | tostop => "tostop"
  | flusho => "flusho"
  | nokerninfo => "nokerninfo"
  | pendin => "pendin"
  | noflsh => "noflsh"

/-- The flag with a name. -/
def ofName? (s : String) : Option Flag := all.find? fun f => f.name == s

end Flag

end Teletype
