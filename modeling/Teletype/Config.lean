import Teletype.Error
import Teletype.Text.Utf8
import Teletype.Toml.Document

/-!
# Configuration

Settings are read from a TOML document. What the document does not mention has
a default, and what it mentions beyond the settings is ignored; but a setting
that has the wrong kind of value makes the whole document no configuration.

A group of settings may also be given as a list of values, in the order in
which the settings are listed here. A date or a time in the place of a group is
a group that mentions nothing.

The environment matters in three ways. It names the default type of terminal;
it says where the document is; and it can ask for strictness when settings are
loaded from their usual place, where a document that is missing or malformed
does no harm.
-/

namespace Teletype

/-- **The settings of terminals.** -/
structure Config where
  /-- The type of terminal. -/
  type : String
  /-- Whether using a closed terminal is an error. -/
  strict : Bool := false
  /-- Whether signals of the process are handled. -/
  nativeSignals : Bool := true
  /-- Whether settings are read and changed by `stty` even where the kernel could be
  asked. -/
  prefersStty : Bool := false
  /-- The program that reads and changes settings. -/
  stty : String := "stty"
  /-- The program that prints descriptions. -/
  infocmp : String := "infocmp"
  /-- Whether terminals on streams start out paused. -/
  paused : Bool := false
  /-- The columns of terminals on streams. -/
  columns : UInt16 := 160
  /-- The rows of terminals on streams. -/
  rows : UInt16 := 50
  deriving DecidableEq

/-- **The environment of a process**: variables and their values. -/
abbrev Environment : Type := List (String × String)

namespace Config

open Toml (Node Entries)

/-- The type of terminal the environment names, if it names one. -/
def usualType (env : Environment) : String :=
  match env.lookup "TERM" with
  | some type => if type.isEmpty then "ansi" else type
  | none => "ansi"

/-- **The settings by default.** -/
def usual (env : Environment) : Config := { type := usualType env }

/-! ## Reading a document -/

/-- The text a node is, if it is one. -/
def text? : Node → Option String
  | .text s => some s
  | _ => none

/-- The truth value a node is, if it is one. -/
def boolean? : Node → Option Bool
  | .boolean b => some b
  | _ => none

/-- The number of sixteen bits a node is, if it is one. -/
def word? : Node → Option UInt16
  | .integer n => if 0 ≤ n && n < 65536 then some (UInt16.ofNat n.toNat) else none
  | _ => none

/-- A setting: its name, and how its value changes the configuration. -/
structure Setting where
  /-- The name. -/
  name : String
  /-- The configuration with the setting as a node says, unless the node cannot be its
  value. -/
  apply : Node → Config → Option Config

/-- Settings by name. Names that are not settings are ignored. -/
def applyEntries (settings : List Setting) (entries : Entries) (c : Config) : Option Config :=
  entries.foldlM (fun c (key, node) =>
    match settings.find? fun s => s.name == key with
    | some s => s.apply node c
    | none => some c) c

/-- Settings by position. Values beyond the settings are ignored. -/
def applyItems (settings : List Setting) (items : List Node) (c : Config) : Option Config :=
  (settings.zip items).foldlM (fun c (s, node) => s.apply node c) c

/-- A group of settings. -/
def applyGroup (settings : List Setting) (node : Node) (c : Config) : Option Config :=
  match node with
  | .table _ entries => applyEntries settings entries c
  | .list items => applyItems settings items c
  | .tables items => applyItems settings (items.map (.table .named)) c
  | .moment _ => some c
  | _ => none

/-- The settings for commands. -/
def commandSettings : List Setting :=
  [⟨"stty", fun n c => (text? n).map fun s => { c with stty := s }⟩,
   ⟨"infocmp", fun n c => (text? n).map fun s => { c with infocmp := s }⟩]

/-- The settings for streams. -/
def streamSettings : List Setting :=
  [⟨"paused", fun n c => (boolean? n).map fun b => { c with paused := b }⟩,
   ⟨"columns", fun n c => (word? n).map fun w => { c with columns := w }⟩,
   ⟨"rows", fun n c => (word? n).map fun w => { c with rows := w }⟩]

/-- **All settings.** -/
def settings : List Setting :=
  [⟨"term_type", fun n c => (text? n).map fun s => { c with type := s }⟩,
   ⟨"strict_closed_checks", fun n c => (boolean? n).map fun b => { c with strict := b }⟩,
   ⟨"native_signals", fun n c => (boolean? n).map fun b => { c with nativeSignals := b }⟩,
   ⟨"prefer_exec_pty", fun n c => (boolean? n).map fun b => { c with prefersStty := b }⟩,
   ⟨"commands", applyGroup commandSettings⟩,
   ⟨"stream", applyGroup streamSettings⟩]

/-- **The configuration a document says.** -/
def parse (env : Environment) (source : String) : Except TerminalError Config :=
  match (Toml.parse? source).bind fun entries => applyEntries settings entries (usual env) with
  | some c => .ok c
  | none => .error .config

/-! ## Loading a document -/

/-- What there is at the place of a file. -/
inductive File where
  /-- Nothing. -/
  | missing
  /-- A directory. -/
  | directory
  /-- Nothing, and there could not be anything, for a file stands on the way. -/
  | beyondFile
  /-- Nothing, and there could not be anything, for no name is that long. -/
  | nameTooLong
  /-- A file with some content. -/
  | content (bytes : List UInt8)

/-- The text of a file. -/
def File.text : File → Except TerminalError String
  | missing => .error (.device .notFound)
  | directory => .error (.device .isDirectory)
  | beyondFile => .error (.device .notDirectory)
  | nameTooLong => .error (.device .nameTooLong)
  | content bytes =>
    match Text.decode? bytes with
    | some cs => .ok (String.ofList cs)
    | none => .error (.device .notText)

/-- **The configuration in a file.** -/
def loadFrom (env : Environment) (file : File) : Except TerminalError Config := do
  parse env (← file.text)

/-- The home directory: one variable comes before the other. -/
def home? (env : Environment) : Option String :=
  (env.lookup "USERPROFILE").orElse fun _ => env.lookup "HOME"

/-- The name of the directory in the home directory that holds the document. -/
def directory : String := ".polyterm"

/-- The name of the document in it. -/
def fileName : String := "config.toml"

/-- The place of the document, from the home directory. -/
def usualPlace : String := directory ++ "/" ++ fileName

/-- Whether the environment asks for strictness. -/
def asksForStrictness (env : Environment) : Bool :=
  match env.lookup "POLYTERM_STRICT_CLOSED" with
  | some v => v == "1" || v.map Char.toLower == "true"
  | none => false

/-- **The configuration in use**: that of the file at the usual place, or the one by
default when there is no such place, no file, or no configuration in it; and
strict if the environment asks for it. -/
def load (env : Environment) (file : File) : Config :=
  let c := match home? env, loadFrom env file with
    | some _, .ok c => c
    | _, _ => usual env
  if asksForStrictness env then { c with strict := true } else c

end Config

end Teletype
