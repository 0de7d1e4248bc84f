import Teletype.Attributes.Basic

/-!
# The kernel's form of attributes

A kernel keeps the attributes of a terminal as four words of bits and a table
of control bytes. Most flags are one bit of their word, and two of the delays,
that of a carriage return and that of a tab, are fields of two bits that count
as on when either bit is. The character size is a field, too, with one value
per size.

Writing attributes over the kernel's form changes the bits that flags stand
for and leaves all others alone. Flags and slots without a place here are
lost, and a slot whose byte is zero is disabled.
-/

namespace Teletype

/-- **The kernel's form of attributes.** -/
@[ext] structure Termios where
  /-- The four words, each holding the flags of its kind. -/
  word : FlagWord → UInt32
  /-- The table of control bytes. -/
  chars : Fin 32 → UInt8

namespace Termios

/-- **The bits of a flag** in its word. The character sizes share a field and
are treated apart; the remaining flags without a mask have no place. -/
def mask : Flag → Option UInt32
  | .ignbrk => some 0x1
  | .brkint => some 0x2
  | .ignpar => some 0x4
  | .parmrk => some 0x8
  | .inpck => some 0x10
  | .istrip => some 0x20
  | .inlcr => some 0x40
  | .igncr => some 0x80
  | .icrnl => some 0x100
  | .ixon => some 0x400
  | .ixany => some 0x800
  | .ixoff => some 0x1000
  | .imaxbel => some 0x2000
  | .iutf8 => some 0x4000
  | .opost => some 0x1
  | .onlcr => some 0x4
  | .ocrnl => some 0x8
  | .onocr => some 0x10
  | .onlret => some 0x20
  | .ofill => some 0x40
  | .ofdel => some 0x80
  | .nldly => some 0x100
  | .crdly => some 0x600
  | .tabdly => some 0x1800
  | .bsdly => some 0x2000
  | .vtdly => some 0x4000
  | .ffdly => some 0x8000
  | .cstopb => some 0x40
  | .cread => some 0x80
  | .parenb => some 0x100
  | .parodd => some 0x200
  | .hupcl => some 0x400
  | .clocal => some 0x800
  | .isig => some 0x1
  | .icanon => some 0x2
  | .echo => some 0x8
  | .echoe => some 0x10
  | .echok => some 0x20
  | .echonl => some 0x40
  | .noflsh => some 0x80
  | .tostop => some 0x100
  | .echoctl => some 0x200
  | .echoprt => some 0x400
  | .echoke => some 0x800
  | .flusho => some 0x1000
  | .pendin => some 0x4000
  | .iexten => some 0x8000
  | _ => none

/-- The field of the control word that holds the character size. -/
def sizeField : UInt32 := 0x30

/-- The value of the size field for a character size. -/
def sizeValue : Flag → Option UInt32
  | .cs5 => some 0x00
  | .cs6 => some 0x10
  | .cs7 => some 0x20
  | .cs8 => some 0x30
  | _ => none

/-- The place of a slot in the table of control bytes. -/
def slot : ControlChar → Option (Fin 32)
  | .intr => some 0
  | .quit => some 1
  | .erase => some 2
  | .kill => some 3
  | .eof => some 4
  | .time => some 5
  | .min => some 6
  | .start => some 8
  | .stop => some 9
  | .susp => some 10
  | .eol => some 11
  | .reprint => some 12
  | .discard => some 13
  | .werase => some 14
  | .lnext => some 15
  | .eol2 => some 16
  | .dsusp => none
  | .status => none

/-- Whether a flag is on: some bit of its mask is set, or the size field has its
value. -/
def flagOn (t : Termios) (w : FlagWord) (f : Flag) : Bool :=
  match mask f, sizeValue f with
  | some m, _ => t.word w &&& m != 0
  | none, some v => t.word .control &&& sizeField == v
  | none, none => false

/-- The value of a slot. A count always has one; a character whose byte is zero
has none. -/
def charOf (t : Termios) (c : ControlChar) : Option UInt8 :=
  match slot c with
  | none => none
  | some i => if !c.isCount && t.chars i == 0 then none else some (t.chars i)

/-- The word a flag belongs to. -/
def wordOf (f : Flag) : FlagWord :=
  if f ∈ Flag.inputs then .input
  else if f ∈ Flag.outputs then .output
  else if f ∈ Flag.controls then .control
  else .discipline

/-- **The attributes a kernel shows.** -/
def attributes (t : Termios) : Attributes where
  flag f := t.flagOn (wordOf f) f
  char c := t.charOf c

/-- A word with the bits of a mask all set or all cleared. -/
def assign (word m : UInt32) (on : Bool) : UInt32 := if on then word ||| m else word &&& ~~~m

/-- A word with the flags of its kind written over it. -/
def applyFlags (a : Attributes) (fs : List Flag) (word : UInt32) : UInt32 :=
  fs.foldl (fun w f => match mask f with
    | some m => assign w m (a.flag f)
    | none => w) word

/-- The largest character size that is on. -/
def sizeChosen (a : Attributes) : Option UInt32 :=
  ([Flag.cs8, .cs7, .cs6, .cs5].find? a.flag).bind sizeValue

/-- The control word with the character size written over it, if one is on. -/
def applySize (a : Attributes) (word : UInt32) : UInt32 :=
  match sizeChosen a with
  | some v => (word &&& ~~~sizeField) ||| v
  | none => word

/-- The byte that is written for a slot: zero for one that is disabled. -/
def byteFor (a : Attributes) (c : ControlChar) : UInt8 := (a.char c).getD 0

/-- **Attributes written over a kernel's form.** -/
def apply (a : Attributes) (t : Termios) : Termios where
  word w :=
    match w with
    | .control => applySize a (applyFlags a Flag.controls (t.word .control))
    | w => applyFlags a (Flag.ofWord w) (t.word w)
  chars i :=
    match ControlChar.all.find? fun c => slot c == some i with
    | some c => byteFor a c
    | none => t.chars i

end Termios

end Teletype
