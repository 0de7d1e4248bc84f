import Teletype.Attributes.Basic
import Teletype.Text.Blank
import Teletype.Text.Numeral
import Teletype.Text.Utf8
import Teletype.Text.Word

/-!
# Reading a settings listing

`stty -a` prints the settings of a terminal, and no two systems print them
alike: flags alone or under headings, `name = value` closed by a semicolon or
by the end of the line, sizes before or after their names. One reader serves
them all, because it looks for each setting by itself and minds nothing else
in the text.

A flag is a word between blanks or semicolons, off with a minus in front, and
its first mention counts. A control character is a `name = value` after a
blank or a semicolon, and its value reaches to the next one. A size is a
number beside its name.
-/

namespace Teletype.Stty

open Text

/-- Blanks and semicolons separate the words of a listing. -/
def isSeparator (c : Char) : Bool := isBlank c || c == ';'

/-! ## Flags -/

/-- The words between separators; there may be empty ones. -/
def words : List Char → List (List Char)
  | [] => [[]]
  | c :: cs =>
    if isSeparator c then [] :: words cs
    else
      match words cs with
      | [] => [[c]]
      | w :: ws => (c :: w) :: ws

/-- **What the words say of a flag**: the first that is its name, bare or
behind a minus. -/
def mention? (ws : List (List Char)) (name : List Char) : Option Bool :=
  ws.findSome? fun w =>
    if w = name then some true else if w = '-' :: name then some false else none

/-- The flags a listing turns on; those it does not mention are off. -/
def flagsOn (listing : List Char) : List Flag :=
  let ws := words listing
  Flag.all.filter fun f => mention? ws f.name.toList == some true

/-! ## Control characters -/

/-- A value at this very place: any character but a line end, and all that
follow up to a separator, which has to be there. -/
def valueHere? : List Char → Option (List Char)
  | [] => none
  | c :: rest =>
    if c == '\n' then none
    else
      match rest.dropWhile fun d => !isSeparator d with
      | [] => none
      | _ :: _ => some (c :: rest.takeWhile fun d => !isSeparator d)

/-- A value behind blanks. All blanks are passed over if a value follows them;
failing that, the value may begin with a blank, the later the better. -/
def valueAfterBlanks? : List Char → Option (List Char)
  | [] => none
  | c :: rest =>
    if isBlank c then (valueAfterBlanks? rest).or (valueHere? (c :: rest))
    else valueHere? (c :: rest)

/-- The value behind an equals sign that blanks may stand before. -/
def assigned? (cs : List Char) : Option (List Char) :=
  match cs.dropWhile isBlank with
  | '=' :: rest => valueAfterBlanks? rest
  | _ => none

/-- The value assigned to one of several names at this very place. -/
def settingHere? (names : List (List Char)) (cs : List Char) : Option (List Char) :=
  names.findSome? fun name => (name.isPrefixOf? cs).bind assigned?

/-- **The first value assigned to one of several names** that stands behind a
separator. -/
def setting? (names : List (List Char)) : List Char → Option (List Char)
  | [] => none
  | c :: rest =>
    if isSeparator c then (settingHere? names rest).or (setting? names rest)
    else setting? names rest

/-- The names a slot goes by in listings. Two have an older name as well. -/
def slotNames : ControlChar → List (List Char)
  | .reprint => ["reprint".toList, "rprnt".toList]
  | .discard => ["discard".toList, "flush".toList]
  | c => [c.name.toList]

/-- The byte a caret makes of the one after it: `^?` is delete, and letters of
either case give control bytes. -/
def caretValue (b : UInt8) : Nat :=
  if b == 0x3f then 0x7f
  else
    let upper := if 0x61 ≤ b && b ≤ 0x7a then b - 0x20 else b
    (upper - 0x40).toNat

/-- The letters of a text in lower case. -/
def lowered (cs : List Char) : List Char := cs.map Char.toLower

/-- The number a value spells: in octal with a leading zero, in decimal, by a
caret, by `M-` with or without a caret, or by its first byte. -/
def charCode? (text : List Char) : Option Nat :=
  match utf8 text with
  | [] => none
  | first :: rest =>
    if first == 0x30 then natural? 8 0xffffffff text
    else if 0x31 ≤ first && first ≤ 0x39 then natural? 10 0xffffffff text
    else if first == 0x5e then rest.head?.map caretValue
    else if first == 0x4d && rest.head? == some 0x2d then
      match rest.drop 1 with
      | [] => none
      | b :: more =>
        if b == 0x5e then more.head?.map fun c => caretValue c + 128 else some (b.toNat + 128)
    else some first.toNat

/-- **The value a control character is printed with.** `some none` is a slot
that is disabled, and `none` a text that is not understood. -/
def charValue? (text : List Char) : Option (Option UInt8) :=
  if text.isEmpty then none
  else if lowered text = "<undef>".toList || text = "-^?".toList || text = "^-".toList then
    some none
  else if lowered text = "del".toList then some (some 0x7f)
  else
    (charCode? text).bind fun n => if n < 256 then some (some (UInt8.ofNat n)) else none

/-- What a listing says of a slot. A name at the very start counts as well. -/
def slotValue? (listing : List Char) (c : ControlChar) : Option (Option UInt8) :=
  (setting? (slotNames c) (' ' :: listing)).bind charValue?

/-! ## The whole listing -/

/-- **The attributes a listing shows.** -/
def attributes (listing : String) : Attributes :=
  let on := flagsOn listing.toList
  let chars := ControlChar.all.filterMap fun c =>
    ((slotValue? listing.toList c).bind id).map fun b => (c, b)
  { flag := fun f => decide (f ∈ on), char := fun c => chars.lookup c }

/-! ## The window size -/

/-- Whether a name or a number may end in front of this text. -/
def endsHere : List Char → Bool
  | [] => true
  | c :: _ => !isWord c

/-- An ASCII digit. -/
def isDigit (c : Char) : Bool := '0' ≤ c && c ≤ '9'

/-- `80 columns`: a number, blanks and the name. -/
def countBefore? (name : List Char) (cs : List Char) : Option (List Char) :=
  match cs.takeWhile isDigit, cs.dropWhile isDigit with
  | [], _ => none
  | digits, c :: rest =>
    if isBlank c then
      match name.isPrefixOf? (rest.dropWhile isBlank) with
      | some after => if endsHere after then some digits else none
      | none => none
    else none
  | _, [] => none

/-- The number at this very place, if it ends a word. -/
def countHere? (cs : List Char) : Option (List Char) :=
  match cs.takeWhile isDigit with
  | [] => none
  | digits => if endsHere (cs.dropWhile isDigit) then some digits else none

/-- `columns 80`: the name, blanks and a number. -/
def countAfter? (name : List Char) (cs : List Char) : Option (List Char) :=
  match name.isPrefixOf? cs with
  | some (c :: rest) => if isBlank c then countHere? (rest.dropWhile isBlank) else none
  | _ => none

/-- `columns = 80`: the name, an equals sign and a number. -/
def countAssigned? (name : List Char) (cs : List Char) : Option (List Char) :=
  match (name.isPrefixOf? cs).map fun rest => rest.dropWhile isBlank with
  | some ('=' :: rest) => countHere? (rest.dropWhile isBlank)
  | _ => none

/-- The first place not inside a word where a number is found. -/
def findCount? (here : List Char → Option (List Char)) (inWord : Bool) :
    List Char → Option (List Char)
  | [] => none
  | c :: rest =>
    (if inWord then none else here (c :: rest)).or (findCount? here (isWord c) rest)

/-- **A dimension of the window**, in the first of the three layouts that
occurs. A number that does not fit, and none at all, count as zero. -/
def dimension (listing : List Char) (name : String) : UInt16 :=
  let name := name.toList
  let found := (findCount? (countBefore? name) false listing).or
    ((findCount? (countAfter? name) false listing).or
      (findCount? (countAssigned? name) false listing))
  match found.bind (natural? 10 65535) with
  | some n => UInt16.ofNat n
  | none => 0

/-- **The window size a listing shows.** -/
def size (listing : String) : Size :=
  ⟨dimension listing.toList "columns", dimension listing.toList "rows"⟩

end Teletype.Stty
