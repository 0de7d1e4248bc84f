/-!
# Capabilities

A capability is one thing a description can say about a type of terminal: that
it has a property, how many of something it has, or which bytes make it do
something. Descriptions write capabilities by short names; each also has a
long name that says what it is.
-/

namespace Teletype

/-- The three kinds of capability. -/
inductive CapabilityKind where
  /-- A property the terminal has or lacks. -/
  | flag
  /-- A number. -/
  | number
  /-- A template for the bytes to send, or that a key sends. -/
  | text
  deriving DecidableEq

/-- **A capability.** -/
inductive Capability where
  | autoRightMargin | backColorErase | eatNewlineGlitch | hasMetaKey | moveInsertMode
  | moveStandoutMode | xonXoff | canChange | genericType | hardCopy | columns | lines
  | maxColors | maxPairs | initTabs | noColorVideo | bell | carriageReturn | newline
  | tab | backTab | clearScreen | clrEol | clrBol | clrEos | cursorAddress | cursorHome
  | cursorUp | cursorDown | cursorLeft | cursorRight | parmUpCursor | parmDownCursor
  | parmLeftCursor | parmRightCursor | columnAddress | rowAddress | cursorInvisible
  | cursorNormal | cursorVisible | saveCursor | restoreCursor | deleteCharacter | parmDch
  | parmIch | deleteLine | parmDeleteLine | insertLine | parmInsertLine | eraseChars
  | changeScrollRegion | scrollForward | scrollReverse | parmIndex | parmRindex
  | enterAltCharsetMode | exitAltCharsetMode | enterBlinkMode | enterBoldMode
  | enterDimMode | enterItalicsMode | exitItalicsMode | enterReverseMode
  | enterSecureMode | enterStandoutMode | exitStandoutMode | enterUnderlineMode
  | exitUnderlineMode | exitAttributeMode | enterCaMode | exitCaMode | enterAmMode
  | exitAmMode | keypadXmit | keypadLocal | flashScreen | origPair | setAForeground
  | setABackground | setForeground | setBackground | keyBackspace | keyBtab | keyDc
  | keyIc | keyHome | keyEnd | keyPpage | keyNpage | keyUp | keyDown | keyLeft | keyRight
  | keyEnter | keyF1 | keyF2 | keyF3 | keyF4 | keyF5 | keyF6 | keyF7 | keyF8 | keyF9
  | keyF10 | keyF11 | keyF12 | keyMouse | user6 | user7 | user8 | user9
  deriving DecidableEq

namespace Capability

/-- **All capabilities**: properties, numbers, and then the texts. -/
def all : List Capability :=
  [.autoRightMargin, .backColorErase, .eatNewlineGlitch, .hasMetaKey, .moveInsertMode,
   .moveStandoutMode, .xonXoff, .canChange, .genericType, .hardCopy, .columns, .lines,
   .maxColors, .maxPairs, .initTabs, .noColorVideo, .bell, .carriageReturn, .newline,
   .tab, .backTab, .clearScreen, .clrEol, .clrBol, .clrEos, .cursorAddress, .cursorHome,
   .cursorUp, .cursorDown, .cursorLeft, .cursorRight, .parmUpCursor, .parmDownCursor,
   .parmLeftCursor, .parmRightCursor, .columnAddress, .rowAddress, .cursorInvisible,
   .cursorNormal, .cursorVisible, .saveCursor, .restoreCursor, .deleteCharacter,
   .parmDch, .parmIch, .deleteLine, .parmDeleteLine, .insertLine, .parmInsertLine,
   .eraseChars, .changeScrollRegion, .scrollForward, .scrollReverse, .parmIndex,
   .parmRindex, .enterAltCharsetMode, .exitAltCharsetMode, .enterBlinkMode,
   .enterBoldMode, .enterDimMode, .enterItalicsMode, .exitItalicsMode, .enterReverseMode,
   .enterSecureMode, .enterStandoutMode, .exitStandoutMode, .enterUnderlineMode,
   .exitUnderlineMode, .exitAttributeMode, .enterCaMode, .exitCaMode, .enterAmMode,
   .exitAmMode, .keypadXmit, .keypadLocal, .flashScreen, .origPair, .setAForeground,
   .setABackground, .setForeground, .setBackground, .keyBackspace, .keyBtab, .keyDc,
   .keyIc, .keyHome, .keyEnd, .keyPpage, .keyNpage, .keyUp, .keyDown, .keyLeft,
   .keyRight, .keyEnter, .keyF1, .keyF2, .keyF3, .keyF4, .keyF5, .keyF6, .keyF7, .keyF8,
   .keyF9, .keyF10, .keyF11, .keyF12, .keyMouse, .user6, .user7, .user8, .user9]

set_option maxRecDepth 4000 in
/-- Every capability is in the list of all capabilities. -/
theorem mem_all (c : Capability) : c ∈ all := by cases c <;> decide

/-- **The short name** descriptions use. -/
def name : Capability → String
  | autoRightMargin => "am"
  | backColorErase => "bce"
  | eatNewlineGlitch => "xenl"
  | hasMetaKey => "km"
  | moveInsertMode => "mir"
  | moveStandoutMode => "msgr"
  | xonXoff => "xon"
  | canChange => "ccc"
  | genericType => "gn"
  | hardCopy => "hc"
  | columns => "cols"
  | lines => "lines"
  | maxColors => "colors"
  | maxPairs => "pairs"
  | initTabs => "it"
  | noColorVideo => "ncv"
  | bell => "bel"
  | carriageReturn => "cr"
  | newline => "nel"
  | tab => "ht"
  | backTab => "cbt"
  | clearScreen => "clear"
  | clrEol => "el"
  | clrBol => "el1"
  | clrEos => "ed"
  | cursorAddress => "cup"
  | cursorHome => "home"
  | cursorUp => "cuu1"
  | cursorDown => "cud1"
  | cursorLeft => "cub1"
  | cursorRight => "cuf1"
  | parmUpCursor => "cuu"
  | parmDownCursor => "cud"
  | parmLeftCursor => "cub"
  | parmRightCursor => "cuf"
  | columnAddress => "hpa"
  | rowAddress => "vpa"
  | cursorInvisible => "civis"
  | cursorNormal => "cnorm"
  | cursorVisible => "cvvis"
  | saveCursor => "sc"
  | restoreCursor => "rc"
  | deleteCharacter => "dch1"
  | parmDch => "dch"
  | parmIch => "ich"
  | deleteLine => "dl1"
  | parmDeleteLine => "dl"
  | insertLine => "il1"
  | parmInsertLine => "il"
  | eraseChars => "ech"
  | changeScrollRegion => "csr"
  | scrollForward => "ind"
  | scrollReverse => "ri"
  | parmIndex => "indn"
  | parmRindex => "rin"
  | enterAltCharsetMode => "smacs"
  | exitAltCharsetMode => "rmacs"
  | enterBlinkMode => "blink"
  | enterBoldMode => "bold"
  | enterDimMode => "dim"
  | enterItalicsMode => "sitm"
  | exitItalicsMode => "ritm"
  | enterReverseMode => "rev"
  | enterSecureMode => "invis"
  | enterStandoutMode => "smso"
  | exitStandoutMode => "rmso"
  | enterUnderlineMode => "smul"
  | exitUnderlineMode => "rmul"
  | exitAttributeMode => "sgr0"
  | enterCaMode => "smcup"
  | exitCaMode => "rmcup"
  | enterAmMode => "smam"
  | exitAmMode => "rmam"
  | keypadXmit => "smkx"
  | keypadLocal => "rmkx"
  | flashScreen => "flash"
  | origPair => "op"
  | setAForeground => "setaf"
  | setABackground => "setab"
  | setForeground => "setf"
  | setBackground => "setb"
  | keyBackspace => "kbs"
  | keyBtab => "kcbt"
  | keyDc => "kdch1"
  | keyIc => "kich1"
  | keyHome => "khome"
  | keyEnd => "kend"
  | keyPpage => "kpp"
  | keyNpage => "knp"
  | keyUp => "kcuu1"
  | keyDown => "kcud1"
  | keyLeft => "kcub1"
  | keyRight => "kcuf1"
  | keyEnter => "kent"
  | keyF1 => "kf1"
  | keyF2 => "kf2"
  | keyF3 => "kf3"
  | keyF4 => "kf4"
  | keyF5 => "kf5"
  | keyF6 => "kf6"
  | keyF7 => "kf7"
  | keyF8 => "kf8"
  | keyF9 => "kf9"
  | keyF10 => "kf10"
  | keyF11 => "kf11"
  | keyF12 => "kf12"
  | keyMouse => "kmous"
  | user6 => "u6"
  | user7 => "u7"
  | user8 => "u8"
  | user9 => "u9"

/-- The long name, which says what the capability is. -/
def longName : Capability → String
  | autoRightMargin => "AutoRightMargin"
  | backColorErase => "BackColorErase"
  | eatNewlineGlitch => "EatNewlineGlitch"
  | hasMetaKey => "HasMetaKey"
  | moveInsertMode => "MoveInsertMode"
  | moveStandoutMode => "MoveStandoutMode"
  | xonXoff => "XonXoff"
  | canChange => "CanChange"
  | genericType => "GenericType"
  | hardCopy => "HardCopy"
  | columns => "Columns"
  | lines => "Lines"
  | maxColors => "MaxColors"
  | maxPairs => "MaxPairs"
  | initTabs => "InitTabs"
  | noColorVideo => "NoColorVideo"
  | bell => "Bell"
  | carriageReturn => "CarriageReturn"
  | newline => "Newline"
  | tab => "Tab"
  | backTab => "BackTab"
  | clearScreen => "ClearScreen"
  | clrEol => "ClrEol"
  | clrBol => "ClrBol"
  | clrEos => "ClrEos"
  | cursorAddress => "CursorAddress"
  | cursorHome => "CursorHome"
  | cursorUp => "CursorUp"
  | cursorDown => "CursorDown"
  | cursorLeft => "CursorLeft"
  | cursorRight => "CursorRight"
  | parmUpCursor => "ParmUpCursor"
  | parmDownCursor => "ParmDownCursor"
  | parmLeftCursor => "ParmLeftCursor"
  | parmRightCursor => "ParmRightCursor"
  | columnAddress => "ColumnAddress"
  | rowAddress => "RowAddress"
  | cursorInvisible => "CursorInvisible"
  | cursorNormal => "CursorNormal"
  | cursorVisible => "CursorVisible"
  | saveCursor => "SaveCursor"
  | restoreCursor => "RestoreCursor"
  | deleteCharacter => "DeleteCharacter"
  | parmDch => "ParmDch"
  | parmIch => "ParmIch"
  | deleteLine => "DeleteLine"
  | parmDeleteLine => "ParmDeleteLine"
  | insertLine => "InsertLine"
  | parmInsertLine => "ParmInsertLine"
  | eraseChars => "EraseChars"
  | changeScrollRegion => "ChangeScrollRegion"
  | scrollForward => "ScrollForward"
  | scrollReverse => "ScrollReverse"
  | parmIndex => "ParmIndex"
  | parmRindex => "ParmRindex"
  | enterAltCharsetMode => "EnterAltCharsetMode"
  | exitAltCharsetMode => "ExitAltCharsetMode"
  | enterBlinkMode => "EnterBlinkMode"
  | enterBoldMode => "EnterBoldMode"
  | enterDimMode => "EnterDimMode"
  | enterItalicsMode => "EnterItalicsMode"
  | exitItalicsMode => "ExitItalicsMode"
  | enterReverseMode => "EnterReverseMode"
  | enterSecureMode => "EnterSecureMode"
  | enterStandoutMode => "EnterStandoutMode"
  | exitStandoutMode => "ExitStandoutMode"
  | enterUnderlineMode => "EnterUnderlineMode"
  | exitUnderlineMode => "ExitUnderlineMode"
  | exitAttributeMode => "ExitAttributeMode"
  | enterCaMode => "EnterCaMode"
  | exitCaMode => "ExitCaMode"
  | enterAmMode => "EnterAmMode"
  | exitAmMode => "ExitAmMode"
  | keypadXmit => "KeypadXmit"
  | keypadLocal => "KeypadLocal"
  | flashScreen => "FlashScreen"
  | origPair => "OrigPair"
  | setAForeground => "SetAForeground"
  | setABackground => "SetABackground"
  | setForeground => "SetForeground"
  | setBackground => "SetBackground"
  | keyBackspace => "KeyBackspace"
  | keyBtab => "KeyBtab"
  | keyDc => "KeyDc"
  | keyIc => "KeyIc"
  | keyHome => "KeyHome"
  | keyEnd => "KeyEnd"
  | keyPpage => "KeyPpage"
  | keyNpage => "KeyNpage"
  | keyUp => "KeyUp"
  | keyDown => "KeyDown"
  | keyLeft => "KeyLeft"
  | keyRight => "KeyRight"
  | keyEnter => "KeyEnter"
  | keyF1 => "KeyF1"
  | keyF2 => "KeyF2"
  | keyF3 => "KeyF3"
  | keyF4 => "KeyF4"
  | keyF5 => "KeyF5"
  | keyF6 => "KeyF6"
  | keyF7 => "KeyF7"
  | keyF8 => "KeyF8"
  | keyF9 => "KeyF9"
  | keyF10 => "KeyF10"
  | keyF11 => "KeyF11"
  | keyF12 => "KeyF12"
  | keyMouse => "KeyMouse"
  | user6 => "User6"
  | user7 => "User7"
  | user8 => "User8"
  | user9 => "User9"

/-- The kind of a capability. -/
def kind : Capability → CapabilityKind
  | autoRightMargin => .flag
  | backColorErase => .flag
  | eatNewlineGlitch => .flag
  | hasMetaKey => .flag
  | moveInsertMode => .flag
  | moveStandoutMode => .flag
  | xonXoff => .flag
  | canChange => .flag
  | genericType => .flag
  | hardCopy => .flag
  | columns => .number
  | lines => .number
  | maxColors => .number
  | maxPairs => .number
  | initTabs => .number
  | noColorVideo => .number
  | _ => .text

/-- The capability with a short name. -/
def ofName? (s : String) : Option Capability := all.find? fun c => c.name == s

/-- The capability with a short name, if it is of a kind. -/
def ofNameAndKind? (s : String) (k : CapabilityKind) : Option Capability :=
  (ofName? s).filter fun c => c.kind == k

end Capability

end Teletype
