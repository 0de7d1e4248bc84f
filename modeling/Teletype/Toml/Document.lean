import Teletype.Toml.Scalar

/-!
# Reading TOML documents

A document is a sequence of lines: headers, statements, comments, and blank
lines. Headers choose the table that the statements after them add to. Lists
and tables in braces are values that hold values, and may nest to a limit.

The readers of lists and tables call each other, each time with fewer characters
left; a count of steps, never less than the number of characters, says so.
-/

namespace Teletype.Toml

/-! ## Blanks and comments -/

/-- Characters without the blanks at their front. -/
def skipBlanks (cs : List Char) : List Char := cs.dropWhile isBlank

/-- Characters without a comment at their front. -/
def skipComment : List Char → List Char
  | '#' :: rest => rest.dropWhile isPlain
  | cs => cs

/-- What is behind the end of a line, after blanks and a comment. -/
def lineTail (cs : List Char) : Option (List Char) :=
  match skipComment (skipBlanks cs) with
  | [] => some []
  | '\n' :: rest => some rest
  | '\r' :: '\n' :: rest => some rest
  | _ => none

/-- Characters without blanks, comments and line ends at their front. -/
def skipSpace : List Char → List Char
  | c :: rest =>
    if isBlank c || c == '\n' then skipSpace rest
    else if c == '#' then skipCommentIn rest
    else if c == '\r' && rest.head? == some '\n' then skipSpace rest
    else c :: rest
  | [] => []
where
  /-- The same within a comment. -/
  skipCommentIn : List Char → List Char
    | c :: rest =>
      if c == '\n' then skipSpace rest
      else if c == '\r' && rest.head? == some '\n' then skipSpace rest
      else if isPlain c then skipCommentIn rest
      else c :: rest
    | [] => []

/-! ## Keys -/

/-- Whether a character may stand in a key without quotes. -/
def isBare (c : Char) : Bool := c.isAlphanum || c == '_' || c == '-'

/-- One part of a key. -/
def keyPart? (cs : List Char) : Option (String × List Char) :=
  match cs with
  | '"' :: rest => (quoted rest).map fun (k, rest) => (String.ofList k, rest)
  | '\'' :: rest => (literal rest).map fun (k, rest) => (String.ofList k, rest)
  | cs =>
    match cs.takeWhile isBare with
    | [] => none
    | k => some (String.ofList k, cs.dropWhile isBare)

/-- How many parts a key may have, and how deep values may nest. -/
def limit : Nat := 80

/-- **A key**: parts with dots between them, and blanks around each. It is given as
the path to its last part, and that part. -/
def key? : Nat → List Char → Option ((List String × String) × List Char)
  | 0, _ => none
  | parts + 1, cs => do
    let (part, rest) ← keyPart? (skipBlanks cs)
    match skipBlanks rest with
    | '.' :: rest => do
      let ((path, last), rest) ← key? parts rest
      some ((part :: path, last), rest)
    | rest => some (([], part), rest)

/-- A key of at most as many parts as are allowed. -/
def key (cs : List Char) : Option ((List String × String) × List Char) := key? (limit - 1) cs

/-! ## Values -/

/-- **A value that holds no others.** -/
def scalar? (cs : List Char) : Option (Node × List Char) :=
  match cs with
  | 't' :: 'r' :: 'u' :: 'e' :: rest => some (.boolean true, rest)
  | 'f' :: 'a' :: 'l' :: 's' :: 'e' :: rest => some (.boolean false, rest)
  | c :: _ =>
    if c == '"' || c == '\'' then
      (text? cs).map fun (content, rest) => (.text (String.ofList content), rest)
    else (moment? cs).orElse fun _ => number? cs
  | [] => none

mutual

/-- **A value.** The first count bounds the steps, the second the nesting. -/
def value : Nat → Nat → List Char → Option (Node × List Char)
  | 0, _, _ => none
  | steps + 1, depth, cs =>
    match cs, depth with
    | '[' :: _, 0 => none
    | '{' :: _, 0 => none
    | '[' :: rest, depth + 1 =>
      (items steps depth (skipSpace rest)).map fun (ns, rest) => (.list ns, rest)
    | '{' :: rest, depth + 1 =>
      match skipBlanks rest with
      | '}' :: rest => some (.table .braces [], rest)
      | rest => (pairs steps depth [] rest).map fun (e, rest) => (.table .braces e, rest)
    | cs, _ => scalar? cs

/-- The items of a list, to its closing bracket. -/
def items : Nat → Nat → List Char → Option (List Node × List Char)
  | 0, _, _ => none
  | _ + 1, _, ']' :: rest => some ([], rest)
  | steps + 1, depth, cs => do
    let (n, rest) ← value steps depth cs
    match skipSpace rest with
    | ',' :: rest => do
      let (ns, rest) ← items steps depth (skipSpace rest)
      some (n :: ns, rest)
    | ']' :: rest => some ([n], rest)
    | _ => none

/-- The statements of a table in braces, to its closing brace, behind the entries
there are already. -/
def pairs : Nat → Nat → Entries → List Char → Option (Entries × List Char)
  | 0, _, _, _ => none
  | steps + 1, depth, entries, cs => do
    let ((path, last), rest) ← key cs
    let rest ← behind '=' rest
    let (n, rest) ← value steps depth (skipBlanks rest)
    let entries ← entries.assign path last n
    match skipBlanks rest with
    | ',' :: rest => pairs steps depth entries rest
    | '}' :: rest => some (entries, rest)
    | _ => none

end

/-! ## Documents -/

/-- **A document as far as it has been read**: its entries, and the header in
force. -/
structure Draft where
  /-- The entries. -/
  entries : Entries := []
  /-- The path of the table that statements add to. -/
  header : List String := []

/-- A statement added to the table of the header in force. -/
def Draft.assign (d : Draft) (path : List String) (last : String) (n : Node) : Option Draft := do
  let entries ← Entries.change false (fun _ e => e.assign path last n) d.header .named d.entries
  some { d with entries }

/-- A header, behind its opening brackets. -/
def Draft.openHeader (d : Draft) (cs : List Char) : Option (Draft × List Char) :=
  match cs with
  | '[' :: rest => do
    let ((path, last), rest) ← key rest
    let rest ← behind ']' (← behind ']' rest)
    let entries ← d.entries.openNext path last
    some ({ entries, header := path ++ [last] }, rest)
  | rest => do
    let ((path, last), rest) ← key rest
    let rest ← behind ']' rest
    let entries ← d.entries.openTable path last
    some ({ entries, header := path ++ [last] }, rest)

/-- One line that is neither blank nor a comment. -/
def Draft.line (d : Draft) (cs : List Char) : Option (Draft × List Char) :=
  match cs with
  | '[' :: rest => d.openHeader rest
  | cs => do
    let ((path, last), rest) ← key cs
    let rest ← behind '=' rest
    let (n, rest) ← value (rest.length + 1) (limit - 1) (skipBlanks rest)
    some (← d.assign path last n, rest)

/-- The lines of a document, at most so many. -/
def Draft.lines : Nat → Draft → List Char → Option Draft
  | 0, _, _ => none
  | count + 1, d, cs =>
    match skipBlanks cs with
    | [] => some d
    | c :: rest =>
      if c == '#' || c == '\n' || c == '\r' then do
        Draft.lines count d (← lineTail (c :: rest))
      else do
        let (d, rest) ← d.line (c :: rest)
        Draft.lines count d (← lineTail rest)

/-- **The entries of a document**, if it is well formed. A mark of byte order may
stand at its front. -/
def parse? (source : String) : Option Entries :=
  let cs := match source.toList with
    | '\ufeff' :: rest => rest
    | cs => cs
  (Draft.lines (cs.length + 1) {} cs).map (·.entries)

end Teletype.Toml
