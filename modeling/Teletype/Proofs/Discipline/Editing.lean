import Mathlib.Data.List.DropRight
import Teletype.Proofs.Discipline.Chunks

/-!
# Lines are edited one by one

The discipline quotes, edits and ends lines in one pass over its input. It might as well do
so in two. First the input is cut at its line ends, and nothing is edited (`cut`). Then each
piece is edited on its own, from an empty line (`typed`, `Piece.line`). For this the input
is taken keystroke by keystroke, a keystroke being a byte together with the one that quotes
it, if there is one (`strokes`).

One keystroke does one thing to a line that is being collected: it edits the line
(`run_bytes_of_none`), or it ends it and hands it over (`run_bytes_of_some`). So after any
keystrokes the line is what the unfinished piece comes to, and the reader has been given what
the finished ones come to (`run_strokes`). Nothing that is typed reaches across a line end,
and nothing of a line gets to the reader before the line ends (`processAll_lines`).
-/

namespace Teletype

/-- **Input that comes in lines**, with bytes that count as they are: there are no signals,
no bit is stripped, and line ends are not changed. -/
structure Attributes.Lined (a : Attributes) : Prop where
  icanon : a.flag .icanon = true
  isig : a.flag .isig = false
  istrip : a.flag .istrip = false
  inlcr : a.flag .inlcr = false
  igncr : a.flag .igncr = false
  icrnl : a.flag .icrnl = false
  inormeol : a.flag .inormeol = false

namespace LineEditor

/-! ## Keystrokes -/

/-- Whether a byte quotes the next one. -/
def quotes (a : Attributes) (b : UInt8) : Bool := a.flag .iexten && a.isChar .lnext b

/-- Whether a byte erases a word. -/
def erasesWord (a : Attributes) (b : UInt8) : Bool := a.flag .iexten && a.isChar .werase b

/-- **Whether a byte is an editing character.** -/
def edits (a : Attributes) (b : UInt8) : Bool :=
  quotes a b || a.isChar .erase b || erasesWord a b || a.isChar .kill b

/-- **A keystroke**: a byte, and the byte that quotes it if there is one. -/
inductive Stroke (a : Attributes) where
  /-- A byte that is not quoted and quotes nothing. -/
  | plain (b : UInt8) (h : quotes a b = false)
  /-- A byte that is quoted, whatever it is. -/
  | quoted (quote b : UInt8) (h : quotes a quote = true)

/-- **The keystrokes of some input.** A byte that would quote the next one is none as long
as there is no next one. -/
def strokes (a : Attributes) : List UInt8 → List (Stroke a)
  | [] => []
  | [b] => if h : quotes a b = true then [] else [.plain b (Bool.of_not_eq_true h)]
  | b :: c :: rest =>
    if h : quotes a b = true then .quoted b c h :: strokes a rest
    else .plain b (Bool.of_not_eq_true h) :: strokes a (c :: rest)

variable {a : Attributes}

namespace Stroke

/-- The bytes of a keystroke. -/
def bytes : Stroke a → List UInt8
  | plain b _ => [b]
  | quoted quote b _ => [quote, b]

/-- **What a keystroke makes of a line** that it does not end. -/
def edit (line : List UInt8) : Stroke a → List UInt8
  | quoted _ b _ => line ++ [b]
  | plain b _ =>
    if a.isChar .erase b then line.dropLast
    else if erasesWord a b then (line.rdropWhile (· == 0x20)).rdropWhile (· != 0x20)
    else if a.isChar .kill b then []
    else line ++ [b]

/-- **The line end that a keystroke is**, if it is one: not quoted, no editing character, and
an end of input, a line feed or another line end. -/
def lineEnd? : Stroke a → Option UInt8
  | quoted _ _ _ => none
  | plain b _ =>
    if !edits a b && (a.isChar .eof b || b == lineFeed || a.isChar .eol b || a.isChar .eol2 b)
    then some b else none

theorem edit_plain (line : List UInt8) {b : UInt8} (h : quotes a b = false) :
    (plain b h).edit line
      = if a.isChar .erase b then line.dropLast
        else if erasesWord a b then (line.rdropWhile (· == 0x20)).rdropWhile (· != 0x20)
        else if a.isChar .kill b then []
        else line ++ [b] := rfl

theorem lineEnd?_plain_eq_some_iff {b last : UInt8} (h : quotes a b = false) :
    (plain b h).lineEnd? = some last
      ↔ edits a b = false ∧ (a.isChar .eof b = true ∨ Discipline.endsLine a b = true)
        ∧ b = last := by
  simp [lineEnd?, Discipline.endsLine, and_assoc, or_assoc]

theorem lineEnd?_plain_eq_none_iff {b : UInt8} (h : quotes a b = false) :
    (plain b h).lineEnd? = none
      ↔ edits a b = true ∨ a.isChar .eof b = false ∧ Discipline.endsLine a b = false := by
  cases hb : edits a b <;> simp [lineEnd?, Discipline.endsLine, hb, and_assoc]

end Stroke

/-- The bytes of the keystrokes are those of the input, but for one at its end that quotes
a byte still to come. -/
theorem exists_tail (a : Attributes) (input : List UInt8) :
    ∃ tail, input = (strokes a input).flatMap Stroke.bytes ++ tail
      ∧ (tail = [] ∨ ∃ b, quotes a b = true ∧ tail = [b]) := by
  induction input using strokes.induct a with
  | case1 => exact ⟨[], rfl, .inl rfl⟩
  | case2 b hquotes => exact ⟨[b], by rw [strokes, dif_pos hquotes]; rfl, .inr ⟨b, hquotes, rfl⟩⟩
  | case3 b hquotes => exact ⟨[], by rw [strokes, dif_neg hquotes]; rfl, .inl rfl⟩
  | case4 b c rest hquotes ih =>
    obtain ⟨tail, hrest, htail⟩ := ih
    refine ⟨tail, ?_, htail⟩
    rw [strokes, dif_pos hquotes]
    exact congrArg (b :: c :: ·) hrest
  | case5 b c rest hquotes ih =>
    obtain ⟨tail, hrest, htail⟩ := ih
    refine ⟨tail, ?_, htail⟩
    rw [strokes, dif_neg hquotes]
    exact congrArg (b :: ·) hrest

/-! ## Two phases -/

/-- **A piece of input** that has been finished. -/
structure Piece (a : Attributes) where
  /-- What was typed. -/
  strokes : List (Stroke a)
  /-- The byte that ended it. -/
  last : UInt8

/-- **Input cut** at its line ends. -/
structure Cut (a : Attributes) where
  /-- The finished pieces. -/
  finished : List (Piece a) := []
  /-- The unfinished one. -/
  unfinished : List (Stroke a) := []

/-- One more keystroke: it finishes a piece or joins it. -/
def Cut.add (c : Cut a) (s : Stroke a) : Cut a :=
  match s.lineEnd? with
  | some last => { finished := c.finished ++ [⟨c.unfinished, last⟩] }
  | none => { c with unfinished := c.unfinished ++ [s] }

/-- **The first phase**: the keystrokes cut into pieces. -/
def cut (strokes : List (Stroke a)) : Cut a := strokes.foldl Cut.add {}

/-- **The second phase**: what a piece comes to when it is edited on its own. -/
def typed (strokes : List (Stroke a)) : List UInt8 := strokes.foldl Stroke.edit []

/-- A line that ends. An end of input is not kept unless there is nothing else. -/
def ended (a : Attributes) (line : List UInt8) (last : UInt8) : List UInt8 :=
  if a.isChar .eof last then if line.isEmpty then [last] else line else line ++ [last]

/-- **What a finished piece comes to.** -/
def Piece.line (p : Piece a) : List UInt8 := ended a (typed p.strokes) p.last

/-- What all finished pieces come to, one behind the other. -/
def Cut.lines (c : Cut a) : List UInt8 := c.finished.flatMap Piece.line

theorem typed_concat (strokes : List (Stroke a)) (s : Stroke a) :
    typed (strokes ++ [s]) = s.edit (typed strokes) := by
  rw [typed, List.foldl_append]
  rfl

namespace Cut

theorem add_of_none {s : Stroke a} (hs : s.lineEnd? = none) (c : Cut a) :
    c.add s = { c with unfinished := c.unfinished ++ [s] } := by
  rw [add, hs]

theorem add_of_some {s : Stroke a} {last : UInt8} (hs : s.lineEnd? = some last) (c : Cut a) :
    c.add s = { finished := c.finished ++ [⟨c.unfinished, last⟩] } := by
  rw [add, hs]

/-- One more piece that is finished. -/
theorem lines_concat (c : Cut a) (p : Piece a) (unfinished : List (Stroke a)) :
    lines { finished := c.finished ++ [p], unfinished } = c.lines ++ p.line := by
  rw [lines, List.flatMap_append, List.flatMap_singleton]
  rfl

end Cut

end LineEditor

namespace Discipline

open LineEditor

variable {a : Attributes}

/-! ## One keystroke -/

/-- A word is dropped from the right. -/
theorem dropWord_eq (line : List UInt8) :
    dropWord line = (line.rdropWhile (· == 0x20)).rdropWhile (· != 0x20) := by
  rw [dropWord, List.rdropWhile, List.rdropWhile, List.reverse_reverse]

/-- A byte that counts as it is and is not quoted goes to the editor. -/
theorem step_of_lined (h : a.Lined) (line : List UInt8) (b : UInt8) :
    step a { line } b = edit a { line } b := by
  have hstrip : strip a b = b := by rw [strip, h.istrip, if_neg Bool.false_ne_true]
  have hend : lineEnd a false b = (some b, false) := by
    simp [lineEnd, returnsEndLines, h.inormeol, h.icrnl, h.igncr, h.inlcr]
  simp only [step, hstrip, signalOf?_of_not_isig h.isig, ordinary, hend, h.icanon, if_true,
    Bool.false_eq_true, if_false]

/-- A byte that is quoted joins the line. -/
theorem step_of_quoted (h : a.Lined) (line : List UInt8) (b : UInt8) :
    (step a { line, quotes := true } b).1 = { line := line ++ [b] }
      ∧ (step a { line, quotes := true } b).2.input = [] := by
  simp [step, strip, accept, h.istrip, h.icanon]

/-- A byte that quotes the next one does nothing else. -/
theorem step_of_quotes (h : a.Lined) (line : List UInt8) {b : UInt8} (hb : quotes a b = true) :
    (step a { line } b).1 = { line, quotes := true } ∧ (step a { line } b).2.input = [] := by
  unfold quotes at hb
  rw [step_of_lined h, edit, if_pos hb]
  exact ⟨rfl, rfl⟩

section

variable {b last : UInt8}

/-- **A byte that ends no line** edits the line or joins it. -/
theorem step_of_lineEnd?_eq_none (h : a.Lined) (line : List UInt8) {hb : quotes a b = false}
    (hend : (Stroke.plain b hb).lineEnd? = none) :
    (step a { line } b).1 = { line := (Stroke.plain b hb).edit line }
      ∧ (step a { line } b).2.input = [] := by
  rw [Stroke.lineEnd?_plain_eq_none_iff, edits, hb, Bool.false_or, erasesWord] at hend
  have hlnext : (a.flag .iexten && a.isChar .lnext b) = false := hb
  rw [step_of_lined h, edit, hlnext, if_neg Bool.false_ne_true, Stroke.edit_plain, erasesWord]
  split
  · exact ⟨rfl, rfl⟩
  · next herase =>
    split
    · exact ⟨by rw [dropWord_eq], rfl⟩
    · next hword =>
      split
      · exact ⟨rfl, rfl⟩
      · next hkill =>
        -- no editing character, so that it is no line end either
        have hnone : a.isChar .eof b = false ∧ endsLine a b = false := by
          simpa [herase, hword, hkill] using hend
        rw [hnone.1, hnone.2, if_neg Bool.false_ne_true, if_neg Bool.false_ne_true]
        exact ⟨rfl, rfl⟩

/-- **A byte that ends a line** hands it over. -/
theorem step_of_lineEnd?_eq_some (h : a.Lined) (line : List UInt8) {hb : quotes a b = false}
    (hend : (Stroke.plain b hb).lineEnd? = some last) :
    (step a { line } b).1 = {} ∧ (step a { line } b).2.input = ended a line last := by
  obtain ⟨hedits, hends, rfl⟩ := (Stroke.lineEnd?_plain_eq_some_iff hb).1 hend
  simp only [edits, quotes, erasesWord, Bool.or_eq_false_iff] at hedits
  obtain ⟨⟨⟨hquotes, herase⟩, hword⟩, hkill⟩ := hedits
  simp only [step_of_lined h, edit, hquotes, herase, hword, hkill, Bool.false_eq_true, if_false]
  unfold ended
  split
  · exact ⟨rfl, rfl⟩
  · next heof =>
    rw [if_pos (hends.resolve_left heof)]
    exact ⟨rfl, rfl⟩

end

section

variable {s : Stroke a}

/-- **A keystroke that ends no line** edits it. -/
theorem run_bytes_of_none (h : a.Lined) (hend : s.lineEnd? = none) (line : List UInt8) :
    (run a { line } s.bytes).1 = { line := s.edit line }
      ∧ (run a { line } s.bytes).2.input = [] := by
  cases s with
  | plain b hb =>
    obtain ⟨hstate, hinput⟩ := step_of_lineEnd?_eq_none h line hend
    exact ⟨hstate, (List.append_nil _).trans hinput⟩
  | quoted quote b hquotes =>
    obtain ⟨hquote, hnothing⟩ := step_of_quotes h line hquotes
    obtain ⟨hstate, hinput⟩ := step_of_quoted h line b
    rw [Stroke.bytes, run_cons, run_cons, run, hquote]
    refine ⟨hstate, ?_⟩
    show (step a { line } quote).2.input ++ ((step a _ b).2.input ++ []) = []
    rw [hnothing, hinput]
    rfl

/-- **A keystroke that ends the line** hands it over. -/
theorem run_bytes_of_some (h : a.Lined) {last : UInt8} (hend : s.lineEnd? = some last)
    (line : List UInt8) :
    (run a { line } s.bytes).1 = {} ∧ (run a { line } s.bytes).2.input = ended a line last := by
  cases s with
  | plain b hb =>
    obtain ⟨hstate, hinput⟩ := step_of_lineEnd?_eq_some h line hend
    exact ⟨hstate, (List.append_nil _).trans hinput⟩
  | quoted quote b hquotes => cases hend

end

/-! ## Some input -/

/-- **Keystrokes behind those that have been cut**: the line is what the unfinished piece
comes to, and the reader gets what the finished ones come to. -/
theorem run_strokes (h : a.Lined) (strokes : List (Stroke a)) (c : Cut a) :
    let whole := strokes.foldl Cut.add c
    (run a { line := typed c.unfinished } (strokes.flatMap Stroke.bytes)).1
        = { line := typed whole.unfinished }
      ∧ c.lines ++ (run a { line := typed c.unfinished } (strokes.flatMap Stroke.bytes)).2.input
        = whole.lines := by
  induction strokes generalizing c with
  | nil => exact ⟨rfl, List.append_nil _⟩
  | cons s rest ih =>
    have hrest := ih (c.add s)
    rw [List.flatMap_cons, run_append, List.foldl_cons]
    -- the keystroke joins the unfinished piece or finishes it, and the rest goes on from there
    cases hend : s.lineEnd? with
    | none =>
      obtain ⟨hstate, hinput⟩ := run_bytes_of_none h hend (typed c.unfinished)
      rw [Cut.add_of_none hend, typed_concat] at hrest
      rw [hstate, Outcome.input_append, hinput, Cut.add_of_none hend]
      exact hrest
    | some last =>
      obtain ⟨hstate, hinput⟩ := run_bytes_of_some h hend (typed c.unfinished)
      rw [Cut.add_of_some hend, Cut.lines_concat] at hrest
      rw [hstate, Outcome.input_append, hinput, Cut.add_of_some hend, ← List.append_assoc]
      exact hrest

/-- **All input in two phases.** A byte at its end that quotes a byte still to come makes no
difference to the line. -/
theorem run_of_lined (h : a.Lined) (input : List UInt8) :
    (run a {} input).1.line = typed (cut (strokes a input)).unfinished
      ∧ (run a {} input).2.input = (cut (strokes a input)).lines := by
  obtain ⟨tail, hinput, htail⟩ := exists_tail a input
  obtain ⟨hstate, hlines⟩ := run_strokes h (strokes a input) {}
  have hrun : run a {} input = run a {} ((strokes a input).flatMap Stroke.bytes ++ tail) :=
    congrArg (run a {}) hinput
  have hline : (run a {} ((strokes a input).flatMap Stroke.bytes)).1
      = { line := typed (cut (strokes a input)).unfinished } := hstate
  rw [hrun, run_append, Outcome.input_append, hline]
  rcases htail with rfl | ⟨b, hb, rfl⟩
  · exact ⟨rfl, (List.append_nil _).trans hlines⟩
  · obtain ⟨hquoting, hnothing⟩ := step_of_quotes h (typed (cut (strokes a input)).unfinished) hb
    have hlast : (run a { line := typed (cut (strokes a input)).unfinished } [b]).2.input = [] :=
      (List.append_nil _).trans hnothing
    rw [hlast, List.append_nil]
    exact ⟨congrArg State.line hquoting, hlines⟩

/-- **Each line is edited on its own.** Let input come in lines, without signals and with line
ends as they are. From a fresh discipline, in whatever chunks the input comes and whether or
not it can be echoed, the reader gets what the finished pieces of the input come to, each
edited from an empty line, and the line that is being collected is what the unfinished piece
comes to. -/
theorem processAll_lines (h : a.Lined) (queue : Queue) (echo : Option Sink)
    (chunks : List (List UInt8)) :
    let d := processAll a { queue, echo } chunks
    let pieces := cut (strokes a chunks.flatten)
    d.queue.stream = queue.stream ++ queue.admitted (pieces.finished.flatMap Piece.line)
      ∧ d.state.line = typed pieces.unfinished := by
  intro d pieces
  obtain ⟨hline, hinput⟩ := run_of_lined h chunks.flatten
  have hview : d.view = _ := view_processAll h.isig chunks { queue, echo }
  refine ⟨(congrArg View.stream hview).trans ?_, (congrArg (·.state.line) hview).trans hline⟩
  show queue.stream ++ queue.frame.admitted (run a {} chunks.flatten).2.input = _
  rw [hinput]
  rfl

/-- Words and a quoted line feed erased, a line killed, and an end of input on a line that
was erased. -/
theorem processAll_lines_typist :
    let a := Attributes.usual.setFlags [.isig, .icrnl] false
    let chunks : List (List UInt8) :=
      [[0x61, 0x20, 0x62, 0x16], [0x0a, 0x17, 0x0a, 0x63, 0x7f, 0x04], [0x64, 0x15, 0x65, 0x16]]
    let d := processAll a {} chunks
    a.Lined
      ∧ d.queue.stream = [some 0x61, some 0x20, some 0x0a, some 0x04]
      ∧ d.state.line = [0x65] := by
  intro a chunks d
  have h : a.Lined := ⟨rfl, rfl, rfl, rfl, rfl, rfl, rfl⟩
  obtain ⟨hstream, hline⟩ := processAll_lines h {} none chunks
  exact ⟨h, hstream.trans (by decide), hline.trans (by decide)⟩

end Discipline

end Teletype
