import Teletype.Proofs.Discipline.Editing
import Teletype.Proofs.Discipline.Mode

/-!
# What the screen shows of a line

Who types a line sees it by its echo alone. What is typed goes out as it is, and what is erased
is wiped off again: back, blank, back. On a screen this looks right if each character that
leaves the line is wiped off once, whether it goes on its own, with its word or with the whole
line, and if nothing is wiped off that is not there.

A `Row` is where the echo can be seen. It refuses to move left of its start, so that it cannot
hide a character wiped off too many. Each key takes a row that shows the line as it was to one
that shows the line as it is (`putAll?_step`). By induction over the input, **the screen always
shows the line** (`screen_shows_line`).
-/

namespace Teletype

/-- **A row of a screen**, as long as it has to be, with the cursor on it. -/
structure Row where
  /-- What stands in each column. -/
  cells : Nat → UInt8 := fun _ => 0x20
  /-- The column of the cursor. -/
  cursor : Nat := 0

namespace Row

/-- Whether a byte has a shape, the blank included. -/
def isPrintable (b : UInt8) : Bool := 0x20 ≤ b && b ≤ 0x7e

/-- **A byte put on a row.** A backspace moves the cursor left, and a printable byte takes its
place and moves it right. Nothing moves it left of the start, and no other byte can be put. -/
def put? (r : Row) (b : UInt8) : Option Row :=
  if b = 0x08 then if r.cursor = 0 then none else some { r with cursor := r.cursor - 1 }
  else if isPrintable b then
    some { cells := fun i => if i = r.cursor then b else r.cells i, cursor := r.cursor + 1 }
  else none

theorem ne_of_isPrintable {b c : UInt8} (hb : isPrintable b = true) (hc : isPrintable c = false) :
    b ≠ c := by
  rintro rfl
  exact absurd hb (hc ▸ Bool.false_ne_true)

/-- Bytes put on a row one after another. -/
def putAll? (r : Row) (bytes : List UInt8) : Option Row := bytes.foldlM put? r

/-- **The row that shows a text** and nothing else, with the cursor right behind it. -/
def showing (text : List UInt8) : Row where
  cells i := text.getD i 0x20
  cursor := text.length

variable {text kept : List UInt8} {b : UInt8}

theorem putAll?_append (r : Row) (xs ys : List UInt8) :
    r.putAll? (xs ++ ys) = (r.putAll? xs).bind (·.putAll? ys) := List.foldlM_append

/-- One character more in front of the cursor. -/
theorem getD_concat (text : List UInt8) (b : UInt8) (i : Nat) :
    (text ++ [b]).getD i 0x20 = if i = text.length then b else text.getD i 0x20 := by
  simp only [List.getD_eq_getElem?_getD, List.getElem?_append]
  rcases Nat.lt_trichotomy i text.length with hlt | rfl | hgt
  · rw [if_pos hlt, if_neg (Nat.ne_of_lt hlt)]
  · simp
  · have hbehind : ([b] : List UInt8)[i - text.length]? = none :=
      List.getElem?_eq_none (Nat.sub_pos_of_lt hgt)
    rw [if_neg (Nat.lt_asymm hgt), if_neg (Nat.ne_of_gt hgt), hbehind,
      List.getElem?_eq_none (Nat.le_of_lt hgt)]

/-- A printable byte is shown behind the text. -/
theorem put?_showing (h : isPrintable b = true) (text : List UInt8) :
    (showing text).put? b = some (showing (text ++ [b])) := by
  rw [put?, if_neg (ne_of_isPrintable h (by decide)), if_pos h]
  simp only [showing, getD_concat, List.length_append, List.length_singleton]
  rfl

/-- **A character wiped off** the end of the text. -/
theorem putAll?_wipe (text : List UInt8) (b : UInt8) :
    (showing (text ++ [b])).putAll? Discipline.wipe = some (showing text) := by
  have hblank : text.getD text.length 0x20 = 0x20 := by
    rw [List.getD_eq_getElem?_getD, List.getElem?_eq_none (Nat.le_refl _)]
    rfl
  have hcells : (fun i => if i = text.length then 0x20 else (text ++ [b]).getD i 0x20)
      = (showing text).cells := by
    funext i
    rw [getD_concat]
    split
    · next hi => rw [hi]; exact hblank.symm
    · rfl
  have hback : (showing (text ++ [b])).put? 0x08
      = some { cells := (showing (text ++ [b])).cells, cursor := text.length } := by
    simp [put?, showing]
  rw [Discipline.wipe, putAll?, List.foldlM_cons, hback]
  show some (Row.mk (fun i => if i = text.length then 0x20 else (text ++ [b]).getD i 0x20)
    (text.length + 1 - 1)) = _
  rw [hcells]
  rfl

/-- **As many characters wiped off as there were** leave what was kept. -/
theorem putAll?_wipes (h : kept <+: text) :
    (showing text).putAll? (List.replicate (text.length - kept.length) Discipline.wipe).flatten
      = some (showing kept) := by
  obtain ⟨gone, rfl⟩ := h
  rw [List.length_append, Nat.add_sub_cancel_left]
  induction gone using List.reverseRecOn with
  | nil => rw [List.append_nil]; rfl
  | append_singleton gone b ih =>
    rw [List.length_append, List.length_singleton, List.replicate_succ, List.flatten_cons,
      putAll?_append, ← List.append_assoc, putAll?_wipe, Option.bind_some, ih]

end Row

namespace Attributes

/-- The slots of the keys for erasing. -/
def erasers : List ControlChar := [.erase, .werase, .kill]

/-- **Attributes under which lines are echoed** with all that is erased wiped off, and with keys
for erasing that are told from everything else. -/
structure Visual (a : Attributes) : Prop where
  icanon : a.flag .icanon = true
  echo : a.flag .echo = true
  echoe : a.flag .echoe = true
  echoke : a.flag .echoke = true
  istrip : a.flag .istrip = false
  /-- The keys for erasing are no line ends, -/
  ne_return : ∀ c ∈ erasers, a.char c ≠ some carriageReturn
  ne_feed : ∀ c ∈ erasers, a.char c ≠ some lineFeed
  /-- and they have no other meaning. -/
  apart : ∀ c ∈ erasers, a.char c ≠ none → ∀ d ≠ c, d.isCount = false → a.char d ≠ a.char c

variable {a : Attributes} {b : UInt8} {c d : ControlChar}

theorem isChar_iff : a.isChar c b = true ↔ c.isCount = false ∧ a.char c = some b := by
  simp [isChar]

theorem Visual.isChar_eq_false (h : a.Visual) (hc : c ∈ erasers) (hb : a.isChar c b = true)
    (hd : d ≠ c) : a.isChar d b = false := by
  have hchar : a.char c = some b := (isChar_iff.1 hb).2
  refine Bool.of_not_eq_true fun hother => ?_
  obtain ⟨hcount, hsame⟩ := isChar_iff.1 hother
  exact h.apart c hc (hchar ▸ Option.some_ne_none b) d hd hcount (hsame.trans hchar.symm)

end Attributes

namespace Discipline

/-- **A key that types or erases.** -/
inductive Key (a : Attributes) (b : UInt8) : Prop
  /-- A character is erased. -/
  | erase (h : a.isChar .erase b = true)
  /-- A word is erased. -/
  | werase (hextended : a.flag .iexten = true) (h : a.isChar .werase b = true)
  /-- The line is erased. -/
  | kill (h : a.isChar .kill b = true)
  /-- A printable byte is typed that is no control character. -/
  | typed (hprintable : Row.isPrintable b = true) (h : ∀ c, a.isChar c b = false)

section

variable {a : Attributes} {s : State} {b : UInt8} {kept : List UInt8}

theorem signalOf?_of_forall (h : ∀ p ∈ signalChars, a.isChar p.1 b = false) :
    signalOf? a b = none := by
  have hfind : (signalChars.find? fun p => a.isChar p.1 b) = none := by
    simpa [List.find?_eq_none] using h
  rw [signalOf?, hfind]
  split <;> rfl

/-- **A key goes to the editor.** -/
theorem step_of_key (h : a.Visual) (hkey : Key a b) (hquotes : s.quotes = false) :
    step a s b = edit a { s with skipsLf := false } b := by
  have hstrip : strip a b = b := by rw [strip, h.istrip, if_neg Bool.false_ne_true]
  have herases : ∀ c ∈ Attributes.erasers, a.isChar c b = true →
      (∀ p ∈ signalChars, a.isChar p.1 b = false) ∧ b ≠ carriageReturn ∧ b ≠ lineFeed := by
    intro c hc hb
    have hchars : ∀ c ∈ Attributes.erasers, ∀ p ∈ signalChars, p.1 ≠ c := by decide
    have hchar : a.char c = some b := (Attributes.isChar_iff.1 hb).2
    refine ⟨fun p hp => h.isChar_eq_false hc hb (hchars c hc p hp), ?_, ?_⟩
    · rintro rfl
      exact h.ne_return c hc hchar
    · rintro rfl
      exact h.ne_feed c hc hchar
  have hplain : (∀ p ∈ signalChars, a.isChar p.1 b = false)
      ∧ b ≠ carriageReturn ∧ b ≠ lineFeed := by
    cases hkey with
    | erase hb => exact herases .erase (by decide) hb
    | werase _ hb => exact herases .werase (by decide) hb
    | kill hb => exact herases .kill (by decide) hb
    | typed hprintable hb =>
      exact ⟨fun p _ => hb p.1, Row.ne_of_isPrintable hprintable (by decide),
        Row.ne_of_isPrintable hprintable (by decide)⟩
  obtain ⟨hsignal, hreturn, hfeed⟩ := hplain
  have hend : lineEnd a s.skipsLf b = (some b, false) := by simp [lineEnd, hreturn, hfeed]
  simp only [step, hstrip, hquotes, signalOf?_of_forall hsignal, ordinary, hend, h.icanon,
    Bool.false_eq_true, if_false, if_true]

/-- **What is echoed for what is erased** wipes it off. -/
theorem putAll?_erasure (h : a.Visual) {line : List UInt8} (hkept : kept <+: line) :
    (Row.showing line).putAll? (erasure a (line.length - kept.length))
      = some (Row.showing kept) := by
  rw [erasure, h.echo, h.echoe, Bool.and_self, if_pos rfl]
  exact Row.putAll?_wipes hkept

theorem dropWord_prefix_self (line : List UInt8) : dropWord line <+: line := by
  rw [dropWord_eq]
  exact (List.rdropWhile_prefix _ _).trans (List.rdropWhile_prefix _ _)

/-- A printable byte is echoed as it is. -/
theorem echoed_of_isPrintable (hb : Row.isPrintable b = true) : echoed a b = [b] := by
  have hne : ∀ c : UInt8, Row.isPrintable c = false → b ≠ c := fun _ => Row.ne_of_isPrintable hb
  have hcontrol : isControl b = false := by
    have hlow : ¬ b < 0x20 := by
      simp only [Row.isPrintable, Bool.and_eq_true, decide_eq_true_eq] at hb
      exact UInt8.not_lt.2 hb.1
    simp [isControl, hlow, hne 0x7f rfl]
  have hout : a.outputByte b = [b] := by
    simp [Attributes.outputByte, hne lineFeed rfl, hne carriageReturn rfl]
  rw [echoed, hcontrol, Bool.and_false, Bool.false_and, if_neg Bool.false_ne_true, hout]

/-! ## One key -/

/-- **Each key changes the line and nothing else**, and what is echoed for it changes a row that
showed the line alike. -/
theorem edit_of_key (h : a.Visual) (hkey : Key a b) (s : State) :
    ∃ line echo, edit a s b = ({ s with line }, { echo })
      ∧ (Row.showing s.line).putAll? echo = some (Row.showing line) := by
  cases hkey with
  | erase hb =>
    have hlnext := h.isChar_eq_false (c := .erase) (d := .lnext) (by decide) hb (by decide)
    exact ⟨_, _, by simp [edit, hlnext, hb],
      putAll?_erasure h (List.dropLast_prefix s.line)⟩
  | werase hextended hb =>
    have hlnext := h.isChar_eq_false (c := .werase) (d := .lnext) (by decide) hb (by decide)
    have herase := h.isChar_eq_false (c := .werase) (d := .erase) (by decide) hb (by decide)
    exact ⟨_, _, by simp [edit, hlnext, herase, hb, hextended],
      putAll?_erasure h (dropWord_prefix_self s.line)⟩
  | kill hb =>
    have hlnext := h.isChar_eq_false (c := .kill) (d := .lnext) (by decide) hb (by decide)
    have herase := h.isChar_eq_false (c := .kill) (d := .erase) (by decide) hb (by decide)
    have hwerase := h.isChar_eq_false (c := .kill) (d := .werase) (by decide) hb (by decide)
    refine ⟨[], echoIf a (killEcho a s.line.length b),
      by simp [edit, hlnext, herase, hwerase, hb], ?_⟩
    rw [echoIf, h.echo, if_pos rfl, killEcho, h.echoke, if_pos rfl]
    exact Row.putAll?_wipes List.nil_prefix
  | typed hprintable hb =>
    have hplain : a.Plain b := ⟨Row.ne_of_isPrintable hprintable (by decide),
      Row.ne_of_isPrintable hprintable (by decide), hb⟩
    refine ⟨s.line ++ [b], [b], ?_, ?_⟩
    · rw [edit_of_plain hplain h.icanon, accept, h.icanon, if_pos rfl, echoIf, h.echo, if_pos rfl,
        echoed_of_isPrintable hprintable]
    · rw [Row.putAll?, List.foldlM_cons, Row.put?_showing hprintable]
      rfl

/-- **One key**: a row that showed the line shows it again. -/
theorem putAll?_step (h : a.Visual) (hkey : Key a b) (hquotes : s.quotes = false) :
    (step a s b).1.quotes = false
      ∧ (Row.showing s.line).putAll? (step a s b).2.echo
        = some (Row.showing (step a s b).1.line) := by
  obtain ⟨line, echo, hedit, hshows⟩ := edit_of_key h hkey { s with skipsLf := false }
  rw [step_of_key h hkey hquotes, hedit]
  exact ⟨hquotes, hshows⟩

/-! ## All input -/

/-- **Some keys.** -/
theorem putAll?_run (h : a.Visual) (bytes : List UInt8) (hkeys : ∀ b ∈ bytes, Key a b)
    (hquotes : s.quotes = false) :
    (Row.showing s.line).putAll? (run a s bytes).2.echo
      = some (Row.showing (run a s bytes).1.line) := by
  induction bytes generalizing s with
  | nil => rfl
  | cons b rest ih =>
    obtain ⟨hkey, hrest⟩ := List.forall_mem_cons.1 hkeys
    obtain ⟨hquotes', hshows⟩ := putAll?_step h hkey hquotes
    rw [run_cons, Outcome.echo_append, Row.putAll?_append]
    show ((Row.showing s.line).putAll? (step a s b).2.echo).bind _ = _
    rw [hshows]
    exact ih hrest hquotes'

/-- **The screen shows the line.** Let lines be echoed with all that is erased wiped off, and let
only such bytes come in as are typed or erase. From a fresh discipline, whose echo goes where
nothing is refused, and in whatever chunks the input comes, the echo put on an empty row
leaves there the line that is being collected and nothing else, and the cursor right behind
it. It never moved left of the start. -/
theorem screen_shows_line (h : a.Visual) (queue : Queue) (sink : Sink)
    (htakes : ∀ n total, sink.refuses n total = false) (chunks : List (List UInt8))
    (hkeys : ∀ b ∈ chunks.flatten, Key a b) :
    let d := processAll a { queue, echo := some sink } chunks
    ∃ echo, d.echoed? = some (sink.taken ++ echo)
      ∧ Row.putAll? {} echo = some (Row.showing d.state.line) := by
  intro d
  have hnever : NeverRefuses { queue, echo := some sink } := by
    rintro s ⟨⟩
    exact htakes
  have hscene : d.scene = _ := hnever.scene_processAll chunks
  have hline : d.state = (run a {} chunks.flatten).1 := congrArg (·.view.state) hscene
  refine ⟨(run a {} chunks.flatten).2.echo, congrArg Scene.echo hscene, ?_⟩
  rw [hline]
  exact putAll?_run (s := {}) h chunks.flatten hkeys rfl

/-- Two words of which the second is erased and typed anew, on a line that was killed before, with
more erased than there was. -/
theorem screen_shows_line_retyped :
    let a := Attributes.usual
    let chunks : List (List UInt8) :=
      [[0x61, 0x7f, 0x7f, 0x62, 0x15], [0x61, 0x20, 0x62, 0x17], [0x61]]
    let d := processAll a { echo := some Sink.endless } chunks
    a.Visual ∧ (∀ b ∈ chunks.flatten, Key a b) ∧ d.state.line = [0x61, 0x20, 0x61]
      ∧ ∃ echo, d.echoed? = some echo ∧ Row.putAll? {} echo = some (Row.showing d.state.line) := by
  intro a chunks d
  have h : a.Visual :=
    ⟨rfl, rfl, rfl, rfl, rfl, by decide, by decide, by
      have hall : ∀ c ∈ Attributes.erasers, a.char c ≠ none →
          ∀ d ∈ ControlChar.all, d ≠ c → d.isCount = false → a.char d ≠ a.char c := by decide
      exact fun c hc hset d hd hcount => hall c hc hset d d.mem_all hd hcount⟩
  have hfirst : Key a 0x61 := .typed rfl fun c => by cases c <;> rfl
  have hsecond : Key a 0x62 := .typed rfl fun c => by cases c <;> rfl
  have hblank : Key a 0x20 := .typed rfl fun c => by cases c <;> rfl
  have hkeys : ∀ b ∈ chunks.flatten, Key a b := by
    simp only [chunks, List.flatten_cons, List.flatten_nil, List.cons_append, List.nil_append,
      List.forall_mem_cons, List.not_mem_nil, false_imp_iff, forall_const, and_true]
    exact ⟨hfirst, .erase rfl, .erase rfl, hsecond, .kill rfl, hfirst, hblank, hsecond,
      .werase rfl rfl, hfirst⟩
  exact ⟨h, hkeys, by decide,
    screen_shows_line h {} Sink.endless (fun _ _ => rfl) chunks hkeys⟩

end

end Discipline

end Teletype
