import Teletype.Proofs.Discipline.Chunks

/-!
# The translation of line ends

Outside lines and without signals, all that the discipline does to its input is to strip a
bit and to settle what ends a line. What becomes of a byte then depends on the byte and on
the one in front of it, and on nothing else (`Attributes.translate`). So the input as a
whole has one translation (`Attributes.translation`).

The discipline remembers a single bit, which says whether a line feed that comes next is
dropped. It is set exactly when line ends are settled so that a line feed may be dropped and
the last byte was a carriage return (`Follows`). The bit goes from one chunk to the next like
the rest of the state. So the reader gets the translation of the input, however it was cut
into chunks (`processAll_translation`).
-/

namespace Teletype

namespace Attributes

/-- Whether a line end is one line feed: each carriage return becomes a line feed, and a line
feed right behind it goes. -/
def joinsLineEnds (a : Attributes) : Bool :=
  a.flag .inormeol || (a.flag .icrnl && !a.flag .igncr)

/-- **What becomes of a byte** behind another one, or at the beginning of the input. -/
def translate (a : Attributes) (before : Option UInt8) (b : UInt8) : List UInt8 :=
  if b = carriageReturn then
    if a.joinsLineEnds then [lineFeed] else if a.flag .igncr then [] else [carriageReturn]
  else if b = lineFeed then
    if a.joinsLineEnds ∧ before = some carriageReturn then []
    else if a.flag .inlcr then [carriageReturn] else [lineFeed]
  else [b]

/-- What becomes of some bytes behind another one. -/
def translateFrom (a : Attributes) (before : Option UInt8) (bytes : List UInt8) : List UInt8 :=
  (List.zipWith a.translate (before :: bytes.map some) bytes).flatten

/-- **The translation of the input**: each byte is stripped of its eighth bit if it has to
be, and then translated behind the one in front of it. -/
def translation (a : Attributes) (input : List UInt8) : List UInt8 :=
  a.translateFrom none (input.map fun b => if a.flag .istrip then b &&& 0x7f else b)

theorem translateFrom_cons (a : Attributes) (before : Option UInt8) (b : UInt8)
    (rest : List UInt8) :
    a.translateFrom before (b :: rest) = a.translate before b ++ a.translateFrom (some b) rest :=
  rfl

end Attributes

namespace Discipline

variable {a : Attributes} {s : State}

/-- **A line end is settled** by its translation, and a line feed that comes next is dropped
when a carriage return has become one. -/
theorem lineEnd_eq (a : Attributes) (before : Option UInt8) (b : UInt8) :
    (lineEnd a (a.joinsLineEnds && before == some carriageReturn) b).1.toList = a.translate before b
      ∧ (lineEnd a (a.joinsLineEnds && before == some carriageReturn) b).2
        = (a.joinsLineEnds && some b == some carriageReturn) := by
  have hjoins : returnsEndLines a = a.joinsLineEnds := rfl
  unfold lineEnd Attributes.translate
  rw [hjoins]
  by_cases hreturn : b = carriageReturn
  · subst hreturn
    cases a.joinsLineEnds <;> cases a.flag .igncr <;> simp
  · by_cases hfeed : b = lineFeed
    · subst hfeed
      by_cases hbefore : before = some carriageReturn <;>
        cases a.joinsLineEnds <;> cases a.flag .inlcr <;> simp [hreturn, hbefore]
    · simp [hreturn, hfeed]

/-- Outside lines the reader gets what is left of a byte. -/
theorem ordinary_of_not_icanon (h : a.flag .icanon = false) (s : State) (b : UInt8) :
    (ordinary a s b).1 = { s with skipsLf := (lineEnd a s.skipsLf b).2 }
      ∧ (ordinary a s b).2.input = (lineEnd a s.skipsLf b).1.toList := by
  unfold ordinary accept
  rw [h]
  split
  · next skipsLf hend =>
    rw [hend]
    exact ⟨rfl, rfl⟩
  · next c skipsLf hend =>
    rw [hend]
    exact ⟨rfl, rfl⟩

/-- **What is remembered behind a byte** outside lines: that a line feed is dropped when the
byte was a carriage return and line ends are joined. Nothing is quoted. -/
structure Follows (a : Attributes) (before : Option UInt8) (s : State) : Prop where
  quotes : s.quotes = false
  skipsLf : s.skipsLf = (a.joinsLineEnds && before == some carriageReturn)

/-- At the beginning of the input nothing is remembered. -/
theorem follows_nothing (a : Attributes) : Follows a none {} :=
  ⟨rfl, (Bool.and_false _).symm⟩

namespace Follows

variable {before : Option UInt8}

/-- **One byte outside lines** is translated, and remembered if it has to be. -/
theorem step (hlines : a.flag .icanon = false) (hsignals : a.flag .isig = false)
    (h : Follows a before s) (b : UInt8) :
    Follows a (some (strip a b)) (Discipline.step a s b).1
      ∧ (Discipline.step a s b).2.input = a.translate before (strip a b) := by
  have hstep : Discipline.step a s b = ordinary a s (strip a b) := by
    simp only [Discipline.step, h.quotes, signalOf?_of_not_isig hsignals, Bool.false_eq_true,
      if_false]
  obtain ⟨hstate, hinput⟩ := ordinary_of_not_icanon hlines s (strip a b)
  obtain ⟨hleft, hskips⟩ := lineEnd_eq a before (strip a b)
  rw [h.skipsLf] at hstate hinput
  rw [hstep, hstate, hinput]
  exact ⟨⟨h.quotes, hskips⟩, hleft⟩

/-- **Some bytes outside lines.** -/
theorem input_run (hlines : a.flag .icanon = false) (hsignals : a.flag .isig = false)
    (bytes : List UInt8) (h : Follows a before s) :
    (run a s bytes).2.input = a.translateFrom before (bytes.map (strip a)) := by
  induction bytes generalizing s before with
  | nil => rfl
  | cons b rest ih =>
    obtain ⟨hfollows, hinput⟩ := h.step hlines hsignals b
    rw [run_cons, Outcome.input_append, ih hfollows, List.map_cons, Attributes.translateFrom_cons,
      ← hinput]
    rfl

end Follows

/-- **Outside lines, input is translated as one stream.** Let input come neither in lines nor
with signals. From a fresh discipline, in whatever chunks the input comes and whether or not
it can be echoed, the reader gets its translation. -/
theorem processAll_translation (hlines : a.flag .icanon = false) (hsignals : a.flag .isig = false)
    (queue : Queue) (echo : Option Sink) (chunks : List (List UInt8)) :
    (processAll a { queue, echo } chunks).queue.stream
      = queue.stream ++ queue.admitted (a.translation chunks.flatten) := by
  have hview := view_processAll hsignals chunks { queue, echo }
  refine (congrArg View.stream hview).trans ?_
  show queue.stream ++ queue.frame.admitted (run a {} chunks.flatten).2.input = _
  rw [(follows_nothing a).input_run hlines hsignals]
  rfl

/-- A carriage return at the end of a chunk, a line feed that turns into one when it is
stripped, and a line feed behind it. -/
theorem processAll_translation_stripped :
    let a := Attributes.usual.setFlags [.icanon, .isig] false |>.setFlag .istrip true
      |>.setFlag .inlcr true
    let chunks : List (List UInt8) := [[0x61, 0x0d], [], [0x8a, 0x0a], [0x8d, 0xe2]]
    a.flag .icanon = false ∧ a.flag .isig = false
      ∧ (processAll a {} chunks).queue.stream
        = [some 0x61, some 0x0a, some 0x0d, some 0x0a, some 0x62] := by
  intro a chunks
  refine ⟨rfl, rfl, (processAll_translation rfl rfl {} none chunks).trans ?_⟩
  decide

end Discipline

end Teletype
