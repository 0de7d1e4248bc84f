import Teletype.Proofs.Discipline.Translation

/-!
# Signals among the input

A byte that stands in a slot for signals is one, unless it is quoted. Whether it is depends on
all that came in before: a byte quotes the next one if it is not quoted itself, is no signal,
and has become the character for quoting once line ends are settled. `standing` follows this
through the input, and with it whether a line feed is dropped. It knows nothing of lines,
of editing and of echo, and yet it is all that has to be known to tell the signals
(`signals_run`).

A signal does nothing else. It leaves what is remembered as it is, but for one thing: a line
feed behind it is not dropped. So it can be taken out of the input, and nothing of the queue
and of the line shows that it was there, unless a line feed behind it is dropped then
(`reading_without`). One would expect that to take a carriage return right in front. But a
byte that is quoted leaves alone what is remembered of the one before. So a line feed is
dropped also behind a byte that was quoted by a carriage return, which there is when the
character for quoting is the line feed (`dropsFeed_iff`).
-/

namespace Teletype

namespace Attributes

/-- **The signal of a byte**: that of the first slot it stands in. -/
def signalChar? (a : Attributes) (b : UInt8) : Option Signal :=
  if a.isChar .intr b then some .int
  else if a.isChar .quit b then some .quit
  else if a.isChar .susp b then some .tstp
  else if a.isChar .status b then some .info
  else none

/-! ## How a byte stands -/

/-- **How a byte stands** behind those in front of it. -/
structure Standing where
  /-- Whether it is quoted. -/
  quoted : Bool := false
  /-- Whether it is dropped if it is a line feed. -/
  dropsFeed : Bool := false

/-- Whether a byte quotes the next one, which takes lines and quoting: it becomes the character
for quoting. -/
def quotesNext (a : Attributes) (p : Standing) (b : UInt8) : Bool :=
  a.flag .icanon && a.flag .iexten
    && (a.translate (if p.dropsFeed then some carriageReturn else none) b).any (a.isChar .lnext)

/-- **How the next byte stands.** A quoted byte makes no difference to it, and a signal makes it
stand as at the beginning. -/
def Standing.next (a : Attributes) (p : Standing) (b : UInt8) : Standing :=
  if p.quoted then { p with quoted := false }
  else if (a.signalChar? b).isSome then {}
  else { quoted := a.quotesNext p b, dropsFeed := a.joinsLineEnds && b == carriageReturn }

/-- **How a byte stands behind some bytes.** -/
def standing (a : Attributes) (before : List UInt8) : Standing :=
  before.foldl (Standing.next a) {}

/-- The signals among some bytes: one for each that is not quoted and stands in a slot for
signals. -/
def signalsFrom (a : Attributes) (p : Standing) : List UInt8 → List Signal
  | [] => []
  | b :: rest =>
    (if p.quoted then none else a.signalChar? b).toList ++ a.signalsFrom (p.next a b) rest

/-- **The signals among the input.** -/
def signalsAmong (a : Attributes) (input : List UInt8) : List Signal := a.signalsFrom {} input

/-- **Bytes that end in a carriage return that became a line feed.** -/
def EndsInReturn (a : Attributes) (before : List UInt8) : Prop :=
  ∃ earlier, before = earlier ++ [carriageReturn] ∧ (a.standing earlier).quoted = false
    ∧ a.signalChar? carriageReturn = none ∧ a.joinsLineEnds = true

/-- **Bytes behind which a line feed is dropped**: they end in a carriage return that became one,
or in a byte that such a carriage return quotes. -/
def DropsFeed (a : Attributes) (before : List UInt8) : Prop :=
  a.EndsInReturn before
    ∨ ∃ earlier b, before = earlier ++ [b] ∧ (a.standing earlier).quoted = true
      ∧ a.EndsInReturn earlier

variable {a : Attributes} {before : List UInt8}

theorem standing_concat (a : Attributes) (before : List UInt8) (b : UInt8) :
    a.standing (before ++ [b]) = (a.standing before).next a b := by
  rw [standing, List.foldl_append]
  rfl

/-- Behind a byte that is not quoted, it is the byte that decides, -/
theorem dropsFeed_concat_of_not_quoted {b : UInt8} (h : (a.standing before).quoted = false) :
    (a.standing (before ++ [b])).dropsFeed = true ↔ a.EndsInReturn (before ++ [b]) := by
  rw [standing_concat, Standing.next, h, if_neg Bool.false_ne_true]
  constructor
  · intro hdrops
    split at hdrops
    · exact absurd hdrops Bool.false_ne_true
    · next hsignal =>
      rw [Bool.and_eq_true, beq_iff_eq] at hdrops
      obtain ⟨hjoins, rfl⟩ := hdrops
      exact ⟨before, rfl, h, Option.not_isSome_iff_eq_none.1 hsignal, hjoins⟩
  · rintro ⟨earlier, heq, -, hsignal, hjoins⟩
    obtain ⟨rfl, hb⟩ := List.append_inj' heq rfl
    cases hb
    rw [hsignal, hjoins]
    rfl

/-- and behind one that is quoted, the byte that quotes it. -/
theorem dropsFeed_concat_of_quoted {b : UInt8} (h : (a.standing before).quoted = true) :
    (a.standing (before ++ [b])).dropsFeed = true ↔ a.EndsInReturn before := by
  have hkept : (a.standing (before ++ [b])).dropsFeed = (a.standing before).dropsFeed := by
    rw [standing_concat, Standing.next, if_pos h]
  rw [hkept]
  rcases before.eq_nil_or_concat with rfl | ⟨earlier, quote, rfl⟩
  · exact absurd h Bool.false_ne_true
  · rw [List.concat_eq_append] at h ⊢
    -- what quotes another byte is not quoted itself
    refine dropsFeed_concat_of_not_quoted (Bool.of_not_eq_true fun hquoted => ?_)
    rw [standing_concat, Standing.next, if_pos hquoted] at h
    exact Bool.false_ne_true h

/-- **Where a line feed is dropped.** -/
theorem dropsFeed_iff : (a.standing before).dropsFeed = true ↔ a.DropsFeed before := by
  rcases before.eq_nil_or_concat with rfl | ⟨earlier, b, rfl⟩
  · refine iff_of_false Bool.false_ne_true ?_
    rintro (⟨earlier, heq, -⟩ | ⟨earlier, b, heq, -⟩) <;>
      exact List.append_ne_nil_of_right_ne_nil earlier (List.cons_ne_nil _ _) heq.symm
  · rw [List.concat_eq_append]
    cases hquoted : (a.standing earlier).quoted with
    | false =>
      rw [dropsFeed_concat_of_not_quoted hquoted]
      refine ⟨.inl, fun h => h.resolve_right ?_⟩
      rintro ⟨_, _, heq, hother, -⟩
      rw [← (List.append_inj' heq rfl).1, hquoted] at hother
      exact Bool.false_ne_true hother
    | true =>
      rw [dropsFeed_concat_of_quoted hquoted]
      refine ⟨fun h => .inr ⟨earlier, b, rfl, hquoted, h⟩, fun h => ?_⟩
      rcases h with ⟨_, heq, hother, -⟩ | ⟨_, _, heq, -, hreturn⟩
      · rw [← (List.append_inj' heq rfl).1, hquoted] at hother
        exact absurd hother.symm Bool.false_ne_true
      · rwa [(List.append_inj' heq rfl).1]

end Attributes

namespace Discipline

variable {a : Attributes} {s : State}

/-! ## What is remembered -/

/-- A byte that is taken as it is makes no difference to what is remembered. -/
theorem memory_accept (a : Attributes) (s : State) (b : UInt8) :
    (accept a s b).1.skipsLf = s.skipsLf ∧ (accept a s b).1.quotes = s.quotes := by
  unfold accept
  split <;> exact ⟨rfl, rfl⟩

/-- Editing remembers a byte that quotes the next one. -/
theorem memory_edit (a : Attributes) (s : State) (b : UInt8) :
    (edit a s b).1.skipsLf = s.skipsLf
      ∧ (edit a s b).1.quotes = (s.quotes || (a.flag .iexten && a.isChar .lnext b)) := by
  unfold edit
  split
  · next hquotes => exact ⟨rfl, by rw [hquotes, Bool.or_true]⟩
  · next hquotes =>
    rw [Bool.of_not_eq_true hquotes, Bool.or_false]
    repeat' split
    all_goals exact ⟨rfl, rfl⟩

theorem memory_ordinary (a : Attributes) (b : UInt8) (h : s.quotes = false) :
    (ordinary a s b).1.skipsLf = (lineEnd a s.skipsLf b).2
      ∧ (ordinary a s b).1.quotes
        = (a.flag .icanon && a.flag .iexten
            && (lineEnd a s.skipsLf b).1.toList.any (a.isChar .lnext)) := by
  unfold ordinary
  split
  · next skipsLf hend =>
    rw [hend]
    exact ⟨rfl, by simpa using h⟩
  · next c skipsLf hend =>
    rw [hend]
    split
    · next hlines =>
      have hmemory := memory_edit a { s with skipsLf } c
      refine ⟨hmemory.1, hmemory.2.trans ?_⟩
      simp [h, hlines]
    · next hlines =>
      have hmemory := memory_accept a { s with skipsLf } c
      refine ⟨hmemory.1, hmemory.2.trans ?_⟩
      simp [h, hlines]

theorem signalOf?_eq_signalChar? (h : a.flag .isig = true) : signalOf? a = a.signalChar? := by
  funext b
  simp only [signalOf?, h, if_true, signalChars, Attributes.signalChar?, List.find?_cons,
    List.find?_nil]
  repeat' split
  all_goals simp_all

/-- **What is remembered is how the next byte stands.** -/
structure Remembers (a : Attributes) (p : Attributes.Standing) (s : State) : Prop where
  quotes : s.quotes = p.quoted
  skipsLf : s.skipsLf = p.dropsFeed
  joins : p.dropsFeed = true → a.joinsLineEnds = true

namespace Remembers

variable {p : Attributes.Standing}

theorem lineEnd (h : Remembers a p s) (b : UInt8) :
    let before := if p.dropsFeed then some carriageReturn else none
    (Discipline.lineEnd a s.skipsLf b).1.toList = a.translate before b
      ∧ (Discipline.lineEnd a s.skipsLf b).2 = (a.joinsLineEnds && b == carriageReturn) := by
  intro before
  have hskips : s.skipsLf = (a.joinsLineEnds && before == some carriageReturn) := by
    rw [h.skipsLf]
    cases hdrops : p.dropsFeed with
    | false => simp [before, hdrops]
    | true => simp [before, hdrops, h.joins hdrops]
  rw [hskips]
  exact lineEnd_eq a before b

/-- **One byte.** -/
theorem step (h : Remembers a p s) (hsignals : a.flag .isig = true) (byte : UInt8) :
    Remembers a (p.next a (strip a byte)) (Discipline.step a s byte).1
      ∧ (Discipline.step a s byte).2.signal
        = if p.quoted then none else a.signalChar? (strip a byte) := by
  unfold Discipline.step Attributes.Standing.next
  rw [h.quotes, signalOf?_eq_signalChar? hsignals]
  cases hquoted : p.quoted with
  | true =>
    obtain ⟨hskips, hquotes⟩ := memory_accept a { s with quotes := false } (strip a byte)
    exact ⟨⟨hquotes, hskips.trans h.skipsLf, h.joins⟩, signal_accept ..⟩
  | false =>
    simp only [Bool.false_eq_true, if_false]
    cases hsignal : a.signalChar? (strip a byte) with
    | some signal => exact ⟨⟨rfl, rfl, nofun⟩, rfl⟩
    | none =>
      obtain ⟨hskips, hquotes⟩ := memory_ordinary a (strip a byte) (h.quotes.trans hquoted)
      obtain ⟨hleft, hnext⟩ := h.lineEnd (strip a byte)
      rw [hleft] at hquotes
      rw [hnext] at hskips
      exact ⟨⟨hquotes, hskips, fun hdrops => (Bool.and_eq_true_iff.1 hdrops).1⟩,
        signal_ordinary ..⟩

/-- **Some bytes**, and the signals among them. -/
theorem run (h : Remembers a p s) (hsignals : a.flag .isig = true) (bytes : List UInt8) :
    Remembers a ((bytes.map (strip a)).foldl (Attributes.Standing.next a) p)
        (Discipline.run a s bytes).1
      ∧ (Discipline.run a s bytes).2.signals = a.signalsFrom p (bytes.map (strip a)) := by
  induction bytes generalizing s p with
  | nil => exact ⟨h, rfl⟩
  | cons b rest ih =>
    obtain ⟨hnext, hsignal⟩ := h.step hsignals b
    obtain ⟨hrest, hamong⟩ := ih hnext
    rw [run_cons, Outcome.signals_append, hamong, List.map_cons, Attributes.signalsFrom, ← hsignal]
    exact ⟨hrest, rfl⟩

end Remembers

/-- At the beginning of the input nothing is remembered. -/
theorem remembers_nothing (a : Attributes) : Remembers a {} {} :=
  ⟨rfl, rfl, nofun⟩

/-- **What is remembered of some input** is how the next byte stands behind it. -/
theorem remembers_standing (hsignals : a.flag .isig = true) (before : List UInt8) :
    Remembers a (a.standing (before.map (strip a))) (run a {} before).1 :=
  ((remembers_nothing a).run hsignals before).1

/-- **The signals of some input** are those among its bytes. -/
theorem signals_run (hsignals : a.flag .isig = true) (input : List UInt8) :
    (run a {} input).2.signals = a.signalsAmong (input.map (strip a)) :=
  ((remembers_nothing a).run hsignals input).2

/-! ## A signal taken out -/

/-- **What comes of some bytes** for those who read: the bytes for the reader, and the line behind
them. -/
def reading (a : Attributes) (s : State) (bytes : List UInt8) : List UInt8 × List UInt8 :=
  ((run a s bytes).2.input, (run a s bytes).1.line)

theorem reading_append (a : Attributes) (s : State) (xs ys : List UInt8) :
    reading a s (xs ++ ys)
      = ((run a s xs).2.input ++ (reading a (run a s xs).1 ys).1,
          (reading a (run a s xs).1 ys).2) := by
  rw [reading, run_append]
  rfl

section

variable {p : Attributes.Standing} {signal : Signal} {b feed : UInt8} {bytes : List UInt8}

/-- **Behind a signal** the rest is read as if nothing were remembered but the line. -/
theorem reading_signal (h : Remembers a p s) (hsignals : a.flag .isig = true)
    (hquoted : p.quoted = false) (hb : a.signalChar? (strip a b) = some signal)
    (bytes : List UInt8) :
    reading a s (b :: bytes) = reading a { line := s.line } bytes := by
  have hstep : step a s b = ({ line := s.line },
      { echo := echoIf a (Text.caretBytes (strip a b)), signal := some signal }) := by
    simp [step, h.quotes, hquoted, signalOf?_eq_signalChar? hsignals, hb]
  rw [reading, run_cons, hstep]
  rfl

/-- **A line feed that is dropped** does the same. -/
theorem reading_droppedFeed (h : Remembers a p s) (hquoted : p.quoted = false)
    (hdrops : p.dropsFeed = true) (hfeed : strip a feed = lineFeed) (bytes : List UInt8) :
    reading a s (feed :: bytes) = reading a { line := s.line } bytes := by
  have hend : lineEnd a true lineFeed = (none, false) := rfl
  have hstep : (step a s feed).1 = { line := s.line } ∧ (step a s feed).2.input = [] := by
    simp only [step, h.quotes, hquoted, hfeed, Bool.false_eq_true, if_false]
    split
    · exact ⟨rfl, rfl⟩
    · simp [ordinary, h.skipsLf, hdrops, hend, h.quotes, hquoted]
  rw [reading, run_cons, hstep.1]
  show ((step a s feed).2.input ++ _, _) = _
  rw [hstep.2]
  rfl

/-- **Any other byte** is read as if nothing were remembered but the line. -/
theorem step_forgetting (h : Remembers a p s) (hquoted : p.quoted = false)
    (hb : p.dropsFeed = false ∨ strip a b ≠ lineFeed) :
    step a { line := s.line } b = step a s b := by
  have hquotes : s.quotes = false := h.quotes.trans hquoted
  cases hdrops : p.dropsFeed with
  | false =>
    have hs : s = { line := s.line } := State.ext (h.skipsLf.trans hdrops) hquotes rfl
    rw [← hs]
  | true =>
    have hfeed : strip a b ≠ lineFeed := hb.resolve_left (by rw [hdrops]; decide)
    have hreturns : returnsEndLines a = true := h.joins hdrops
    have hend : lineEnd a s.skipsLf (strip a b) = lineEnd a false (strip a b) := by
      simp [lineEnd, hreturns, hfeed]
    have hordinary : ordinary a { line := s.line } (strip a b) = ordinary a s (strip a b) := by
      rw [ordinary, ordinary, hend, hquotes]
    simp only [step, hquotes, hordinary, Bool.false_eq_true, if_false]

theorem reading_forgetting (h : Remembers a p s) (hquoted : p.quoted = false)
    (hbytes : ¬ (p.dropsFeed = true ∧ (bytes.map (strip a)).head? = some lineFeed)) :
    reading a { line := s.line } bytes = reading a s bytes := by
  cases bytes with
  | nil => rfl
  | cons b rest =>
    have hb : p.dropsFeed = false ∨ strip a b ≠ lineFeed := by
      simpa [Decidable.imp_iff_not_or] using hbytes
    rw [reading, reading, run_cons, run_cons, step_forgetting h hquoted hb]

end

section

variable {before after rest : List UInt8} {signal : Signal} {b feed : UInt8}

/-- **A signal among the input leaves no trace** in what is read, unless a line feed right behind
it is dropped without it. -/
theorem reading_without (hsignals : a.flag .isig = true)
    (hquoted : (a.standing (before.map (strip a))).quoted = false)
    (hb : a.signalChar? (strip a b) = some signal)
    (hafter : ¬ (a.DropsFeed (before.map (strip a))
      ∧ (after.map (strip a)).head? = some lineFeed)) :
    reading a {} (before ++ after) = reading a {} (before ++ b :: after) := by
  have h := remembers_standing hsignals before
  rw [← Attributes.dropsFeed_iff] at hafter
  rw [reading_append, reading_append, reading_signal h hsignals hquoted hb,
    reading_forgetting h hquoted hafter]

/-- Then it goes when the signal does. -/
theorem reading_without_of_dropsFeed (hsignals : a.flag .isig = true)
    (hquoted : (a.standing (before.map (strip a))).quoted = false)
    (hb : a.signalChar? (strip a b) = some signal)
    (hdrops : a.DropsFeed (before.map (strip a))) (hfeed : strip a feed = lineFeed) :
    reading a {} (before ++ feed :: rest) = reading a {} (before ++ b :: rest) := by
  have h := remembers_standing hsignals before
  rw [reading_append, reading_append, reading_signal h hsignals hquoted hb,
    reading_droppedFeed h hquoted (Attributes.dropsFeed_iff.2 hdrops) hfeed]

/-- Behind a signal a line feed is not dropped. -/
theorem skipsLf_behind_signal (hsignals : a.flag .isig = true)
    (hquoted : (a.standing (before.map (strip a))).quoted = false)
    (hb : a.signalChar? (strip a b) = some signal) :
    (run a {} (before ++ [b])).1.skipsLf = false := by
  rw [(remembers_standing hsignals (before ++ [b])).skipsLf, List.map_append]
  show (a.standing (before.map (strip a) ++ [strip a b])).dropsFeed = false
  rw [Attributes.standing_concat, Attributes.Standing.next, if_neg (by rw [hquoted]; decide), hb]
  rfl

end

/-- **The same to those who read**: the queue holds the same, and so does the line. -/
def ReadsAlike (d e : Discipline) : Prop :=
  d.queue.stream = e.queue.stream ∧ d.state.line = e.state.line

/-- **Where echo never fails, what is read of chunks** is what is read of the bytes in them. -/
theorem readsAlike_of_reading {queue : Queue} {echo : Option Sink}
    (hecho : NeverRefuses { queue, echo }) {xs ys : List (List UInt8)}
    (h : reading a {} xs.flatten = reading a {} ys.flatten) :
    ReadsAlike (processAll a { queue, echo } xs) (processAll a { queue, echo } ys) := by
  have hxs := hecho.scene_processAll (a := a) xs
  have hys := hecho.scene_processAll (a := a) ys
  obtain ⟨hinput, hline⟩ := Prod.ext_iff.1 h
  constructor
  · refine (congrArg (·.view.stream) hxs).trans (Eq.trans ?_ (congrArg (·.view.stream) hys).symm)
    exact congrArg (queue.stream ++ queue.frame.admitted ·) hinput
  · exact (congrArg (·.view.state.line) hxs).trans
      (hline.trans (congrArg (·.view.state.line) hys).symm)

/-- **Signals are recorded, and nothing else comes of them.** Let signals be switched on. From a
fresh discipline whose echo never fails, and in whatever chunks the input comes, the signals
recorded are those among the input. Take a byte out that is one of them, and the rest reads
the same, unless a line feed right behind it is dropped without it. The discipline does not
drop that line feed behind the signal; without the signal it reads the rest as if there
were none. -/
theorem signals_and_nothing_else (a : Attributes) (hsignals : a.flag .isig = true) (queue : Queue)
    (echo : Option Sink) (hecho : NeverRefuses { queue, echo }) (chunks : List (List UInt8)) :
    let processed := processAll a { queue, echo }
    (processed chunks).pending = a.signalsAmong (chunks.flatten.map (strip a))
      ∧ ∀ before b after, chunks.flatten = before ++ b :: after →
        (a.standing (before.map (strip a))).quoted = false →
        a.signalChar? (strip a b) ≠ none →
        ∀ without : List (List UInt8), without.flatten = before ++ after →
          (¬ (a.DropsFeed (before.map (strip a)) ∧ (after.map (strip a)).head? = some lineFeed) →
            ReadsAlike (processed without) (processed chunks))
          ∧ (a.DropsFeed (before.map (strip a)) →
            ∀ feed rest, after = feed :: rest → strip a feed = lineFeed →
              (processed [before ++ [b]]).state.skipsLf = false
                ∧ ReadsAlike (processed without) (processed [before ++ b :: rest])) := by
  intro processed
  constructor
  · have hscene := hecho.scene_processAll (a := a) chunks
    refine (congrArg (·.view.pending) hscene).trans ?_
    exact (List.nil_append _).trans (signals_run hsignals chunks.flatten)
  · intro before b after hchunks hquoted hb without hwithout
    obtain ⟨signal, hb⟩ := Option.ne_none_iff_exists'.1 hb
    constructor
    · intro hafter
      refine readsAlike_of_reading hecho ?_
      rw [hwithout, hchunks, reading_without hsignals hquoted hb hafter]
    · rintro hdrops feed rest rfl hfeed
      constructor
      · have hscene := hecho.scene_processAll (a := a) [before ++ [b]]
        refine (congrArg (·.view.state.skipsLf) hscene).trans ?_
        rw [List.flatten_singleton]
        exact skipsLf_behind_signal hsignals hquoted hb
      · refine readsAlike_of_reading hecho ?_
        rw [hwithout, List.flatten_singleton,
          reading_without_of_dropsFeed hsignals hquoted hb hdrops hfeed]

/-- A signal between a carriage return and a line feed taken out, and one behind a signal that is
quoted and so is none. -/
theorem signals_and_nothing_else_quoted :
    let a := Attributes.usual
    let processed := processAll a {}
    let chunks : List (List UInt8) := [[0x61, 0x0d], [0x03], [0x0a, 0x16, 0x03, 0x1c, 0x62]]
    a.flag .isig = true ∧ NeverRefuses {} ∧ (processed chunks).pending = [.int, .quit]
      ∧ ReadsAlike (processed [[0x61, 0x0d], [0x0a, 0x16, 0x03, 0x1c, 0x62]])
          (processed [[0x61, 0x0d] ++ 0x03 :: [0x16, 0x03, 0x1c, 0x62]])
      ∧ ReadsAlike (processed [[0x61, 0x0d], [0x03], [0x0a, 0x16, 0x03, 0x62]])
          (processed chunks) := by
  intro a processed chunks
  have hecho : NeverRefuses {} := by
    rintro s ⟨⟩
  obtain ⟨hpending, hwithout⟩ := signals_and_nothing_else a rfl {} none hecho chunks
  have hdrops : a.DropsFeed [0x61, 0x0d] := .inl ⟨[0x61], rfl, rfl, rfl, rfl⟩
  have hint := (hwithout [0x61, 0x0d] 0x03 [0x0a, 0x16, 0x03, 0x1c, 0x62] rfl (by decide)
    (by decide) [[0x61, 0x0d], [0x0a, 0x16, 0x03, 0x1c, 0x62]] rfl).2 hdrops
    0x0a [0x16, 0x03, 0x1c, 0x62] rfl rfl
  have hquit := (hwithout [0x61, 0x0d, 0x03, 0x0a, 0x16, 0x03] 0x1c [0x62] rfl (by decide)
    (by decide) [[0x61, 0x0d], [0x03], [0x0a, 0x16, 0x03, 0x62]] rfl).1
    fun h => absurd h.2 (by decide)
  exact ⟨rfl, hecho, hpending.trans (by decide), hint.2, hquit⟩

/-- A signal that is not right behind a carriage return matters to the line feed behind it, when
the carriage return has become the character for quoting and quotes the byte in between. -/
theorem feed_dropped_behind_quoted :
    ¬ ∀ (a : Attributes) (before after : List UInt8) (b : UInt8), a.flag .isig = true →
      (a.standing (before.map (strip a))).quoted = false → a.signalChar? (strip a b) ≠ none →
      ¬ (a.EndsInReturn (before.map (strip a)) ∧ (after.map (strip a)).head? = some lineFeed) →
      ReadsAlike (processAll a {} [before ++ after]) (processAll a {} [before ++ b :: after]) := by
  intro hall
  let a := Attributes.usual.setChar .lnext (some lineFeed)
  have hreturn : ¬ a.EndsInReturn ([0x0d, 0x78].map (strip a)) := by
    rintro ⟨earlier, heq, -⟩
    have hends : [strip a 0x0d] ++ [strip a 0x78] = earlier ++ [carriageReturn] := heq
    exact absurd (List.append_inj_right' hends rfl) (by decide)
  have halike := hall a [0x0d, 0x78] [0x0a, 0x7f] 0x03 rfl (by decide) (by decide)
    fun h => hreturn h.1
  exact absurd halike.2 (by decide)

end Discipline

end Teletype
