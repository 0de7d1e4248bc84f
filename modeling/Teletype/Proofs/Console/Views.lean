import Teletype.Proofs.Console.InputMode

/-!
# The views of a console's mode

How a console is used is written down in four places: the attributes, the tracking by which
mouse records are let through, the tracking that the terminal knows of, and the mode of the
console itself. They should agree. What is asked for is written down before the console has
granted it, and stays there when it does not, so that after a refusal they disagree.

A ledger tells what became of it. It is kept by someone who sees no more than the calls and
whether they succeeded, and remembers what was asked for last and what was granted last. Each
view shows one of its entries, whatever calls were made and whatever was refused
(`Terminal.play_views`). So **the views agree exactly when the ledger is settled**, and a
refused call leaves them as they were only if it asked for nothing new
(`Terminal.play_agree_iff`).
-/

namespace Teletype

/-- **The four views** of how a console is used. -/
@[ext] structure ConsoleViews where
  /-- The attributes, and the tracking by which mouse records are let through. -/
  wish : ConsoleWish
  /-- The tracking that the terminal knows of. -/
  tracking : Tracking
  /-- The input mode of the console. -/
  mode : UInt32

namespace ConsoleViews

/-- **Whether the views agree**, on a console that had some input mode at first. -/
def Agree (v : ConsoleViews) (original : UInt32) : Prop :=
  v.mode = Console.modeFor v.wish.attributes v.tracking original ∧ v.tracking = v.wish.tracking

instance (v : ConsoleViews) (original : UInt32) : Decidable (v.Agree original) :=
  inferInstanceAs (Decidable (_ ∧ _))

end ConsoleViews

/-- **A ledger of mode calls.** -/
structure ModeLedger where
  /-- What was asked for last. -/
  asked : ConsoleWish
  /-- What was granted last. -/
  granted : ConsoleWish
  /-- The tracking of the last call for tracking that was granted. -/
  tracked : Tracking

namespace ModeLedger

variable {l : ModeLedger} {original : UInt32}

/-- The ledger to begin with. -/
def start (w : ConsoleWish) : ModeLedger := ⟨w, w, w.tracking⟩

/-- **A call entered**, by whether it succeeded. A call that goes nowhere is not entered. -/
def enter (l : ModeLedger) (c : ModeCall) (succeeded : Bool) : ModeLedger :=
  if c.tries l.asked then
    { asked := c.ask l.asked
      granted := if succeeded then c.ask l.asked else l.granted
      tracked := if succeeded then c.tracked l.tracked else l.tracked }
  else l

/-- The views that a ledger tells of. -/
def views (l : ModeLedger) (original : UInt32) : ConsoleViews :=
  ⟨l.asked, l.tracked, l.granted.mode original⟩

/-- **Whether a ledger is settled**: the mode asked for last was granted last, and so was the
tracking. -/
def Settled (l : ModeLedger) (original : UInt32) : Prop :=
  l.granted.mode original = l.asked.mode original ∧ l.tracked = l.asked.tracking

/-- What was asked for last does not depend on what was granted. -/
theorem asked_enter (l : ModeLedger) (c : ModeCall) (succeeded : Bool) :
    (l.enter c succeeded).asked = c.ask l.asked := by
  unfold enter
  split
  · rfl
  · next htries => exact (c.ask_of_tries_eq_false (eq_false_of_ne_true htries)).symm

/-- **Whether everything asked for was granted.** -/
def Clear (l : ModeLedger) : Prop := l.granted = l.asked ∧ l.tracked = l.asked.tracking

theorem Clear.settled (h : l.Clear) : l.Settled original := ⟨by rw [h.1], h.2⟩

/-- A call that succeeds keeps a ledger clear. -/
theorem Clear.enter (h : l.Clear) (c : ModeCall) : (l.enter c true).Clear := by
  unfold ModeLedger.enter
  split
  · refine ⟨rfl, ?_⟩
    show c.tracked l.tracked = (c.ask l.asked).tracking
    rw [h.2]
    cases c <;> rfl
  · exact h

theorem agree_iff_settled : (l.views original).Agree original ↔ l.Settled original := by
  constructor
  · rintro ⟨hmode, htracking⟩
    exact ⟨by rw [show l.granted.mode original = _ from hmode, htracking]; rfl, htracking⟩
  · rintro ⟨hmode, htracking⟩
    refine ⟨?_, htracking⟩
    show l.granted.mode original = Console.modeFor l.asked.attributes l.tracked original
    rw [hmode, htracking]
    rfl

end ModeLedger

namespace Terminal

variable {t : Terminal ConsoleDevice} {l : ModeLedger} {original : UInt32} {c : ModeCall}

/-- The views that a terminal gives. -/
def views (t : Terminal ConsoleDevice) : ConsoleViews :=
  ⟨t.wish, t.tracking, t.device.console.modes.input⟩

/-- Whether a call succeeds. -/
def succeeds (t : Terminal ConsoleDevice) (c : ModeCall) : Bool := (c.run.runOn t).1.isOk

/-- The terminal after a call. -/
def after (t : Terminal ConsoleDevice) (c : ModeCall) : Terminal ConsoleDevice := (c.run.runOn t).2

/-- **The terminal after some calls**, whatever became of them. -/
def play (t : Terminal ConsoleDevice) (cs : List ModeCall) : Terminal ConsoleDevice :=
  cs.foldl after t

/-- **The ledger of some calls**, kept from some ledger on. -/
def ledger (t : Terminal ConsoleDevice) (l : ModeLedger) : List ModeCall → ModeLedger
  | [] => l
  | c :: cs => (t.after c).ledger (l.enter c (t.succeeds c)) cs

/-- **A ledger that holds of a terminal**: the terminal is open, and its views are told. -/
structure Books (original : UInt32) (l : ModeLedger) (t : Terminal ConsoleDevice) : Prop where
  /-- The terminal is open. -/
  opened : t.closed = false
  /-- The mode that there was at first is remembered. -/
  initial : t.device.initial.input = original
  /-- The views are those of the ledger. -/
  views : t.views = l.views original

/-! ## One call -/

theorem succeeds_eq (h : t.closed = false) (c : ModeCall) :
    t.succeeds c = !(c.tries t.wish && t.device.console.refuses) := by
  rw [succeeds, runOn_run h, Console.answer]
  cases c.tries t.wish <;> cases t.device.console.refuses <;> rfl

theorem after_eq (h : t.closed = false) (c : ModeCall) :
    t.after c = if c.tries t.wish then t.tried c else t := by
  rw [after, runOn_run h]
  split <;> rfl

/-- **What a call that goes to the console makes of the views.** -/
theorem views_tried (t : Terminal ConsoleDevice) (c : ModeCall) :
    (t.tried c).views =
      if t.device.console.refuses then { t.views with wish := c.ask t.wish }
      else ⟨c.ask t.wish, c.tracked t.tracking, (c.ask t.wish).mode t.device.initial.input⟩ := by
  have hmode : (t.tried c).views.mode = if t.device.console.refuses then t.views.mode
      else (c.ask t.wish).mode t.device.initial.input := by
    show (if t.device.console.refuses then t.device.console.modes else _).input = _
    cases t.device.console.refuses <;> rfl
  refine ConsoleViews.ext ?_ ?_ ?_
  · split <;> rfl
  · show (if t.device.console.refuses then t.tracking else c.tracked t.tracking) = _
    split <;> rfl
  · rw [hmode]
    split <;> rfl

/-- **One call is entered right.** -/
theorem Books.enter (h : t.Books original l) (c : ModeCall) :
    (t.after c).Books original (l.enter c (t.succeeds c)) := by
  obtain ⟨hopened, rfl, hviews⟩ := h
  have hwish : t.wish = l.asked := congrArg ConsoleViews.wish hviews
  have htracking : t.tracking = l.tracked := congrArg ConsoleViews.tracking hviews
  rw [after_eq hopened, succeeds_eq hopened, ModeLedger.enter, hwish]
  cases htries : c.tries l.asked with
  | false => exact ⟨hopened, rfl, hviews⟩
  | true =>
    refine ⟨hopened, rfl, ?_⟩
    show (t.tried c).views = _
    rw [views_tried, hviews, hwish, htracking]
    cases t.device.console.refuses <;> rfl

/-! ## All calls -/

theorem Books.play (h : t.Books original l) (cs : List ModeCall) :
    (t.play cs).Books original (t.ledger l cs) := by
  induction cs generalizing t l with
  | nil => exact h
  | cons c cs ih => exact ih (h.enter c)

/-- **The books are right when a terminal has been opened.** -/
theorem books_of_openConsole {programs : Programs} {config : Config} {registry : Registry Unit}
    {name : String} {sink : Sink} {console left : Console}
    (h : (openConsole programs config registry name sink).runOn console = (.ok t, left)) :
    t.Books console.modes.input (.start (.ofMode console.modes.input)) := by
  obtain ⟨hopened, htracking, hprepared⟩ := opened_of_openConsole h
  refine ⟨hopened, hprepared.initial, ConsoleViews.ext ?_ htracking hprepared.mode⟩
  exact ConsoleWish.ext hprepared.attributes hprepared.tracking

/-- **A call that fails** leaves the views as they were if it asks for nothing new, and only
then. -/
theorem Books.after_views_eq_iff (h : t.Books original l) (hfails : t.succeeds c = false) :
    (t.after c).views = t.views ↔ c.ask l.asked = l.asked := by
  rw [succeeds_eq h.opened, Bool.not_eq_false', Bool.and_eq_true] at hfails
  have hwish : t.wish = l.asked := congrArg ConsoleViews.wish h.views
  rw [after_eq h.opened, if_pos hfails.1, views_tried, if_pos hfails.2, ← hwish]
  exact ⟨congrArg ConsoleViews.wish, fun hask => ConsoleViews.ext hask rfl rfl⟩

theorem asked_ledger (l : ModeLedger) (cs : List ModeCall) :
    (t.ledger l cs).asked = cs.foldl (fun w c => c.ask w) l.asked := by
  induction cs generalizing t l with
  | nil => rfl
  | cons c cs ih => rw [ledger, ih, ModeLedger.asked_enter, List.foldl_cons]

/-- If every call succeeds, the ledger stays clear. -/
theorem clear_ledger (h : l.Clear) (cs : List ModeCall)
    (hsucceed : ∀ before c after, cs = before ++ c :: after → (t.play before).succeeds c = true) :
    (t.ledger l cs).Clear := by
  induction cs generalizing t l with
  | nil => exact h
  | cons c cs ih =>
    have hfirst : t.succeeds c = true := hsucceed [] c cs rfl
    rw [ledger, hfirst]
    refine ih (h.enter c) fun before d after hcs => ?_
    exact hsucceed (c :: before) d after (congrArg (c :: ·) hcs)

section Opened

variable {programs : Programs} {config : Config} {registry : Registry Unit} {name : String}
  {sink : Sink} {console left : Console}

/-- **What each view shows** after any calls: attributes and filter what was asked for last,
the mode what was granted last, and the terminal the tracking that was granted last. -/
theorem play_views
    (h : (openConsole programs config registry name sink).runOn console = (.ok t, left))
    (cs : List ModeCall) :
    (t.play cs).views
      = (t.ledger (.start (.ofMode console.modes.input)) cs).views console.modes.input :=
  ((books_of_openConsole h).play cs).views

/-- **What is stored is what was asked for**, whatever was refused. -/
theorem wish_play
    (h : (openConsole programs config registry name sink).runOn console = (.ok t, left))
    (cs : List ModeCall) :
    (t.play cs).wish = cs.foldl (fun w c => c.ask w) (.ofMode console.modes.input) :=
  (congrArg ConsoleViews.wish (play_views h cs)).trans (asked_ledger _ cs)

/-- **As long as nothing is refused, the views agree.** -/
theorem agree_play_of_succeeds
    (h : (openConsole programs config registry name sink).runOn console = (.ok t, left))
    (cs : List ModeCall)
    (hsucceed : ∀ before c after, cs = before ++ c :: after → (t.play before).succeeds c = true) :
    (t.play cs).views.Agree console.modes.input := by
  have hclear := clear_ledger (l := .start (.ofMode console.modes.input)) ⟨rfl, rfl⟩ cs hsucceed
  rw [play_views h, ModeLedger.agree_iff_settled]
  exact hclear.settled

/-- **When the views agree**: after any calls, exactly if the ledger of them is settled. A call
that fails leaves all of them as they were exactly if it asks for nothing new. -/
theorem play_agree_iff
    (h : (openConsole programs config registry name sink).runOn console = (.ok t, left))
    (cs : List ModeCall) :
    let l := t.ledger (.start (.ofMode console.modes.input)) cs
    ((t.play cs).views.Agree console.modes.input ↔ l.Settled console.modes.input) ∧
      ∀ c, (t.play cs).succeeds c = false →
        (((t.play cs).after c).views = (t.play cs).views ↔ c.ask l.asked = l.asked) := by
  intro l
  have hbooks := (books_of_openConsole h).play cs
  refine ⟨?_, fun c hfails => hbooks.after_views_eq_iff hfails⟩
  rw [hbooks.views]
  exact ModeLedger.agree_iff_settled

end Opened

/-- A console that refuses the first change of its input mode after it was opened. -/
def refusing : Console :=
  { modes := ⟨0xe7, 3, 437⟩
    size := ⟨120, 30⟩
    cursor := ⟨7, 3⟩
    fails := fun n operation => n == 5 && operation == .setInputMode }

theorem openConsole_refusing : ∃ t left,
    (openConsole .none { type := "ansi" } {} "console" .endless).runOn refusing = (.ok t, left) ∧
      t.succeeds .enterRawMode = false :=
  ⟨_, _, rfl, rfl⟩

/-- Raw mode is refused, and the mouse is tracked afterwards. -/
theorem play_agree_iff_refusing : ∃ t left,
    (openConsole .none { type := "ansi" } {} "console" .endless).runOn refusing = (.ok t, left) ∧
      ((t.play [.enterRawMode, .trackMouse .normal]).views.Agree refusing.modes.input ↔
        (t.ledger (.start (.ofMode refusing.modes.input))
          [.enterRawMode, .trackMouse .normal]).Settled refusing.modes.input) ∧
      t.succeeds .enterRawMode = false ∧
      ((t.after .enterRawMode).views = t.views ↔
        ModeCall.enterRawMode.ask (.ofMode refusing.modes.input)
          = .ofMode refusing.modes.input) := by
  obtain ⟨t, left, hopen, hfails⟩ := openConsole_refusing
  exact ⟨t, left, hopen, (play_agree_iff hopen _).1, hfails, (play_agree_iff hopen []).2 _ hfails⟩

/-- **Views that disagree.** Raw mode is refused; the attributes are raw from then on, and the
console still gives lines. -/
theorem play_disagrees : ∃ t left,
    (openConsole .none { type := "ansi" } {} "console" .endless).runOn refusing = (.ok t, left) ∧
      t.succeeds .enterRawMode = false ∧ (t.after .enterRawMode).views ≠ t.views ∧
      ¬ (t.play [.enterRawMode]).views.Agree refusing.modes.input := by
  obtain ⟨t, left, hopen, hfails⟩ := openConsole_refusing
  have hbooks := books_of_openConsole hopen
  refine ⟨t, left, hopen, hfails, fun h => ?_, fun h => ?_⟩
  · rw [hbooks.after_views_eq_iff hfails] at h
    have hlines := congrArg (fun w : ConsoleWish => w.attributes.flag .icanon) h
    exact absurd hlines (by decide)
  · rw [(hbooks.play _).views, ModeLedger.agree_iff_settled, ledger, hfails, ledger] at h
    exact absurd h.1 (by decide)

end Terminal

end Teletype
