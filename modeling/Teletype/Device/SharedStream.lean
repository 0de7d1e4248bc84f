import Teletype.Device.Stream
import Teletype.Pump.Shared

/-!
# A stream terminal among its controllers

A terminal on a stream takes a step when its pump does (`StreamDevice.advance`), and the
pump asks, reads and deals with what it read in one go. Here any number of controllers
may resume and pause the pump in between, each of their calls in its sections
(`SharedPump`). So a thread is somewhere in its round: it has been told to go on and has
not read yet, or it has read and has not dealt with what it read.

A read may be interrupted and bring nothing; then the thread asks again. One that comes
upon the end of the stream is the last of its body. The attributes stay as they are, and
handlers of signals do not touch the terminal: no body calls its own pump.

A history is a list of acts, the latest first.
-/

namespace Teletype

open Device

namespace SharedStream

/-- **How far a thread is with its round.** -/
inductive Hand where
  /-- It is through with one, or has begun none. -/
  | free
  /-- It has been told to go on, and reads. -/
  | cleared
  /-- It has read some bytes, or come upon the end, and not dealt with it. -/
  | full (reading : Option (List UInt8))
  /-- It has dealt with the end. -/
  | over
  deriving DecidableEq

/-- **What may happen next.** -/
inductive Act where
  /-- An act of the pump or of a call to it. -/
  | pump (a : SharedPump.Act)
  /-- The read of a thread is interrupted. -/
  | interrupt (g : Nat)
  /-- A thread reads what has arrived. -/
  | take (g : Nat)
  /-- A thread deals with what it read. -/
  | handle (g : Nat)

end SharedStream

/-- **A stream terminal with the threads of its pump** and the calls under way. -/
structure SharedStream where
  /-- The attributes. -/
  attributes : Attributes := .usual
  /-- The discipline. -/
  discipline : Discipline
  /-- What has arrived and not been taken yet. -/
  incoming : List Arrival := []
  /-- The pump. -/
  pump : SharedPump := {}
  /-- How far each thread is with its round. -/
  hand : Nat → SharedStream.Hand := fun _ => .free
  /-- What the reads have brought so far, in order. -/
  taken : List (Option (List UInt8)) := []
  /-- The signals raised so far, in order. -/
  raised : List Signal := []

namespace SharedStream

/-- The hand of one thread changed. -/
def setHand (s : SharedStream) (g : Nat) (k : Hand) : SharedStream :=
  { s with hand := fun h => if h = g then k else s.hand h }

theorem setHand_hand (s : SharedStream) (g h : Nat) (k : Hand) :
    (s.setHand g k).hand h = if h = g then k else s.hand h := rfl

theorem setHand_setHand (s : SharedStream) (g : Nat) (k r : Hand) :
    (s.setHand g k).setHand g r = s.setHand g r := by
  unfold setHand
  congr
  funext h
  by_cases hne : h = g <;> simp [hne]

theorem setHand_eq_self {s : SharedStream} {g : Nat} {k : Hand} (h : s.hand g = k) :
    s.setHand g k = s := by
  have hhand : (fun h => if h = g then k else s.hand h) = s.hand := by
    funext h'
    by_cases hne : h' = g <;> simp [hne, h]
  unfold setHand
  rw [hhand]

/-- A chunk processed, and its signals raised. What cannot be echoed is not missed. -/
def process (s : SharedStream) (bytes : List UInt8) : SharedStream :=
  let (signals, discipline) := (s.discipline.process s.attributes bytes).1.takeSignals
  { s with discipline, raised := s.raised ++ signals }

/-- The end dealt with. -/
def endOfInput (s : SharedStream) : SharedStream :=
  { s with discipline := s.discipline.endOfInput }

/-- What has arrived taken by a thread. -/
def takenBy (s : SharedStream) (g : Nat) : SharedStream :=
  match takeArrival s.incoming with
  | none => s
  | some (reading, incoming) =>
    { s with incoming, taken := s.taken ++ [reading] }.setHand g (.full reading)

theorem takenBy_of_none {s : SharedStream} (h : takeArrival s.incoming = none) (g : Nat) :
    s.takenBy g = s := by
  unfold takenBy
  rw [h]

theorem takenBy_of_some {s : SharedStream} {reading : Option (List UInt8)}
    {incoming : List Arrival} (h : takeArrival s.incoming = some (reading, incoming)) (g : Nat) :
    s.takenBy g
      = { s with incoming, taken := s.taken ++ [reading] }.setHand g (.full reading) := by
  unfold takenBy
  rw [h]

/-- **A reading dealt with** by a thread. Bytes are processed, and the thread goes on with
its next round; with the end its body is over. -/
def dealt (s : SharedStream) (g : Nat) : Option (List UInt8) → SharedStream
  | some bytes => (s.process bytes).setHand g .free
  | none => s.endOfInput.setHand g .over

/-- What a thread has read dealt with. -/
def handled (s : SharedStream) (g : Nat) : SharedStream :=
  match s.hand g with
  | .full reading => s.dealt g reading
  | _ => s

theorem handled_of_full {s : SharedStream} {g : Nat} {reading : Option (List UInt8)}
    (h : s.hand g = .full reading) : s.handled g = s.dealt g reading := by
  unfold handled
  rw [h]

/-- The hand of a thread that asked whether to go on. -/
def asked (s : SharedStream) : SharedPump.Act → SharedStream
  | .check g => s.setHand g (if s.pump.pump.keepsRunning g then .cleared else .free)
  | _ => s

theorem asked_check_hand (s : SharedStream) (g h : Nat) :
    (s.asked (.check g)).hand h
      = if h = g then (if s.pump.pump.keepsRunning g then .cleared else .free) else s.hand h := rfl

/-- Whether a round is where an act of the pump needs it. A body asks between two
rounds, returns of its own accord when it has dealt with the end, and calls nobody. -/
def Permits (s : SharedStream) : SharedPump.Act → Prop
  | .begin (.body _) _ => False
  | .check g => s.hand g = .free
  | .quit g => s.hand g = .over
  | _ => True

/-- **When an act can be done.** -/
def Enabled (s : SharedStream) : Act → Prop
  | .pump a => s.pump.Enabled a ∧ s.Permits a
  | .interrupt g => s.hand g = .cleared
  | .take g => s.hand g = .cleared ∧ (takeArrival s.incoming).isSome = true
  | .handle g => ∃ reading, s.hand g = .full reading

/-- **What an act does.** -/
def after (s : SharedStream) : Act → SharedStream
  | .pump a => { s.asked a with pump := s.pump.after a }
  | .interrupt g => s.setHand g .free
  | .take g => s.takenBy g
  | .handle g => s.handled g

instance (s : SharedStream) : (a : SharedPump.Act) → Decidable (s.Permits a)
  | .begin (.controller _) _ => inferInstanceAs (Decidable True)
  | .begin (.body _) _ => inferInstanceAs (Decidable False)
  | .check _ => inferInstanceAs (Decidable (_ = _))
  | .quit _ => inferInstanceAs (Decidable (_ = _))
  | .resume _ | .pause _ _ | .take _ | .join _ _ | .release _ | .leave _ | .drop _ =>
    inferInstanceAs (Decidable True)

instance (s : SharedStream) : (a : Act) → Decidable (s.Enabled a)
  | .pump _ => inferInstanceAs (Decidable (_ ∧ _))
  | .interrupt _ => inferInstanceAs (Decidable (_ = _))
  | .take _ => inferInstanceAs (Decidable (_ ∧ _))
  | .handle g =>
    match h : s.hand g with
    | .full reading => isTrue ⟨reading, h⟩
    | .free | .cleared | .over => isFalse fun ⟨_, hfull⟩ => by simp [h] at hfull

/-- Whether nobody has read something without having dealt with it. -/
def Idle (s : SharedStream) : Prop := ∀ g reading, s.hand g ≠ .full reading

/-! ## Histories -/

/-- **The terminal that a history leaves**, from one whose pump has just been made. -/
def play (start : SharedStream) : List Act → SharedStream
  | [] => start
  | a :: earlier => (play start earlier).after a

/-- **Whether a history can be**: each act could be done when it was. -/
def Allowed (start : SharedStream) : List Act → Prop
  | [] => True
  | a :: earlier => Allowed start earlier ∧ (play start earlier).Enabled a

instance (start : SharedStream) : (history : List Act) → Decidable (Allowed start history)
  | [] => inferInstanceAs (Decidable True)
  | a :: earlier =>
    let _ : Decidable (Allowed start earlier) := instDecidableAllowed start earlier
    inferInstanceAs (Decidable (Allowed start earlier ∧ (play start earlier).Enabled a))

/-- A terminal on which some things arrive. -/
def new (attributes : Attributes) (discipline : Discipline) (incoming : List Arrival) :
    SharedStream :=
  { attributes, discipline, incoming }

end SharedStream

end Teletype
