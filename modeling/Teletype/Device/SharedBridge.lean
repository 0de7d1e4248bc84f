import Teletype.Device.Bridge

/-!
# A bridge with its pump and its reader at work

A terminal between streams types what has come in when its pump takes a step
(`BridgeDevice.advanceInput`), and a read looks at what is pending, at the flag and at the
pseudoterminal in one go (`PolledReader.next`). Here the thread of the pump and the reader
are at work at the same time. The thread reads, types what it has read, in as many pieces
as it takes, and reads again. When it has come upon the end of its stream it sets the
flag and is through. The reader looks at what is pending and at the flag. While they leave
the matter open it waits for the pseudoterminal, takes what there is, and looks again.

What has been typed need not be there at once, and a read need not bring all of it: a wait
may be over with nothing to show for it, and how much a read brings is anybody's guess. A
thread that is paused between two rounds is one that takes its time. Nobody closes the
terminal, and the attributes stay as they are.

A history is a list of acts, the latest first.
-/

namespace Teletype

open Device

namespace SharedBridge

/-- **How far the thread of the pump is.** -/
inductive Hand where
  /-- It is about to read. -/
  | free
  /-- It has read some bytes, and these are not typed yet. -/
  | full (bytes : List UInt8)
  /-- It has come upon the end. -/
  | ended
  /-- It has set the flag, and is through. -/
  | over
  deriving DecidableEq

/-- **How far the reader is.** A call may read, or only look ahead. -/
inductive Call where
  /-- Nobody asks. -/
  | idle
  /-- The reader is about to look at what is pending and at the flag. -/
  | asked (peek : Bool)
  /-- It waits for the pseudoterminal. -/
  | waiting (peek : Bool)
  deriving DecidableEq

/-- **What may happen next.** -/
inductive Act where
  /-- The thread reads what has come in. -/
  | take
  /-- The thread types so many of the bytes it has read. -/
  | type (n : Nat)
  /-- The thread sets the flag. -/
  | shut
  /-- Somebody asks for the next byte. -/
  | ask (peek : Bool)
  /-- The reader looks at what is pending and at the flag. -/
  | look
  /-- The reader takes what there is, at most so many bytes. -/
  | fetch (n : Nat)
  /-- The reader has waited in vain, and looks again. -/
  | retry
  /-- The reader has waited long enough. -/
  | expire
  deriving DecidableEq

end SharedBridge

/-- **A bridge whose pump and whose reader are at work.** -/
structure SharedBridge where
  /-- The pseudoterminal. -/
  tty : Tty
  /-- The reader at the near end. -/
  reader : PolledReader := {}
  /-- What has come in and not been read by the thread. -/
  incoming : List Arrival := []
  /-- How far the thread is. -/
  hand : SharedBridge.Hand := .free
  /-- How far the reader is. -/
  call : SharedBridge.Call := .idle
  /-- What the reader was told so far, in order, and whether it was only looking ahead. -/
  heard : List (Bool × Reading) := []

namespace SharedBridge

/-- What has come in read by the thread. -/
def taken (s : SharedBridge) : SharedBridge :=
  match takeArrival s.incoming with
  | none => s
  | some (some bytes, incoming) => { s with incoming, hand := .full bytes }
  | some (none, incoming) => { s with incoming, hand := .ended }

/-- Some of what the thread has read typed. -/
def typed (s : SharedBridge) (n : Nat) : SharedBridge :=
  match s.hand with
  | .full bytes =>
    { s with
      tty := s.tty.write (bytes.take n)
      hand := if (bytes.drop n).isEmpty then .free else .full (bytes.drop n) }
  | _ => s

/-- The flag set. -/
def shut (s : SharedBridge) : SharedBridge :=
  { s with reader := { s.reader with closed := true }, hand := .over }

/-- A call answered. -/
def told (s : SharedBridge) (peek : Bool) (reading : Reading) : SharedBridge :=
  { s with
    reader := s.reader.answered peek, call := .idle, heard := s.heard ++ [(peek, reading)] }

/-- What is pending and the flag looked at. -/
def looked (s : SharedBridge) : SharedBridge :=
  match s.call with
  | .asked peek =>
    match s.reader.glance with
    | some reading => s.told peek reading
    | none => { s with call := .waiting peek }
  | _ => s

/-- Some of what there is taken. If that is nothing, it is the end. -/
def fetched (s : SharedBridge) (n : Nat) : SharedBridge :=
  match s.call with
  | .waiting peek =>
    match s.tty.take n with
    | ([], tty) => { s with tty }.told peek .eof
    | (bytes, tty) => { s with tty, reader := s.reader.fill bytes, call := .asked peek }
  | _ => s

/-- The wait over, with time to look again. -/
def retried (s : SharedBridge) : SharedBridge :=
  match s.call with
  | .waiting peek => { s with call := .asked peek }
  | _ => s

/-- The wait over, with no time left. -/
def expired (s : SharedBridge) : SharedBridge :=
  match s.call with
  | .waiting peek => { s with call := .idle, heard := s.heard ++ [(peek, .expired)] }
  | _ => s

/-- **When an act can be done.** -/
def Enabled (s : SharedBridge) : Act → Prop
  | .take => s.hand = .free ∧ (takeArrival s.incoming).isSome = true
  | .type n => 0 < n ∧ ∃ bytes, s.hand = .full bytes
  | .shut => s.hand = .ended
  | .ask _ => s.call = .idle
  | .look => ∃ peek, s.call = .asked peek
  | .fetch n => (0 < n ∧ n ≤ PolledReader.chunk ∧ s.tty.readable = true)
      ∧ ∃ peek, s.call = .waiting peek
  | .retry | .expire => ∃ peek, s.call = .waiting peek

/-- **What an act does.** -/
def after (s : SharedBridge) : Act → SharedBridge
  | .take => s.taken
  | .type n => s.typed n
  | .shut => s.shut
  | .ask peek => { s with call := .asked peek }
  | .look => s.looked
  | .fetch n => s.fetched n
  | .retry => s.retried
  | .expire => s.expired

instance (s : SharedBridge) : Decidable (∃ bytes, s.hand = .full bytes) :=
  match h : s.hand with
  | .full bytes => isTrue ⟨bytes, rfl⟩
  | .free | .ended | .over => isFalse fun ⟨_, hfull⟩ => by cases hfull

instance (s : SharedBridge) : Decidable (∃ peek, s.call = .asked peek) :=
  match h : s.call with
  | .asked peek => isTrue ⟨peek, rfl⟩
  | .idle | .waiting _ => isFalse fun ⟨_, hasked⟩ => by cases hasked

instance (s : SharedBridge) : Decidable (∃ peek, s.call = .waiting peek) :=
  match h : s.call with
  | .waiting peek => isTrue ⟨peek, rfl⟩
  | .idle | .asked _ => isFalse fun ⟨_, hwaiting⟩ => by cases hwaiting

instance (s : SharedBridge) : (a : Act) → Decidable (s.Enabled a)
  | .take => inferInstanceAs (Decidable (_ ∧ _))
  | .type _ => inferInstanceAs (Decidable (_ ∧ _))
  | .shut => inferInstanceAs (Decidable (_ = _))
  | .ask _ => inferInstanceAs (Decidable (_ = _))
  | .look => inferInstanceAs (Decidable (∃ peek, s.call = .asked peek))
  | .fetch _ => inferInstanceAs (Decidable (_ ∧ ∃ peek, s.call = .waiting peek))
  | .retry => inferInstanceAs (Decidable (∃ peek, s.call = .waiting peek))
  | .expire => inferInstanceAs (Decidable (∃ peek, s.call = .waiting peek))

/-! ## Histories -/

/-- **The bridge that a history leaves.** -/
def play (start : SharedBridge) : List Act → SharedBridge
  | [] => start
  | a :: earlier => (play start earlier).after a

/-- **Whether a history can be**: each act could be done when it was. -/
def Allowed (start : SharedBridge) : List Act → Prop
  | [] => True
  | a :: earlier => Allowed start earlier ∧ (play start earlier).Enabled a

instance (start : SharedBridge) : (history : List Act) → Decidable (Allowed start history)
  | [] => inferInstanceAs (Decidable True)
  | a :: earlier =>
    let _ : Decidable (Allowed start earlier) := instDecidableAllowed start earlier
    inferInstanceAs (Decidable (Allowed start earlier ∧ (play start earlier).Enabled a))

/-- A bridge on which some things come in. -/
def new (tty : Tty) (incoming : List Arrival) : SharedBridge := { tty, incoming }

/-- What comes later goes on from what was left. -/
theorem play_append (start : SharedBridge) (later earlier : List Act) :
    play start (later ++ earlier) = play (play start earlier) later := by
  induction later with
  | nil => rfl
  | cons a later ih => exact congrArg (·.after a) ih

theorem Allowed.append {start : SharedBridge} {later earlier : List Act}
    (h : Allowed start earlier) (hlater : Allowed (play start earlier) later) :
    Allowed start (later ++ earlier) := by
  induction later with
  | nil => exact h
  | cons a later ih => exact ⟨ih hlater.1, (play_append ..).symm ▸ hlater.2⟩

/-! ## What an act comes to -/

section

variable {s : SharedBridge} {peek : Bool} {reading : Reading} {bytes : List UInt8}
  {incoming : List Arrival} {n : Nat}

theorem taken_of_bytes (h : takeArrival s.incoming = some (some bytes, incoming)) :
    s.taken = { s with incoming, hand := .full bytes } := by
  unfold taken
  rw [h]

theorem taken_of_end (h : takeArrival s.incoming = some (none, incoming)) :
    s.taken = { s with incoming, hand := .ended } := by
  unfold taken
  rw [h]

theorem typed_of_full (h : s.hand = .full bytes) (n : Nat) :
    s.typed n = { s with
      tty := s.tty.write (bytes.take n)
      hand := if (bytes.drop n).isEmpty then .free else .full (bytes.drop n) } := by
  unfold typed
  rw [h]

theorem looked_of_some (h : s.call = .asked peek) (hglance : s.reader.glance = some reading) :
    s.looked = s.told peek reading := by
  unfold looked
  rw [h, hglance]

theorem looked_of_none (h : s.call = .asked peek) (hglance : s.reader.glance = none) :
    s.looked = { s with call := .waiting peek } := by
  unfold looked
  rw [h, hglance]

theorem fetched_of_nil (h : s.call = .waiting peek) (htake : (s.tty.take n).1 = []) :
    s.fetched n = { s with tty := (s.tty.take n).2 }.told peek .eof := by
  have hpair : s.tty.take n = ([], (s.tty.take n).2) := Prod.ext htake rfl
  unfold fetched
  rw [h, hpair]

theorem fetched_of_ne_nil (h : s.call = .waiting peek) (htake : (s.tty.take n).1 ≠ []) :
    s.fetched n = { s with
      tty := (s.tty.take n).2
      reader := s.reader.fill (s.tty.take n).1
      call := .asked peek } := by
  obtain ⟨b, bytes, hbytes⟩ := List.exists_cons_of_ne_nil htake
  have hpair : s.tty.take n = (b :: bytes, (s.tty.take n).2) := Prod.ext hbytes rfl
  unfold fetched
  rw [h, hpair]

theorem retried_of_waiting (h : s.call = .waiting peek) :
    s.retried = { s with call := .asked peek } := by
  unfold retried
  rw [h]

theorem expired_of_waiting (h : s.call = .waiting peek) :
    s.expired = { s with call := .idle, heard := s.heard ++ [(peek, .expired)] } := by
  unfold expired
  rw [h]

end

end SharedBridge

end Teletype
