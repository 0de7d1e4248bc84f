import Teletype.Proofs.Bridge.Delivery
import Teletype.Proofs.Pump.Sequential

/-!
# Steps with nothing in between

A bridge that takes steps is one of those whose pump and reader are at work: a step of its
pump (`BridgeDevice.advanceInput`) is a round of the thread that nothing comes in between,
and a read (`BridgeDevice.read`) is a call that goes on to its answer. So **each of them is
a piece of a history**, with the same pseudoterminal, the same reader and the same answer
behind it (`Mirrors.advanceInput`, `Mirrors.read`), and what no history loses is not lost
by the steps.
-/

namespace Teletype

namespace SequentialPump

/-- **When a body returns**, none is under way any more. -/
theorem Reached.running_finish {q : SequentialPump} (h : q.Reached) : q.finish.running = false := by
  obtain ⟨history, hallowed, hm⟩ := h.mirrored
  have hjoining : q.pump.joining = false := hm.pump ▸ hm.free
  unfold SequentialPump.finish
  cases hthread : q.pump.thread with
  | none => simp [running, Pump.running, hthread, hjoining]
  | some g =>
    have hheld : (SharedPump.play history).pump.thread = some g := hm.pump ▸ hthread
    have hlatest : g = q.pump.generation :=
      hm.pump ▸ hallowed.consistent.latest g (hallowed.consistent.held g hheld).1
    simp [running, Pump.running, Pump.finish, hlatest, hjoining]

end SequentialPump

namespace SharedBridge

open Device

/-- **A bridge between two steps** is like one that takes them: it is connected to the same
things, its thread is about to read while a body is under way, and nobody asks. -/
structure Mirrors (s : SharedBridge) (d : BridgeDevice) : Prop where
  /-- The pseudoterminal is the same. -/
  tty : s.tty = d.tty
  /-- So is the reader. -/
  reader : s.reader = d.reader
  /-- And what has come in. -/
  incoming : s.incoming = d.incoming
  /-- The pump has come about by calls to it. -/
  pump : d.inputPump.Reached
  /-- Its body goes on with a round. -/
  hand : d.inputPump.running = true → s.hand = .free
  /-- Nobody asks. -/
  call : s.call = .idle

section

variable {s : SharedBridge} {d d' : BridgeDevice} {reading : Reading} {peek : Bool}

/-! ## The pump -/

/-- **What a step of the pump takes, and what it makes of it.** -/
theorem advanceInput_cases (h : d.advanceInput = some d') :
    d.inputPump.running = true ∧ ∃ incoming,
      (∃ bytes, takeArrival d.incoming = some (some bytes, incoming)
        ∧ d' = { d with incoming, tty := d.tty.write bytes })
      ∨ (takeArrival d.incoming = some (none, incoming)
        ∧ d' = { d with
            incoming, reader := { d.reader with closed := true },
            inputPump := d.inputPump.finish }) := by
  unfold BridgeDevice.advanceInput at h
  split at h
  · cases h
  · next hrunning =>
    refine ⟨by simpa using hrunning, ?_⟩
    split at h
    · cases h
    · next bytes incoming htake =>
      exact ⟨incoming, .inl ⟨bytes, htake, (Option.some.inj h).symm⟩⟩
    · next incoming htake =>
      exact ⟨incoming, .inr ⟨htake, (Option.some.inj h).symm⟩⟩

/-- **A step of the pump is a round of the thread.** -/
theorem Mirrors.advanceInput (hm : Mirrors s d) (hadvance : d.advanceInput = some d') :
    ∃ acts, Allowed s acts ∧ Mirrors (play s acts) d' ∧ (play s acts).heard = s.heard := by
  obtain ⟨hrunning, incoming, hcases⟩ := advanceInput_cases hadvance
  have hfree := hm.hand hrunning
  rw [← hm.incoming] at hcases
  rcases hcases with ⟨bytes, htake, rfl⟩ | ⟨htake, rfl⟩
  · obtain ⟨hallowed, hplay⟩ := round hfree htake
    refine ⟨_, hallowed, ?_, by rw [hplay]⟩
    rw [hplay]
    exact ⟨congrArg (·.write bytes) hm.tty, hm.reader, rfl, hm.pump, fun _ => hfree, hm.call⟩
  · obtain ⟨hallowed, hplay⟩ := lastRound hfree htake
    refine ⟨_, hallowed, ?_, by rw [hplay]⟩
    rw [hplay]
    refine ⟨hm.tty, ?_, rfl, hm.pump.finish, fun hfinish => ?_, hm.call⟩
    · exact congrArg (fun r : PolledReader => { r with closed := true }) hm.reader
    · exact absurd (hm.pump.running_finish.symm.trans hfinish) (by simp)

/-! ## The reader -/

/-- What a read in one go finds, and what it leaves. -/
def readAtOnce (s : SharedBridge) (peek : Bool) : SharedBridge :=
  { s with
    tty := (s.reader.next s.tty peek).2.2
    reader := (s.reader.next s.tty peek).2.1
    call := .idle
    heard := s.heard ++ [(peek, (s.reader.next s.tty peek).1)] }

/-- **A wait goes on to an answer.** -/
theorem exists_answer (hcall : s.call = .waiting peek) (hglance : s.reader.glance = none) :
    ∃ acts, Allowed s acts ∧ play s acts = s.readAtOnce peek := by
  cases hreadable : PolledSource.readable s.tty with
  | false =>
    refine ⟨[.expire], ⟨trivial, peek, hcall⟩, ?_⟩
    rw [readAtOnce, PolledReader.next_of_not_readable hglance hreadable]
    exact expired_of_waiting hcall
  | true =>
    have hfetch : Allowed s [.fetch PolledReader.chunk] :=
      ⟨trivial, ⟨by decide, Nat.le_refl _, hreadable⟩, peek, hcall⟩
    by_cases htake : (s.tty.take PolledReader.chunk).1 = []
    · have hpending : s.reader.pending = [] := (PolledReader.glance_eq_none_iff.1 hglance).1
      refine ⟨_, hfetch, ?_⟩
      rw [readAtOnce, PolledReader.next_of_take_eq_nil hglance hreadable htake]
      refine (fetched_of_nil hcall htake).trans ?_
      rw [told, PolledReader.answered_of_pending hpending]
      rfl
    · obtain ⟨reading, hfilled, hnext⟩ :=
        PolledReader.next_of_take_ne_nil hglance hreadable htake peek
      let filled : SharedBridge := { s with
        tty := (s.tty.take PolledReader.chunk).2
        reader := s.reader.fill (s.tty.take PolledReader.chunk).1
        call := .asked peek }
      have hfetched : play s [.fetch PolledReader.chunk] = filled := fetched_of_ne_nil hcall htake
      refine ⟨[.look, .fetch PolledReader.chunk], ⟨hfetch, ?_⟩, ?_⟩
      · rw [hfetched]
        exact ⟨peek, rfl⟩
      · rw [play, hfetched, readAtOnce, hnext]
        exact looked_of_some (s := filled) rfl hfilled

/-- **So does a call**, if the first look does not settle it. -/
theorem exists_call (hidle : s.call = .idle) (peek : Bool) :
    ∃ acts, Allowed s acts ∧ play s acts = s.readAtOnce peek := by
  have hlook : Allowed s [.look, .ask peek] := ⟨⟨trivial, hidle⟩, peek, rfl⟩
  cases hglance : s.reader.glance with
  | some reading =>
    refine ⟨_, hlook, ?_⟩
    rw [readAtOnce, PolledReader.next_of_glance hglance]
    exact looked_of_some (s := { s with call := .asked peek }) rfl hglance
  | none =>
    let waiting : SharedBridge := { s with call := .waiting peek }
    have hplay : play s [.look, .ask peek] = waiting :=
      looked_of_none (s := { s with call := .asked peek }) rfl hglance
    obtain ⟨acts, hacts, hanswer⟩ := exists_answer (s := waiting) rfl hglance
    rw [← hplay] at hacts
    refine ⟨acts ++ _, hlook.append hacts, ?_⟩
    rw [play_append, hplay, hanswer]
    rfl

/-- **A read is a call.** -/
theorem Mirrors.read (hm : Mirrors s d) (hread : d.read peek = (reading, d')) :
    ∃ acts, Allowed s acts ∧ Mirrors (play s acts) d'
      ∧ (play s acts).heard = s.heard ++ [(peek, reading)] := by
  obtain ⟨acts, hallowed, hplay⟩ := exists_call hm.call peek
  refine ⟨acts, hallowed, ?_⟩
  rw [hplay]
  rw [BridgeDevice.read, ← hm.tty, ← hm.reader] at hread
  obtain ⟨rfl, rfl⟩ := Prod.mk.inj hread
  exact ⟨⟨rfl, rfl, hm.incoming, hm.pump, hm.hand, rfl⟩, rfl⟩

end

end SharedBridge

end Teletype
