import Teletype.Proofs.Pump.Sequential
import Teletype.Proofs.Stream.Pausing

/-!
# A round with nothing in between

A terminal on a stream that takes a step (`StreamDevice.advance`) does what a terminal
among its controllers does when the thread of its pump goes through a whole round and
nothing comes in between: it asks, reads and deals with what it read, and if that was the
end its body returns and its thread gives up its handle. So a step of the one is a history
of the other, with the same discipline, the same signals and the same pump behind it
(`Mirrors.advance`).
-/

namespace Teletype

namespace SharedStream

open Device

/-- **A terminal between two rounds** is like one that takes steps: it is connected to the
same things, and whichever thread goes on is through with its round. -/
structure Mirrors (s : SharedStream) (t : StreamDevice) : Prop where
  /-- The attributes are the same. -/
  attributes : s.attributes = t.attributes
  /-- So is the discipline. -/
  discipline : s.discipline = t.discipline
  /-- And what has arrived. -/
  incoming : s.incoming = t.incoming
  /-- The pumps are alike. -/
  pump : SharedPump.Mirrors s.pump t.pump
  /-- A thread that goes on has nothing in hand. -/
  hand : ∀ g, s.pump.phase g = .looping → s.hand g = .free

section

variable {s : SharedStream} {t : StreamDevice} {g : Nat} {reading : Option (List UInt8)}
  {incoming : List Arrival}

/-- **A thread asks and reads**, with nothing in between. -/
theorem after_take_check (hphase : s.pump.phase g = .looping)
    (hkeeps : s.pump.pump.keepsRunning g = true)
    (htake : takeArrival s.incoming = some (reading, incoming)) :
    (s.after (.pump (.check g))).after (.take g)
      = { s with incoming, taken := s.taken ++ [reading] }.setHand g (.full reading) := by
  have hcheck : s.after (.pump (.check g)) = s.setHand g .cleared := by
    show { s.setHand g (if s.pump.pump.keepsRunning g then .cleared else .free) with
      pump := s.pump.setPhase g (if s.pump.pump.keepsRunning g then .looping else .leaving) } = _
    rw [if_pos hkeeps, if_pos hkeeps, SharedPump.setPhase_eq_self hphase]
    rfl
  rw [hcheck]
  refine (takenBy_of_some (s := s.setHand g .cleared) htake g).trans ?_
  exact setHand_setHand { s with incoming, taken := s.taken ++ [reading] } g .cleared _

/-- **And deals with what it read.** -/
theorem after_handle (s : SharedStream) (g : Nat) (reading : Option (List UInt8)) :
    (s.setHand g (.full reading)).after (.handle g) = s.dealt g reading := by
  refine (handled_of_full (if_pos rfl)).trans ?_
  cases reading with
  | some bytes => exact setHand_setHand (s.process bytes) g (.full (some bytes)) .free
  | none => exact setHand_setHand s.endOfInput g (.full none) .over

/-! ## What a step comes to -/

/-- **What a step takes, and what it makes of it.** -/
theorem advance_cases {signals : List Signal} {t' : StreamDevice}
    (h : t.advance = some (signals, t')) :
    t.pump.running = true ∧ ∃ incoming,
      (∃ bytes, takeArrival t.incoming = some (some bytes, incoming)
        ∧ signals = (t.discipline.process t.attributes bytes).1.pending
        ∧ t' = { t with
            incoming
            discipline := { (t.discipline.process t.attributes bytes).1 with pending := [] } })
      ∨ (takeArrival t.incoming = some (none, incoming) ∧ signals = []
        ∧ t' = { t with
            incoming, discipline := t.discipline.endOfInput, pump := t.pump.finish }) := by
  unfold StreamDevice.advance at h
  split at h
  · cases h
  · next hrunning =>
    refine ⟨by simpa using hrunning, ?_⟩
    split at h
    · cases h
    · next bytes incoming htake =>
      obtain ⟨rfl, rfl⟩ := Prod.mk.inj (Option.some.inj h)
      exact ⟨incoming, .inl ⟨bytes, htake, rfl, rfl⟩⟩
    · next incoming htake =>
      obtain ⟨rfl, rfl⟩ := Prod.mk.inj (Option.some.inj h)
      exact ⟨incoming, .inr ⟨htake, rfl, rfl⟩⟩

namespace Mirrors

/-- Bytes are dealt with alike. -/
theorem dealt_some (hm : Mirrors s t) (hhand : s.hand g = .free) (taken : List (Option (List UInt8)))
    (bytes : List UInt8) :
    Mirrors ({ s with incoming, taken }.dealt g (some bytes))
      { t with
        incoming
        discipline := { (t.discipline.process t.attributes bytes).1 with pending := [] } } := by
  have hset : ({ s with incoming, taken }.process bytes).setHand g .free
      = { s with incoming, taken }.process bytes := setHand_eq_self hhand
  show Mirrors (({ s with incoming, taken }.process bytes).setHand g .free) _
  rw [hset]
  refine ⟨hm.attributes, ?_, rfl, hm.pump, hm.hand⟩
  rw [← hm.attributes, ← hm.discipline]
  rfl

/-- So is the end: the body returns, and the thread gives up its handle. -/
theorem dealt_none (hm : Mirrors s t) (hs : s.pump.Consistent)
    (hthread : s.pump.pump.thread = some g) (taken : List (Option (List UInt8))) :
    Mirrors ((({ s with incoming, taken }.dealt g none).after (.pump (.quit g))).after
        (.pump (.drop g)))
      { t with incoming, discipline := t.discipline.endOfInput, pump := t.pump.finish } := by
  refine ⟨hm.attributes, congrArg Discipline.endOfInput hm.discipline, rfl, ?_, fun h hphase => ?_⟩
  · refine Eq.subst (motive := fun p => SharedPump.Mirrors p _) ?_ (hm.pump.finished hs hthread)
    exact (SharedPump.setPhase_setPhase (s.pump.setPump _) g .ended .gone).symm
  · replace hphase : (if h = g then SharedPump.Phase.gone else
      if h = g then .ended else s.pump.phase h) = .looping := hphase
    show (if h = g then Hand.over else s.hand h) = .free
    by_cases hne : h = g
    · rw [if_pos hne] at hphase
      cases hphase
    · rw [if_neg hne, if_neg hne] at hphase
      rw [if_neg hne]
      exact hm.hand h hphase

end Mirrors

section

variable {a : Attributes} {d : Discipline} {arriving : List Arrival} {history : List Act}

/-- A thread that goes on and has nothing in hand may go through a round. -/
theorem Allowed.round (h : Allowed (new a d arriving) history)
    (hcall : (play (new a d arriving) history).pump.call (.body g) = .idle)
    (hphase : (play (new a d arriving) history).pump.phase g = .looping)
    (hhand : (play (new a d arriving) history).hand g = .free)
    (hkeeps : (play (new a d arriving) history).pump.pump.keepsRunning g = true)
    (htake : takeArrival (play (new a d arriving) history).incoming = some (reading, incoming)) :
    Allowed (new a d arriving) (.handle g :: .take g :: .pump (.check g) :: history) := by
  refine ⟨⟨⟨h, ⟨hcall, hphase⟩, hhand⟩, ?_, ?_⟩, reading, ?_⟩
  · exact (asked_check_hand ..).trans (by rw [if_pos rfl, if_pos hkeeps])
  · exact Option.isSome_iff_exists.2 ⟨_, htake⟩
  · rw [play, play, after_take_check hphase hkeeps htake, setHand_hand, if_pos rfl]

/-- **A step is a round.** -/
theorem Mirrors.advance {signals : List Signal} {t' : StreamDevice}
    (h : Allowed (new a d arriving) history) (hm : Mirrors (play (new a d arriving) history) t)
    (hpaused : t.pump.pump.paused = false) (hadvance : t.advance = some (signals, t')) :
    ∃ acts, Allowed (new a d arriving) (acts ++ history)
      ∧ Mirrors (play (new a d arriving) (acts ++ history)) t'
      ∧ (play (new a d arriving) (acts ++ history)).raised
          = (play (new a d arriving) history).raised ++ signals := by
  obtain ⟨hrunning, incoming, hcases⟩ := advance_cases hadvance
  let s := play (new a d arriving) history
  have hconsistent : s.pump.Consistent := by
    rw [show s.pump = _ from play_pump history]
    exact h.pump.consistent
  obtain ⟨g, hthread⟩ : ∃ g, s.pump.pump.thread = some g := by
    have hfree := hm.pump.free
    rw [hm.pump.pump] at hfree
    rw [SequentialPump.running, Pump.running, hfree, Bool.or_false] at hrunning
    rw [hm.pump.pump]
    exact Option.isSome_iff_exists.1 hrunning
  have hphase := hm.pump.goesOn g hthread
  have hhand := hm.hand g hphase
  have hkeeps : s.pump.pump.keepsRunning g = true := by
    have hlatest := hconsistent.latest g (hconsistent.held g hthread).1
    rw [Pump.keepsRunning, hlatest, hm.pump.pump, hpaused]
    simp
  have hplay : ∀ reading, takeArrival s.incoming = some (reading, incoming) →
      play (new a d arriving) (.handle g :: .take g :: .pump (.check g) :: history)
        = { s with incoming, taken := s.taken ++ [reading] }.dealt g reading := by
    intro reading htake
    rw [play, play, play, after_take_check hphase hkeeps htake]
    exact after_handle _ g reading
  rw [← hm.incoming] at hcases
  rcases hcases with ⟨bytes, htake, rfl, rfl⟩ | ⟨htake, rfl, rfl⟩
  · refine ⟨[.handle g, .take g, .pump (.check g)],
      h.round (hm.pump.quiet _) hphase hhand hkeeps htake, ?_, ?_⟩
    · rw [List.cons_append, List.cons_append, List.cons_append, List.nil_append, hplay _ htake]
      exact hm.dealt_some hhand _ bytes
    · rw [List.cons_append, List.cons_append, List.cons_append, List.nil_append, hplay _ htake,
        ← hm.attributes, ← hm.discipline]
      rfl
  · have hround := h.round (hm.pump.quiet _) hphase hhand hkeeps htake
    refine ⟨[.pump (.drop g), .pump (.quit g), .handle g, .take g, .pump (.check g)],
      ⟨⟨hround, ?_⟩, ?_⟩, ?_, ?_⟩
    · show (play _ (.handle g :: .take g :: .pump (.check g) :: history)).Enabled (.pump (.quit g))
      rw [hplay _ htake]
      exact ⟨⟨hm.pump.quiet _, hphase⟩, if_pos rfl⟩
    · exact ⟨if_pos rfl, trivial⟩
    · show Mirrors (((play _ (.handle g :: .take g :: .pump (.check g) :: history)).after
        (.pump (.quit g))).after (.pump (.drop g))) _
      rw [hplay _ htake]
      exact hm.dealt_none hconsistent hthread _
    · show (play _ (.handle g :: .take g :: .pump (.check g) :: history)).raised = _
      rw [hplay _ htake]
      exact (List.append_nil _).symm

end

end

end SharedStream

end Teletype
