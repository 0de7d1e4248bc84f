import Teletype.Device.SharedStream
import Teletype.Proofs.Discipline.Scene
import Teletype.Proofs.Pump.Ownership
import Teletype.Proofs.Queue.Alike

/-!
# Pausing does not show

A pause may come between any two acts of a thread: before it asks, before it reads, or
while it holds bytes that it has read. Whoever pauses without waiting goes on at once, and
whoever resumes then finds the thread still there, or another. **None of that shows in
what becomes of the input** (`pausing_is_invisible`).

The reason is that a thread that was told to go on stays in its loop until it is through
with its round, and only one thread can be in its loop. So what has been read is dealt
with before anything else is read, and before any other thread reads (`Kept`). What is
seen of the terminal is then at each moment what the readings make of it, one after the
other, but for the one that a thread still holds.

A pump that is resumed behind the end of its stream comes upon the end again, and the
queue gets one more. An end behind an end does not show to a reader
(`Queue.Alike.of_stream`).
-/

namespace Teletype

namespace SharedStream

open Discipline Device

/-- **What is seen of a terminal**: of its discipline, with the signals raised in front of
those that wait. -/
def scene (s : SharedStream) : Scene where
  view := { s.discipline.view with pending := s.raised ++ s.discipline.pending }
  echo := s.discipline.echoed?

/-- The queue its reader reads. -/
def queue (s : SharedStream) : Queue := s.discipline.queue

/-- The bytes read so far. -/
def bytes (s : SharedStream) : List UInt8 := s.taken.reduceOption.flatten

/-- How often a read came upon the end. -/
def ends (s : SharedStream) : Nat := s.taken.count none

/-- What arrives on a stream that ends: chunks of bytes, and the end as often as
somebody reads on. -/
def arrivals (chunks : List (List UInt8)) (ends : Nat) : List Arrival :=
  chunks.map .bytes ++ List.replicate ends .ended

section

variable {a : Attributes} {d : Discipline} {s start : SharedStream} {g : Nat}
  {history : List Act} {incoming : List Arrival}

/-! ## One thing dealt with -/

theorem scene_process (h : s.discipline.NeverRefuses) (bytes : List UInt8) :
    (s.process bytes).scene = s.scene.run s.attributes bytes := by
  have hprocess := h.scene_process (a := s.attributes) bytes
  ext1
  · ext1
    · exact congrArg (·.view.state) hprocess
    · show (s.raised ++ (s.discipline.process s.attributes bytes).1.pending) ++ [] = _
      rw [List.append_nil]
      refine (congrArg (fun v : Scene => s.raised ++ v.view.pending) hprocess).trans ?_
      exact (List.append_assoc ..).symm
    · exact congrArg (·.view.stream) hprocess
    · exact congrArg (·.view.frame) hprocess
  · exact congrArg (·.echo) hprocess

theorem scene_endOfInput (s : SharedStream) : s.endOfInput.scene = s.scene.ended := by
  have hend := Discipline.scene_endOfInput s.discipline
  ext1
  · ext1
    · rfl
    · rfl
    · exact congrArg (·.view.stream) hend
    · exact congrArg (·.view.frame) hend
  · rfl

/-! ## The pump -/

/-- The acts of the pump in a history. -/
def pumpActs (history : List Act) : List SharedPump.Act :=
  history.filterMap fun
    | .pump a => some a
    | _ => none

theorem takenBy_pump (s : SharedStream) (g : Nat) : (s.takenBy g).pump = s.pump := by
  unfold takenBy
  split <;> rfl

/-- Dealing with a reading has nothing to do with the pump, or with the source. -/
theorem handled_frame (s : SharedStream) (g : Nat) : (s.handled g).pump = s.pump
    ∧ (s.handled g).taken = s.taken ∧ (s.handled g).incoming = s.incoming := by
  unfold handled
  split
  · next reading _ => cases reading <;> exact ⟨rfl, rfl, rfl⟩
  · exact ⟨rfl, rfl, rfl⟩

/-- **What becomes of the pump** is what its own acts make of it. -/
theorem play_pump (history : List Act) :
    (play (new a d incoming) history).pump = SharedPump.play (pumpActs history) := by
  induction history with
  | nil => rfl
  | cons act earlier ih =>
    cases act with
    | pump p => exact congrArg (·.after p) ih
    | interrupt g => exact ih
    | take g => exact (takenBy_pump _ g).trans ih
    | handle g => exact (handled_frame _ g).1.trans ih

theorem Allowed.pump (h : Allowed (new a d incoming) history) :
    SharedPump.Allowed (pumpActs history) := by
  induction history with
  | nil => trivial
  | cons act earlier ih =>
    cases act with
    | pump p =>
      refine ⟨ih h.1, ?_⟩
      have henabled := h.2.1
      rwa [play_pump] at henabled
    | interrupt g => exact ih h.1
    | take g => exact ih h.1
    | handle g => exact ih h.1

/-- Two threads in their loop are one. -/
theorem Allowed.eq_of_looping (h : Allowed (new a d incoming) history) {g g' : Nat}
    (hg : (play (new a d incoming) history).pump.phase g = .looping)
    (hg' : (play (new a d incoming) history).pump.phase g' = .looping) : g = g' := by
  rw [play_pump] at hg hg'
  refine h.pump.consistent.eq_of_there ?_ ?_ <;> simp [SharedPump.There, hg, hg']

/-! ## Hands -/

/-- Dealing with a reading leaves the other hands as they are. -/
theorem handled_hand {reading : Option (List UInt8)} (hg : s.hand g = .full reading) (h : Nat) :
    (s.handled g).hand h
      = if h = g then (if reading.isSome then .free else .over) else s.hand h := by
  rw [handled_of_full hg]
  cases reading <;> rfl

/-- When the only one who has read something deals with it, nobody has. -/
theorem idle_handled {reading : Option (List UInt8)} (hg : s.hand g = .full reading)
    (hone : ∀ g' reading', s.hand g' = .full reading' → g' = g) : (s.handled g).Idle := by
  intro h r hfull
  rw [handled_hand hg] at hfull
  split at hfull
  · cases reading <;> cases hfull
  · next hne => exact hne (hone h r hfull)

/-! ## What every history keeps -/

/-- A thread stays in its loop until it asks, or returns. -/
theorem phase_after_of_looping {p : SharedPump} {act : SharedPump.Act} (h : p.Enabled act)
    (hg : p.phase g = .looping) (hcheck : act ≠ .check g) (hquit : act ≠ .quit g) :
    (p.after act).phase g = .looping := by
  have hset : ∀ {g' : Nat} {k : SharedPump.Phase} (p' : SharedPump), p'.phase = p.phase →
      (g' = g → False) → (p'.setPhase g' k).phase g = .looping := by
    intro g' k p' hphase hne
    rw [SharedPump.setPhase_phase, if_neg fun heq => hne heq.symm, hphase]
    exact hg
  cases act with
  | begin c r => exact hg
  | resume c =>
    show p.resumed.phase g = .looping
    cases hthread : p.pump.thread with
    | some g' => rw [SharedPump.resumed_of_some hthread]; exact hg
    | none =>
      rw [SharedPump.resumed_of_none hthread, SharedPump.setPump_phase,
        SharedPump.setPhase_phase]
      split
      · rfl
      · exact hg
  | pause c wait => exact (congrFun (SharedPump.paused_phase p c wait) g).trans hg
  | take c => exact (congrFun (SharedPump.taken_phase p c) g).trans hg
  | join c g' => exact hg
  | release c => exact hg
  | check g' => exact hset p rfl fun heq => hcheck (heq ▸ rfl)
  | leave g' =>
    refine hset p rfl ?_
    rintro rfl
    exact absurd (h.2.symm.trans hg) (by simp)
  | quit g' => exact hset p rfl fun heq => hquit (heq ▸ rfl)
  | drop g' =>
    refine hset (p.setPump _) rfl ?_
    rintro rfl
    exact absurd (Eq.trans h.symm hg) (by simp)

/-- **What every history keeps.** -/
structure Kept (a : Attributes) (d : Discipline) (s : SharedStream) : Prop where
  /-- The attributes stay. -/
  attributes : s.attributes = a
  /-- Echo does not fail. -/
  echo : s.discipline.NeverRefuses
  /-- A thread that reads is in its loop. -/
  reads : ∀ g, s.hand g = .cleared → s.pump.phase g = .looping
  /-- So is one that has read something. -/
  holds : ∀ g reading, s.hand g = .full reading → s.pump.phase g = .looping
  /-- When a thread has read something, all readings but that have been dealt with. -/
  held : ∀ g reading, s.hand g = .full reading → ∃ earlier,
    s.taken = earlier ++ [reading] ∧ s.scene = earlier.foldl (Scene.deal a) d.scene
  /-- Otherwise all have. -/
  idle : s.Idle → s.scene = s.taken.foldl (Scene.deal a) d.scene

namespace Kept

theorem initial (hecho : d.NeverRefuses) : Kept a d (new a d incoming) where
  attributes := rfl
  echo := hecho
  reads g h := by cases h
  holds g reading h := by cases h
  held g reading h := by cases h
  idle _ := rfl

/-- Whoever reads is the only one who has read or will. -/
theorem idle_of_cleared (hk : Kept a d s)
    (hone : ∀ {g g'}, s.pump.phase g = .looping → s.pump.phase g' = .looping → g = g')
    (hg : s.hand g = .cleared) : s.Idle := by
  intro g' reading hg'
  obtain rfl := hone (hk.reads g hg) (hk.holds g' reading hg')
  exact absurd (hg.symm.trans hg') (by simp)

/-- Nothing but the hands changes, and what they hold stays. -/
theorem of_hand (hk : Kept a d s) {hand : Nat → Hand} {pump : SharedPump}
    (hfull : ∀ g reading, hand g = .full reading ↔ s.hand g = .full reading)
    (hreads : ∀ g, hand g = .cleared → pump.phase g = .looping)
    (hholds : ∀ g reading, s.hand g = .full reading → pump.phase g = .looping) :
    Kept a d { s with hand, pump } where
  attributes := hk.attributes
  echo := hk.echo
  reads := hreads
  holds g reading h := hholds g reading ((hfull g reading).1 h)
  held g reading h := hk.held g reading ((hfull g reading).1 h)
  idle h := hk.idle fun g reading hg => h g reading ((hfull g reading).2 hg)

/-- **The pump goes on**, and what was read stays where it is. -/
theorem pump (hk : Kept a d s) {act : SharedPump.Act} (hact : s.pump.Enabled act)
    (hpermits : s.Permits act) : Kept a d (s.after (.pump act)) := by
  -- a thread with something to do neither asks nor returns
  have hbusy : ∀ g, s.pump.phase g = .looping → s.hand g ≠ .free → s.hand g ≠ .over →
      (s.pump.after act).phase g = .looping := by
    intro g hg hfree hover
    refine phase_after_of_looping hact hg ?_ ?_
    · rintro rfl
      exact hfree hpermits
    · rintro rfl
      exact hover hpermits
  have hholds : ∀ g reading, s.hand g = .full reading → (s.pump.after act).phase g = .looping :=
    fun g reading h => hbusy g (hk.holds g reading h) (by simp [h]) (by simp [h])
  have hreads : ∀ g, s.hand g = .cleared → (s.pump.after act).phase g = .looping :=
    fun g h => hbusy g (hk.reads g h) (by simp [h]) (by simp [h])
  cases act with
  | check g =>
    have hfree : s.hand g = .free := hpermits
    refine hk.of_hand (fun h reading => ?_) (fun h hcleared => ?_) hholds
    · rw [asked_check_hand]
      by_cases hne : h = g
      · rw [if_pos hne, hne, hfree]
        split <;> simp
      · rw [if_neg hne]
    · rw [asked_check_hand] at hcleared
      by_cases hne : h = g
      · rw [if_pos hne] at hcleared
        split at hcleared
        · next hkeeps =>
          show (s.pump.setPhase g _).phase h = .looping
          rw [SharedPump.setPhase_phase, if_pos hne, if_pos hkeeps]
        · cases hcleared
      · rw [if_neg hne] at hcleared
        exact hreads h hcleared
  | begin c r => exact hk.of_hand (fun _ _ => Iff.rfl) hreads hholds
  | resume c => exact hk.of_hand (fun _ _ => Iff.rfl) hreads hholds
  | pause c wait => exact hk.of_hand (fun _ _ => Iff.rfl) hreads hholds
  | take c => exact hk.of_hand (fun _ _ => Iff.rfl) hreads hholds
  | join c g => exact hk.of_hand (fun _ _ => Iff.rfl) hreads hholds
  | release c => exact hk.of_hand (fun _ _ => Iff.rfl) hreads hholds
  | leave g => exact hk.of_hand (fun _ _ => Iff.rfl) hreads hholds
  | quit g => exact hk.of_hand (fun _ _ => Iff.rfl) hreads hholds
  | drop g => exact hk.of_hand (fun _ _ => Iff.rfl) hreads hholds

/-- A read that brought nothing. -/
theorem interrupt (hk : Kept a d s) (hg : s.hand g = .cleared) :
    Kept a d (s.after (.interrupt g)) := by
  refine hk.of_hand (fun h reading => ?_) (fun h hcleared => ?_) hk.holds
  · by_cases hne : h = g
    · rw [if_pos hne, hne, hg]
      simp
    · rw [if_neg hne]
  · by_cases hne : h = g
    · rw [if_pos hne] at hcleared
      cases hcleared
    · rw [if_neg hne] at hcleared
      exact hk.reads h hcleared

/-- **A read.** Everything before it has been dealt with. -/
theorem take (hk : Kept a d s) (hg : s.hand g = .cleared) (hidle : s.Idle) :
    Kept a d (s.after (.take g)) := by
  show Kept a d (s.takenBy g)
  unfold takenBy
  split
  · exact hk
  · next reading incoming _ =>
    have hscene := hk.idle hidle
    have hhand : ∀ {h : Nat} {k : Hand}, (if h = g then Hand.full reading else s.hand h) = k →
        h = g ∧ k = .full reading ∨ s.hand h = k := by
      intro h k hk
      split at hk
      · next hne => exact .inl ⟨hne, hk.symm⟩
      · exact .inr hk
    refine ⟨hk.attributes, hk.echo, fun h hcleared => ?_, fun h r hfull => ?_, fun h r hfull => ?_,
      fun hidle' => ?_⟩
    · rcases hhand hcleared with ⟨-, hk'⟩ | hcleared
      · cases hk'
      · exact hk.reads h hcleared
    · rcases hhand hfull with ⟨rfl, -⟩ | hfull
      · exact hk.reads h hg
      · exact absurd hfull (hidle h r)
    · rcases hhand hfull with ⟨-, hr⟩ | hfull
      · cases hr
        exact ⟨s.taken, rfl, hscene⟩
      · exact absurd hfull (hidle h r)
    · exact absurd (if_pos rfl) (hidle' g reading)

/-- **What was read is dealt with.** -/
theorem handle (hk : Kept a d s) {reading : Option (List UInt8)}
    (hg : s.hand g = .full reading)
    (hone : ∀ g' reading', s.hand g' = .full reading' → g' = g) :
    Kept a d (s.after (.handle g)) := by
  obtain ⟨earlier, htaken, hscene⟩ := hk.held g reading hg
  have hidle := idle_handled hg hone
  obtain ⟨hpump, htaken', -⟩ := handled_frame s g
  have hdealt : (s.handled g).attributes = a ∧ (s.handled g).discipline.NeverRefuses
      ∧ (s.handled g).scene = s.scene.deal a reading := by
    rw [handled_of_full hg]
    cases reading with
    | some bytes =>
      refine ⟨hk.attributes, (hk.echo.processFrom s.attributes bytes {}).2.1, ?_⟩
      exact hk.attributes ▸ scene_process hk.echo bytes
    | none => exact ⟨hk.attributes, hk.echo, scene_endOfInput s⟩
  refine ⟨hdealt.1, hdealt.2.1, fun h hcleared => ?_, fun h r hfull => absurd hfull (hidle h r),
    fun h r hfull => absurd hfull (hidle h r), fun _ => ?_⟩
  · show (s.handled g).pump.phase h = _
    rw [hpump]
    replace hcleared := (handled_hand hg h).symm.trans hcleared
    split at hcleared
    · cases reading <;> cases hcleared
    · exact hk.reads h hcleared
  · show (s.handled g).scene = (s.handled g).taken.foldl _ _
    rw [hdealt.2.2, htaken', htaken, hscene, List.foldl_append]
    rfl

/-- **Every history keeps it.** -/
theorem of_allowed (hecho : d.NeverRefuses) (h : Allowed (new a d incoming) history) :
    Kept a d (play (new a d incoming) history) := by
  induction history with
  | nil => exact initial hecho
  | cons act earlier ih =>
    have hk := ih h.1
    have hone : ∀ {g g'}, _ → _ → g = g' := fun hg hg' => h.1.eq_of_looping hg hg'
    cases act with
    | pump p => exact hk.pump h.2.1 h.2.2
    | interrupt g => exact hk.interrupt h.2
    | take g => exact hk.take h.2.1 (hk.idle_of_cleared hone h.2.1)
    | handle g =>
      obtain ⟨reading, hg⟩ := h.2
      exact hk.handle hg fun g' reading' hg' => hone (hk.holds g' reading' hg') (hk.holds g reading hg)

end Kept

/-- **Whoever deals with what was read** is the only one who held something. -/
theorem Allowed.idle_handle (hecho : d.NeverRefuses)
    (h : Allowed (new a d incoming) (.handle g :: history)) :
    (play (new a d incoming) (.handle g :: history)).Idle := by
  obtain ⟨reading, hg⟩ := h.2
  have hk := Kept.of_allowed hecho h.1
  exact idle_handled hg fun g' reading' hg' =>
    h.1.eq_of_looping (hk.holds g' reading' hg') (hk.holds g reading hg)

/-! ## What is read -/

/-- **How what was read stands to what arrives**: the readings are some bytes and then
ends, and what has not been read is what is left. -/
structure Reads (whole : List UInt8) (s : SharedStream) (chunks left : List (List UInt8))
    (ends more : Nat) : Prop where
  /-- Bytes were read, and then ends. -/
  taken : s.taken = chunks.map some ++ List.replicate ends none
  /-- Chunks are left, and then ends. -/
  incoming : s.incoming = arrivals left more
  /-- No chunk is without bytes. -/
  filled : ∀ chunk ∈ left, chunk ≠ []
  /-- No byte is lost. -/
  whole : chunks.flatten ++ left.flatten = whole
  /-- An end comes after all bytes. -/
  last : ends ≠ 0 → left = []

namespace Reads

variable {whole : List UInt8} {chunks left : List (List UInt8)} {ends more : Nat}

theorem bytes_eq (h : Reads whole s chunks left ends more) : s.bytes = chunks.flatten := by
  unfold bytes
  rw [h.taken, List.reduceOption_append, Queue.reduceOption_map_some,
    List.reduceOption_replicate_none, List.append_nil]

theorem ends_eq (h : Reads whole s chunks left ends more) : s.ends = ends := by
  unfold SharedStream.ends
  rw [h.taken, List.count_append, List.count_replicate_self,
    List.count_eq_zero_of_not_mem (by simp), Nat.zero_add]

/-- A chunk is taken in pieces, none of them without bytes. -/
theorem takeArrival_chunk {content : List UInt8} (h : content ≠ []) (rest : List Arrival) :
    takeArrival (.bytes content :: rest) = some (some (content.take chunk),
      if (content.drop chunk).isEmpty then rest else .bytes (content.drop chunk) :: rest) := by
  show some (if content.isEmpty then none else some (content.take chunk), _) = _
  rw [if_neg (by rwa [List.isEmpty_iff])]

/-- **A read takes what is next.** -/
theorem take (h : Reads whole s chunks left ends more) (g : Nat) :
    ∃ chunks left ends more, Reads whole (s.takenBy g) chunks left ends more := by
  have hwhole := h.whole
  cases left with
  | nil =>
    cases more with
    | zero =>
      rw [takenBy_of_none (by rw [h.incoming]; rfl)]
      exact ⟨_, _, _, _, h⟩
    | succ more =>
      have htake : takeArrival s.incoming = some (none, arrivals [] more) := by
        rw [h.incoming]
        rfl
      rw [takenBy_of_some htake]
      refine ⟨chunks, [], ends + 1, more, ?_, rfl, by simp, hwhole, fun _ => rfl⟩
      show s.taken ++ [none] = _
      rw [h.taken, List.replicate_succ', List.append_assoc]
  | cons content left =>
    obtain rfl : ends = 0 := by
      by_contra hne
      exact absurd (h.last hne) (by simp)
    have htake := (congrArg takeArrival h.incoming).trans
      (takeArrival_chunk (h.filled content List.mem_cons_self) (arrivals left more))
    have hleft : ∀ c ∈ left, c ≠ [] := fun c hc => h.filled c (List.mem_cons_of_mem content hc)
    have htaken : s.taken ++ [some (content.take chunk)]
        = (chunks ++ [content.take chunk]).map some ++ List.replicate 0 none := by
      rw [h.taken]
      simp
    have hcontent := List.take_append_drop chunk content
    rw [takenBy_of_some htake]
    by_cases hdrop : content.drop chunk = []
    · refine ⟨chunks ++ [content.take chunk], left, 0, more, htaken, ?_, hleft, ?_,
        fun hne => absurd rfl hne⟩
      · show (if (content.drop chunk).isEmpty then _ else _) = _
        rw [hdrop]
        rfl
      · rw [hdrop, List.append_nil] at hcontent
        rw [hcontent, ← hwhole]
        simp
    · refine ⟨chunks ++ [content.take chunk], content.drop chunk :: left, 0, more, htaken, ?_, ?_,
        ?_, fun hne => absurd rfl hne⟩
      · show (if (content.drop chunk).isEmpty then _ else _) = _
        rw [if_neg (by rwa [List.isEmpty_iff])]
        rfl
      · intro c hc
        rcases List.mem_cons.1 hc with rfl | hc
        · exact hdrop
        · exact hleft c hc
      · rw [← hwhole, List.flatten_append, List.flatten_singleton, List.flatten_cons,
          List.flatten_cons, List.append_assoc, ← List.append_assoc (content.take chunk), hcontent]

/-- What is read does not change by anything else. -/
theorem of_eq (h : Reads whole s chunks left ends more) {t : SharedStream}
    (htaken : t.taken = s.taken) (hincoming : t.incoming = s.incoming) :
    Reads whole t chunks left ends more :=
  ⟨htaken.trans h.taken, hincoming.trans h.incoming, h.filled, h.whole, h.last⟩

/-- **In every history** the bytes are read in order, and then the end. -/
theorem of_allowed {arrived : List (List UInt8)} (hfilled : ∀ chunk ∈ arrived, chunk ≠ [])
    (start : SharedStream) (htaken : start.taken = []) (hincoming : start.incoming = arrivals arrived more)
    (history : List Act) : ∃ chunks left ends more,
      Reads arrived.flatten (play start history) chunks left ends more := by
  induction history with
  | nil => exact ⟨[], arrived, 0, more, htaken, hincoming, hfilled, rfl, fun h => absurd rfl h⟩
  | cons act earlier ih =>
    obtain ⟨chunks, left, ends, more, h⟩ := ih
    cases act with
    | pump p =>
      refine ⟨chunks, left, ends, more, h.of_eq ?_ ?_⟩ <;> cases p <;> rfl
    | interrupt g => exact ⟨chunks, left, ends, more, h.of_eq rfl rfl⟩
    | take g => exact h.take g
    | handle g =>
      obtain ⟨-, htaken, hincoming⟩ := handled_frame (play start earlier) g
      exact ⟨chunks, left, ends, more, h.of_eq htaken hincoming⟩

end Reads

/-! ## The main statement -/

/-- **The same is seen, but for some ends more**: no reader can tell. -/
theorem answers_of_scene {e : Discipline} {n : Nat} (hscene : s.scene = e.scene.moreEnds n)
    (hclosed : n = 0 ∨ e.queue.attended = false ∨ none ∈ e.queue.stream)
    (acts : List Queue.Act) : s.queue.answers acts = e.queue.answers acts := by
  have hframe : s.queue.frame = e.queue.frame := congrArg (fun v : Scene => v.view.frame) hscene
  have hstream : s.queue.stream
      = e.queue.stream ++ (List.replicate n e.queue.frame.ending).flatten :=
    congrArg (fun v : Scene => v.view.stream) hscene
  refine (Queue.Alike.of_stream hframe hstream ?_ ?_).answers acts
  · unfold Queue.ending
    split <;> simp
  · rcases hclosed with rfl | hattended | hmem
    · exact .inl rfl
    · refine .inl ?_
      rw [Queue.ending, if_neg (by simp [Queue.frame, hattended])]
      simp
    · exact .inr hmem

/-- **Pausing does not show.** However a pump is paused and resumed while it reads a
stream, wherever the stream is cut, and whenever a read is interrupted: whenever no thread
holds what it has read, what is seen of the terminal is what one processing of the bytes
read so far makes of its discipline. When a read has come upon the end, the bytes read are
all there are, and the end has been dealt with behind them, once for every such read; and
nobody who reads finds out how often that was. -/
theorem pausing_is_invisible {chunks : List (List UInt8)} {more : Nat}
    (hecho : d.NeverRefuses) (hfilled : ∀ chunk ∈ chunks, chunk ≠ [])
    (h : Allowed (new a d (arrivals chunks more)) history)
    (hidle : (play (new a d (arrivals chunks more)) history).Idle) :
    let s := play (new a d (arrivals chunks more)) history
    let whole := (d.process a chunks.flatten).1.endOfInput
    s.bytes <+: chunks.flatten
    ∧ (s.ends = 0 → s.scene = (d.process a s.bytes).1.scene
        ∧ ∀ acts, s.queue.answers acts = (d.process a s.bytes).1.queue.answers acts)
    ∧ (s.ends ≠ 0 → s.bytes = chunks.flatten ∧ s.scene = whole.scene.moreEnds (s.ends - 1)
        ∧ ∀ acts, s.queue.answers acts = whole.queue.answers acts) := by
  intro s whole
  obtain ⟨read, left, ends, more', hreads⟩ := Reads.of_allowed hfilled
    (new a d (arrivals chunks more)) rfl rfl history
  have hbytes : s.bytes = read.flatten := hreads.bytes_eq
  have hends : s.ends = ends := hreads.ends_eq
  have hscene : s.scene
      = (List.replicate ends none).foldl (Scene.deal a) (d.scene.run a read.flatten) := by
    rw [(Kept.of_allowed hecho h).idle hidle, hreads.taken, List.foldl_append,
      Scene.foldl_deal_some]
  rw [hends, hbytes]
  refine ⟨hreads.whole ▸ List.prefix_append _ _, ?_, fun hne => ?_⟩
  · rintro rfl
    have hsame : s.scene = (d.process a read.flatten).1.scene :=
      hscene.trans (hecho.scene_process read.flatten).symm
    refine ⟨hsame, answers_of_scene (n := 0) (hsame.trans ?_) (.inl rfl)⟩
    simp [Scene.moreEnds]
  · obtain ⟨n, rfl⟩ := Nat.exists_eq_succ_of_ne_zero hne
    have hall : read.flatten = chunks.flatten := by
      rw [← hreads.whole, hreads.last hne, List.flatten_nil, List.append_nil]
    have hwhole : whole.scene = (d.scene.run a chunks.flatten).ended := by
      rw [← hecho.scene_process]
      exact Discipline.scene_endOfInput _
    have hsame : s.scene = whole.scene.moreEnds n := by
      rw [hscene, hall, Scene.foldl_deal_none, hwhole]
    refine ⟨hall, hsame, answers_of_scene hsame (.inr ?_)⟩
    cases hattended : whole.queue.attended with
    | false => exact .inl rfl
    | true => exact .inr (none_mem_stream_endOfInput hattended)

end

/-- A pump that is paused while its thread holds what it has read, resumed before the
thread has noticed, and paused again to its end: the next thread comes upon the end of the
stream. -/
theorem pausing_is_invisible_resumed :
    let d : Discipline := { echo := some Sink.endless }
    let start := new .usual d (arrivals [[0x61, 0x0a]] 1)
    let history : List Act := [.handle 2, .take 2, .pump (.check 2), .interrupt 2,
      .pump (.check 2), .pump (.resume (.controller 0)),
      .pump (.begin (.controller 0) .resume), .pump (.release (.controller 0)),
      .pump (.join (.controller 0) 1), .pump (.drop 1), .pump (.leave 1), .pump (.check 1),
      .pump (.pause (.controller 0) true), .pump (.begin (.controller 0) (.pause true)),
      .handle 1, .pump (.resume (.controller 0)), .pump (.begin (.controller 0) .resume),
      .pump (.pause (.controller 0) false), .pump (.begin (.controller 0) (.pause false)),
      .take 1, .pump (.check 1), .pump (.resume (.controller 0)),
      .pump (.begin (.controller 0) .resume)]
    d.NeverRefuses ∧ Allowed start history ∧ (play start history).Idle
      ∧ (play start history).ends = 1 ∧ (play start history).bytes = [0x61, 0x0a]
      ∧ (play start history).queue.answers [.read, .read, .read]
        = (d.process .usual [0x61, 0x0a]).1.endOfInput.queue.answers [.read, .read, .read] := by
  intro d start history
  have hecho : d.NeverRefuses := by
    rintro s ⟨⟩ n total
    rfl
  have hallowed : Allowed start history := by decide
  have hidle : (play start history).Idle := hallowed.idle_handle hecho
  have hends : (play start history).ends = 1 := by rfl
  have hinvisible := pausing_is_invisible hecho (by simp) hallowed hidle
  obtain ⟨hbytes, -, hanswers⟩ := hinvisible.2.2 (by rw [hends]; simp)
  exact ⟨hecho, hallowed, hidle, hends, hbytes, hanswers _⟩

end SharedStream

end Teletype
