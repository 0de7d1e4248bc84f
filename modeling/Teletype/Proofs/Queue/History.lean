import Mathlib.Tactic.ByContra
import Teletype.Proofs.Queue.Stream

/-!
# A queue among its writers and its reader

Any number of writers put bytes and ends of input into a queue, pass on the right to do
so and give it up, while the reader reads, looks ahead and counts. Each of these is one
act that nothing can come between. For a read that is so although it may have to wait:
nothing but its answer can be seen of it, and since no packet is without bytes, it takes
one packet out at the most, at the moment at which it answers. A read with all the time in
the world is one that does not happen before there is something to answer.

A history is a list of acts, the latest first. What it sent is one list of bytes and
ends. **As long as the reader has not come upon an end, what it has read, what is pending
and what is in the stream, one behind the other, are what was sent** (`Account.going`).
Afterwards the bytes still are the bytes sent, but the end has gone, and counting may have
moved bytes from behind it to those pending. So the reader may get bytes after an end, but
never an end before the bytes that were sent ahead of it (`first_in_first_out`).

Looking ahead takes a piece off the stream that the next read would take anyway, and none
but the reader could tell. So a queue that was looked at answers like one that was not
(`answer_ready`, `after_ready`).
-/

namespace Teletype

namespace Queue

/-! ## Acts -/

/-- **What may happen to a queue.** -/
inductive Act where
  /-- A writer writes. -/
  | write (writer : Nat) (content : List UInt8)
  /-- A writer announces the end. -/
  | close (writer : Nat)
  /-- A writer is joined by another. -/
  | clone (writer : Nat)
  /-- A writer goes. -/
  | drop (writer : Nat)
  /-- The reader reads. -/
  | read
  /-- The reader looks ahead. -/
  | peek
  /-- The reader counts. -/
  | available
  deriving DecidableEq

namespace Act

/-- The writer that acts, if one does. -/
def writer? : Act → Option Nat
  | write w _ | close w | clone w | drop w => some w
  | read | peek | available => none

/-- What an act sends. -/
def units : Act → List (Option UInt8)
  | write _ content => content.map some
  | close _ => [none]
  | _ => []

/-- Whether an act asks for the next byte. -/
def Asks (a : Act) : Prop := a = read ∨ a = peek

end Act

/-- **What an act answers.** -/
inductive Answer where
  /-- Nothing. -/
  | none
  /-- Whether what was written can be read. -/
  | taken (yes : Bool)
  /-- What was read. -/
  | found (reading : Reading)
  /-- How many bytes there are. -/
  | count (n : Nat)
  deriving DecidableEq

/-- **When an act can be done**: a writer that is gone does nothing more. -/
def Enabled (q : Queue) (a : Act) : Prop := ∀ w ∈ a.writer?, q.hasWriter w = true

/-- **What an act does.** -/
def after (q : Queue) : Act → Queue
  | .write _ content => q.write content
  | .close _ => q.close
  | .clone _ => q.addWriter
  | .drop w => q.dropWriter w
  | .read => q.read.2
  | .peek => q.peek.2
  | .available => q.available.2

/-- What an act answers in a queue. -/
def answer (q : Queue) : Act → Answer
  | .write _ content => .taken (q.takes content)
  | .close _ | .clone _ | .drop _ => .none
  | .read => .found q.read.1
  | .peek => .found q.peek.1
  | .available => .count q.available.1

instance (q : Queue) (a : Act) : Decidable (q.Enabled a) :=
  inferInstanceAs (Decidable (∀ w ∈ a.writer?, _))

/-! ## Histories -/

/-- **The queue that a history leaves**, from a new one with one writer. -/
def play : List Act → Queue
  | [] => {}
  | a :: earlier => (play earlier).after a

/-- **Whether a history can be**: each act could be done when it was. -/
def Allowed : List Act → Prop
  | [] => True
  | a :: earlier => Allowed earlier ∧ (play earlier).Enabled a

instance : (history : List Act) → Decidable (Allowed history)
  | [] => inferInstanceAs (Decidable True)
  | a :: earlier =>
    let _ : Decidable (Allowed earlier) := instDecidableAllowed earlier
    inferInstanceAs (Decidable (Allowed earlier ∧ (play earlier).Enabled a))

/-- **What was sent**: the bytes and the ends of all writers, in order. -/
def sent : List Act → List (Option UInt8)
  | [] => []
  | a :: earlier => sent earlier ++ a.units

/-- The bytes that an act takes from a queue. -/
def yield (q : Queue) : Act → List UInt8
  | .read => q.read.1.byte?.toList
  | _ => []

/-- **What was read**, in order. What was only looked at does not count. -/
def consumed : List Act → List UInt8
  | [] => []
  | a :: earlier => consumed earlier ++ (play earlier).yield a

/-- **The bytes in front of the first end**, or all when there is none. -/
def beforeEnd : List (Option UInt8) → List UInt8
  | [] => []
  | none :: _ => []
  | some b :: rest => b :: beforeEnd rest

section

variable {units more : List (Option UInt8)}

theorem beforeEnd_map_append (bytes : List UInt8) (units : List (Option UInt8)) :
    beforeEnd (bytes.map some ++ units) = bytes ++ beforeEnd units := by
  induction bytes with
  | nil => rfl
  | cons b bytes ih => exact congrArg (b :: ·) ih

theorem beforeEnd_isPrefix (units : List (Option UInt8)) : beforeEnd units <+: units.reduceOption := by
  induction units with
  | nil => exact List.nil_prefix
  | cons u units ih =>
    cases u with
    | none => exact List.nil_prefix
    | some b =>
      rw [List.reduceOption_cons_of_some]
      exact (List.prefix_cons_inj b).2 ih

/-- Without an end, there are bytes only. -/
theorem eq_map_reduceOption (h : none ∉ units) : units = units.reduceOption.map some := by
  induction units with
  | nil => rfl
  | cons u units ih =>
    cases u with
    | none => exact absurd List.mem_cons_self h
    | some b =>
      rw [List.reduceOption_cons_of_some, List.map_cons,
        ← ih fun hmem => h (List.mem_cons_of_mem _ hmem)]

theorem beforeEnd_of_not_mem (h : none ∉ units) : beforeEnd units = units.reduceOption := by
  rw [eq_map_reduceOption h, reduceOption_map_some, ← List.append_nil (List.map _ _),
    beforeEnd_map_append]
  exact List.append_nil _

theorem beforeEnd_append_of_not_mem (h : none ∉ units) :
    beforeEnd (units ++ more) = beforeEnd units ++ beforeEnd more := by
  rw [beforeEnd_of_not_mem h]
  conv_lhs => rw [eq_map_reduceOption h]
  exact beforeEnd_map_append ..

/-- What is sent after the first end does not come before it. -/
theorem beforeEnd_append (h : none ∈ units) : beforeEnd (units ++ more) = beforeEnd units := by
  induction units with
  | nil => cases h
  | cons u units ih =>
    cases u with
    | none => rfl
    | some b => exact congrArg (b :: ·) (ih ((List.mem_cons.1 h).resolve_left (by simp)))

end

/-! ## Where the bytes are -/

/-- **Where the bytes are** that were sent to a queue, when some were read. -/
structure Account (sent : List (Option UInt8)) (read : List UInt8) (q : Queue) : Prop where
  /-- The reader is there. -/
  attended : q.attended = true
  /-- They have been read, or are pending, or are in the stream. -/
  all : read ++ q.pending ++ q.stream.reduceOption = sent.reduceOption
  /-- Until an end is met, the ends are in the stream too. -/
  going : q.ended = false → (read ++ q.pending).map some ++ q.stream = sent
  /-- When one is met, the bytes in front of the first have been taken out. -/
  timely : q.ended = true → beforeEnd sent <+: read ++ q.pending
  /-- It was sent, or there is no writer left. -/
  cause : q.ended = true → none ∈ sent ∨ ∀ w, q.hasWriter w = false

section

variable {q p : Queue} {sent more : List (Option UInt8)} {read : List UInt8} {b : UInt8} {a : Act}

/-- No writer is left when each is gone. -/
theorem all_writers_iff : q.writers.all (!·) = true ↔ ∀ w, q.hasWriter w = false := by
  simp only [List.all_eq_true, Bool.not_eq_true']
  constructor
  · intro h w
    unfold hasWriter
    rw [List.getD_eq_getElem?_getD]
    cases hw : q.writers[w]? with
    | none => rfl
    | some there => exact h there (List.mem_of_getElem? hw)
  · intro h there hmem
    obtain ⟨w, hw⟩ := List.getElem?_of_mem hmem
    have := h w
    rwa [hasWriter, List.getD_eq_getElem?_getD, hw] at this

theorem hasWriter_dropWriter {w d : Nat} (h : q.hasWriter w = false) :
    (q.dropWriter d).hasWriter w = false := by
  unfold hasWriter dropWriter at *
  rw [List.getD_eq_getElem?_getD] at h ⊢
  rw [List.getElem?_set]
  split
  · split <;> rfl
  · exact h

namespace Account

/-- At first nothing has been sent. -/
theorem initial : Account [] [] {} where
  attended := rfl
  all := rfl
  going _ := rfl
  timely h := absurd h Bool.false_ne_true
  cause h := absurd h Bool.false_ne_true

/-- **A writer that is there sends something.** -/
theorem send (h : Account sent read q) {w : Nat} (hw : q.hasWriter w = true)
    (hstream : p.stream = q.stream ++ more) (hframe : p.frame = q.frame) :
    Account (sent ++ more) read p := by
  obtain ⟨channel, pending, ended, writers, attended⟩ := p
  obtain ⟨-, rfl, rfl, rfl, rfl⟩ : ([] : List Packet) = [] ∧ pending = q.pending ∧ ended = q.ended
      ∧ writers = q.writers ∧ attended = q.attended := by simpa [frame] using hframe
  have hclosed : q.ended = true → none ∈ sent := fun hended =>
    (h.cause hended).resolve_right fun hnone => Bool.false_ne_true ((hnone w).symm.trans hw)
  refine ⟨h.attended, ?_, fun hended => ?_, fun hended => ?_, fun hended => .inl ?_⟩
  · rw [hstream, List.reduceOption_append, List.reduceOption_append, ← h.all]
    exact (List.append_assoc ..).symm
  · rw [hstream, ← h.going hended]
    exact (List.append_assoc ..).symm
  · rw [beforeEnd_append (hclosed hended)]
    exact h.timely hended
  · exact List.mem_append_left _ (hclosed hended)

/-- The writers change. Once all are gone none comes back. -/
theorem setWriters (h : Account sent read q) {writers : List Bool}
    (hnone : (∀ w, q.hasWriter w = false) → ∀ w, ({ q with writers } : Queue).hasWriter w = false) :
    Account sent read { q with writers } where
  attended := h.attended
  all := h.all
  going := h.going
  timely := h.timely
  cause hended := (h.cause hended).imp_right hnone

/-- **The queue made ready for a read.** -/
theorem ready (h : Account sent read q) : Account sent read q.ready := by
  rcases q.ready_cases with ⟨-, hready⟩ | ⟨hpending, hended, hcases⟩
  · rwa [hready]
  · have hall := h.all
    have hgoing := h.going hended
    rw [hpending, List.append_nil] at hall hgoing
    rcases hcases with ⟨b, bytes, rest, hstream, hready⟩ | ⟨rest, hstream, hready⟩
      | ⟨hstream, hready⟩
    · rw [hstream] at hall hgoing
      rw [List.reduceOption_append, reduceOption_map_some] at hall
      rw [hready]
      refine ⟨h.attended, ?_, fun _ => ?_, fun h => ?_, fun h => ?_⟩
      · rw [List.append_assoc]
        exact hall
      · rw [List.map_append, List.append_assoc]
        exact hgoing
      · exact absurd (hended.symm.trans h) Bool.false_ne_true
      · exact absurd (hended.symm.trans h) Bool.false_ne_true
    · rw [hstream] at hall hgoing
      rw [hready]
      refine ⟨h.attended, ?_, fun h => ?_, fun _ => ?_, fun _ => .inl ?_⟩
      · rw [hpending, List.append_nil]
        exact hall
      · cases h
      · rw [← hgoing, beforeEnd_map_append, hpending]
        exact List.prefix_refl _
      · rw [← hgoing]
        simp
    · rw [hstream] at hall hgoing
      rw [hready]
      refine ⟨h.attended, ?_, fun _ => ?_, fun _ => ?_, fun h => .inr (all_writers_iff.1 h)⟩
      · rw [hpending, List.append_nil]
        exact hall
      · rw [hpending, List.append_nil]
        exact hgoing
      · rw [← hgoing, beforeEnd_map_append, hpending]
        exact List.prefix_refl _

/-- **A byte read.** -/
theorem next (h : Account sent read q) :
    Account sent (read ++ q.front.byte?.toList) { q with pending := q.pending.tail } := by
  have hfront : read ++ q.front.byte?.toList ++ q.pending.tail = read ++ q.pending := by
    unfold front
    cases q.pending with
    | nil => cases q.ended <;> exact List.append_nil _
    | cons b bytes => exact List.append_assoc read [b] bytes
  exact ⟨h.attended, hfront ▸ h.all, fun hended => hfront ▸ h.going hended,
    fun hended => hfront ▸ h.timely hended, h.cause⟩

/-- **All packets taken out** to count the bytes. -/
theorem available (h : Account sent read q) : Account sent read q.available.2 := by
  unfold Queue.available
  rw [flatMap_content, contains_eof]
  refine ⟨h.attended, ?_, fun hended => ?_, fun hended => ?_, fun hended => ?_⟩
  · have hall := h.all
    rw [List.append_assoc] at hall
    exact (List.append_nil _).trans hall
  · obtain ⟨hended, hnone⟩ := Bool.or_eq_false_iff.1 hended
    have hstream : q.stream = _ :=
      eq_map_reduceOption (List.contains_iff_mem.not.1 (Bool.eq_false_iff.1 hnone))
    have hgoing := h.going hended
    rw [hstream, ← List.map_append, List.append_assoc] at hgoing
    exact (List.append_nil _).trans hgoing
  · show beforeEnd sent <+: read ++ (q.pending ++ q.stream.reduceOption)
    rw [← List.append_assoc]
    cases hq : q.ended with
    | true => exact (h.timely hq).trans (List.prefix_append _ _)
    | false =>
      rw [← h.going hq, beforeEnd_map_append]
      exact (List.prefix_append_right_inj _).2 (beforeEnd_isPrefix _)
  · cases hq : q.ended with
    | true => exact h.cause hq
    | false =>
      rw [hq, Bool.false_or, List.contains_iff_mem] at hended
      exact .inl (h.going hq ▸ List.mem_append_right _ hended)

/-- Nothing is sent. -/
theorem unsent (h : Account sent read q) : Account (sent ++ []) read q := by
  rwa [List.append_nil]

/-- Nothing is read. -/
theorem unread (h : Account sent read q) : Account sent (read ++ []) q := by
  rwa [List.append_nil]

/-- **Every act keeps account of the bytes.** -/
theorem after (h : Account sent read q) (ha : q.Enabled a) :
    Account (sent ++ a.units) (read ++ q.yield a) (q.after a) := by
  cases a with
  | write w content =>
    have hstream := q.stream_write content
    rw [admitted, if_pos h.attended] at hstream
    exact (h.send (ha w rfl) hstream (q.frame_write content)).unread
  | close w =>
    have hstream := q.stream_close
    rw [ending, if_pos h.attended] at hstream
    exact (h.send (ha w rfl) hstream q.frame_close).unread
  | clone w =>
    have hkept : Account sent read q.addWriter :=
      h.setWriters fun hnone => absurd ((hnone w).symm.trans (ha w rfl)) Bool.false_ne_true
    exact hkept.unsent.unread
  | drop w =>
    have hkept : Account sent read (q.dropWriter w) :=
      h.setWriters fun hnone d => hasWriter_dropWriter (hnone d)
    exact hkept.unsent.unread
  | read => exact h.ready.next.unsent
  | peek => exact h.ready.unsent.unread
  | available => exact h.available.unsent.unread

/-- **So does every history.** -/
theorem of_allowed {history : List Act} (h : Allowed history) :
    Account (Queue.sent history) (consumed history) (play history) := by
  induction history with
  | nil => exact initial
  | cons a earlier ih => exact (ih h.1).after h.2

end Account

/-! ## What the reader finds -/

theorem front_eq_eof_iff : q.front = .eof ↔ q.pending = [] ∧ q.ended = true := by
  unfold front
  cases q.pending with
  | nil => cases q.ended <;> simp
  | cons b bytes => simp

theorem front_eq_expired_iff : q.front = .expired ↔ q.pending = [] ∧ q.ended = false := by
  unfold front
  cases q.pending with
  | nil => cases q.ended <;> simp
  | cons b bytes => simp

theorem front_eq_byte_iff : q.front = .byte b ↔ q.pending.head? = some b := by
  unfold front
  cases q.pending with
  | nil => cases q.ended <;> simp
  | cons c bytes => simp

theorem answer_of_asks (ha : a.Asks) : q.answer a = .found q.ready.front := by
  rcases ha with rfl | rfl <;> rfl

/-- **The end is found after all bytes in front of it.** -/
theorem Account.front_eof (h : Account sent read q) (heof : q.ready.front = .eof) :
    beforeEnd sent <+: read
      ∧ (none ∈ sent ∨ (∀ w, q.hasWriter w = false) ∧ read = sent.reduceOption) := by
  obtain ⟨hpending, hended⟩ := front_eq_eof_iff.1 heof
  have htimely := h.ready.timely hended
  rw [hpending, List.append_nil] at htimely
  refine ⟨htimely, ?_⟩
  by_cases hsent : none ∈ sent
  · exact .inl hsent
  · -- all has been sent in front of the end, so that all has been read
    refine .inr ⟨?_, ?_⟩
    · have hnone := (h.ready.cause hended).resolve_left hsent
      unfold hasWriter at hnone ⊢
      rwa [ready_writers] at hnone
    · rw [beforeEnd_of_not_mem hsent] at htimely
      refine List.IsPrefix.eq_of_length_le ?_ htimely.length_le
      rw [← h.all, List.append_assoc]
      exact List.prefix_append _ _

/-- **Nothing is found just when all was read** and an end may still come, or more. -/
theorem Account.front_expired_iff (h : Account sent read q) :
    q.ready.front = .expired
      ↔ read = sent.reduceOption ∧ none ∉ sent ∧ ∃ w, q.hasWriter w = true := by
  constructor
  · intro hexpired
    obtain ⟨hpending, hended⟩ := front_eq_expired_iff.1 hexpired
    rcases q.ready_cases with ⟨hreason, hready⟩ | ⟨-, -, hcases⟩
    · rw [hready] at hpending hended
      rcases hreason with hreason | hreason
      · exact absurd hpending hreason
      · exact absurd (hended.symm.trans hreason) Bool.false_ne_true
    · rcases hcases with ⟨b, bytes, rest, -, hready⟩ | ⟨rest, -, hready⟩ | ⟨-, hready⟩
      · rw [hready] at hpending
        cases hpending
      · rw [hready] at hended
        cases hended
      · have hstream : q.ready.stream = [] := by rw [hready]; rfl
        have hgoing := h.ready.going hended
        rw [hpending, hstream, List.append_nil, List.append_nil] at hgoing
        refine ⟨by rw [← hgoing, reduceOption_map_some], by simp [← hgoing], ?_⟩
        rw [hready] at hended
        by_contra hnone
        rw [show q.writers.all (!·) = true from
          all_writers_iff.2 fun w => Bool.of_not_eq_true fun hw => hnone ⟨w, hw⟩] at hended
        cases hended
  · rintro ⟨hread, hsent, w, hw⟩
    have hended : q.ended = false := by
      by_contra hended
      rcases h.cause (Bool.of_not_eq_false hended) with hcause | hcause
      · exact hsent hcause
      · exact Bool.false_ne_true ((hcause w).symm.trans hw)
    have hgoing := h.going hended
    rw [eq_map_reduceOption hsent, ← hread, List.map_append, List.append_assoc,
      List.append_right_eq_self, List.append_eq_nil_iff, List.map_eq_nil_iff] at hgoing
    rcases q.ready_cases with ⟨hreason, -⟩ | ⟨-, -, hcases⟩
    · rcases hreason with hreason | hreason
      · exact absurd hgoing.1 hreason
      · exact absurd (hended.symm.trans hreason) Bool.false_ne_true
    · rcases hcases with ⟨b, bytes, rest, hstream, -⟩ | ⟨rest, hstream, -⟩ | ⟨-, hready⟩
      · rw [hgoing.2] at hstream
        cases hstream
      · rw [hgoing.2] at hstream
        cases hstream
      · rw [front_eq_expired_iff, hready]
        refine ⟨hgoing.1, Bool.of_not_eq_true fun hnone => ?_⟩
        exact Bool.false_ne_true ((all_writers_iff.1 hnone w).symm.trans hw)

/-! ## Looking ahead -/

/-- **A byte stays in front** until it is read. -/
theorem head?_after (h : q.pending.head? = some b) (ha : a ≠ .read) :
    (q.after a).pending.head? = some b := by
  have hpending : q.pending ≠ [] := by
    rintro hnil
    rw [hnil] at h
    cases h
  cases a with
  | write w content =>
    rw [show (q.after (.write w content)).pending = q.pending from
      pending_of_frame (q.frame_write content)]
    exact h
  | close w =>
    rw [show (q.after (.close w)).pending = q.pending from
      pending_of_frame q.frame_close]
    exact h
  | clone w => exact h
  | drop w => exact h
  | read => exact absurd rfl ha
  | peek =>
    rw [show (q.after .peek).pending = q.ready.pending from rfl, ready_of_pending hpending]
    exact h
  | available =>
    obtain ⟨rest, hrest⟩ := List.head?_eq_some_iff.1 h
    show (q.pending ++ _).head? = some b
    rw [hrest]
    rfl

/-- A queue that was looked at answers like one that was not. -/
theorem answer_ready (h : q.ready.pending ≠ []) (a : Act) : q.ready.answer a = q.answer a := by
  cases a with
  | write w content => simp [answer, takes]
  | close w => rfl
  | clone w => rfl
  | drop w => rfl
  | read => simp only [answer, Queue.read, ready_of_pending h]
  | peek => simp only [answer, peek, ready_of_pending h]
  | available => simp only [answer, available_ready h]

/-- And it goes on like that, or there is no difference any more. -/
theorem after_ready (h : q.ready.pending ≠ []) (a : Act) :
    q.ready.after a = q.after a
      ∨ q.ready.after a = (q.after a).ready ∧ (q.after a).ready.pending ≠ [] := by
  have hready : ∀ {p : Queue}, p.ready = q.ready.after a →
      (q.ready.after a).pending = q.ready.pending →
        q.ready.after a = p.ready ∧ p.ready.pending ≠ [] := by
    intro p hp hpending
    rw [hp, hpending]
    exact ⟨rfl, h⟩
  cases a with
  | write w content => exact .inr (hready (ready_write h content) (pending_of_frame (frame_write ..)))
  | close w => exact .inr (hready (ready_send h .eof) (pending_of_frame (frame_close _)))
  | clone w => exact .inr (hready (ready_addWriter h) rfl)
  | drop w => exact .inr (hready (ready_dropWriter h w) rfl)
  | read => exact .inl (by simp only [after, Queue.read, ready_of_pending h])
  | peek => exact .inl (by simp only [after, peek, ready_of_pending h])
  | available => exact .inl (by simp only [after, available_ready h])

/-- **A byte stays in front through a history** in which nothing is read. -/
theorem head?_play {later history : List Act} (h : (play history).pending.head? = some b)
    (hlater : .read ∉ later) : (play (later ++ history)).pending.head? = some b := by
  induction later with
  | nil => exact h
  | cons a later ih =>
    rw [List.mem_cons, not_or] at hlater
    exact head?_after (ih hlater.2) fun ha => hlater.1 ha.symm

/-- **Looking at a byte is not noticed**, whatever comes later. -/
theorem answer_play_peek {history : List Act} (h : (play history).ready.pending ≠ [])
    (later : List Act) (a : Act) :
    (play (later ++ .peek :: history)).answer a = (play (later ++ history)).answer a := by
  have hlater : play (later ++ .peek :: history) = play (later ++ history)
      ∨ play (later ++ .peek :: history) = (play (later ++ history)).ready
        ∧ (play (later ++ history)).ready.pending ≠ [] := by
    induction later with
    | nil => exact .inr ⟨rfl, h⟩
    | cons c later ih =>
      rcases ih with hsame | ⟨hready, hpending⟩
      · exact .inl (congrArg (·.after c) hsame)
      · rw [List.cons_append, List.cons_append, play, play, hready]
        exact after_ready hpending c
  rcases hlater with hsame | ⟨hready, hpending⟩
  · rw [hsame]
  · rw [hready, answer_ready hpending]

end

/-- **What was sent first is found first.** In every history, the bytes read are the
first of the bytes sent. A byte looked at is the byte that is read next, and whoever looked
is not found out by any answer. The end is found when all that was sent in front of the
first one has been read, or when no writer is left and all has been. And nothing is found
exactly when all bytes have been read, no end was sent, and a writer is left. -/
theorem first_in_first_out {history : List Act} (h : Allowed history) :
    consumed history <+: (sent history).reduceOption
    ∧ (∀ b, (play history).answer .peek = .found (.byte b) → ∀ later,
        (.read ∉ later → (play (later ++ .peek :: history)).answer .read = .found (.byte b))
        ∧ ∀ a, (play (later ++ .peek :: history)).answer a = (play (later ++ history)).answer a)
    ∧ ∀ a : Act, a.Asks →
      ((play history).answer a = .found .eof →
        beforeEnd (sent history) <+: consumed history
        ∧ (none ∈ sent history
          ∨ (∀ w, (play history).hasWriter w = false)
            ∧ consumed history = (sent history).reduceOption))
      ∧ ((play history).answer a = .found .expired ↔
        consumed history = (sent history).reduceOption ∧ none ∉ sent history
          ∧ ∃ w, (play history).hasWriter w = true) := by
  have haccount := Account.of_allowed h
  refine ⟨?_, fun b hpeek => ?_, fun a ha => ?_⟩
  · rw [← haccount.all, List.append_assoc]
    exact List.prefix_append _ _
  · rw [answer_of_asks (.inr rfl), Answer.found.injEq, front_eq_byte_iff] at hpeek
    have hpending : (play history).ready.pending ≠ [] := by
      intro hnil
      rw [hnil] at hpeek
      cases hpeek
    refine fun later => ⟨fun hlater => ?_, answer_play_peek hpending later⟩
    have hhead : (play (later ++ .peek :: history)).pending.head? = some b :=
      head?_play hpeek hlater
    rw [answer_of_asks (.inl rfl), ready_of_pending, front_eq_byte_iff.2 hhead]
    intro hnil
    rw [hnil] at hhead
    cases hhead
  · rw [answer_of_asks ha, Answer.found.injEq, Answer.found.injEq]
    exact ⟨haccount.front_eof, haccount.front_expired_iff⟩

/-- A byte sent behind the end is read all the same when it has been counted. -/
theorem first_in_first_out_counted :
    let history : List Act := [.read, .read, .available, .write 0 [0x62], .close 0,
      .write 1 [0x61], .clone 0]
    Allowed history ∧ consumed history = [0x61, 0x62]
      ∧ consumed history <+: (sent history).reduceOption := by
  intro history
  have h : Allowed history := by decide
  exact ⟨h, rfl, (first_in_first_out h).1⟩

end Queue

end Teletype
