import Teletype.Proofs.Queue.Alike

/-!
# Counting leaves traces

Whoever reads stops at an end. Whoever counts does not: all packets are taken out of the
channel, also those behind an end, and their bytes are pending from then on. So a reader who
counts may find bytes that it would not have found otherwise, even behind an end that it has
found before.

What a reader finds is determined by what was sent and what was read, as long as no byte from
behind an end gets in between (`Account.front_eq_due`). Bytes that are found in front of the
first end are found in any case, with the counts or without. So **counting goes unnoticed
exactly when every byte found was sent in front of the first end**
(`readings_uncounted_eq_iff`), and it does when there is no byte behind an end to be taken out.
-/

namespace Teletype

namespace Queue

/-! ## What is behind an end -/

/-- **The bytes behind the first end.** -/
def behindEnd : List (Option UInt8) → List UInt8
  | [] => []
  | none :: rest => rest.reduceOption
  | some _ :: rest => behindEnd rest

/-- **The bytes in the channel that no read comes upon**, since an end is in front of them or
has been met. -/
def hidden (q : Queue) : List UInt8 :=
  if q.ended then q.stream.reduceOption else behindEnd q.stream

section

variable {units more : List (Option UInt8)}

theorem beforeEnd_append_behindEnd (units : List (Option UInt8)) :
    beforeEnd units ++ behindEnd units = units.reduceOption := by
  induction units with
  | nil => rfl
  | cons u units ih =>
    cases u with
    | none => rfl
    | some b => exact congrArg (b :: ·) ih

/-- What is sent later takes nothing away from what is in front of the first end. -/
theorem beforeEnd_isPrefix_append (units more : List (Option UInt8)) :
    beforeEnd units <+: beforeEnd (units ++ more) := by
  by_cases h : none ∈ units
  · exact beforeEnd_append h ▸ List.prefix_refl _
  · rw [beforeEnd_append_of_not_mem h]
    exact List.prefix_append _ _

end

/-! ## What a reader finds -/

/-- What was found, by an answer that says so. -/
def Answer.reading? : Answer → Option Reading
  | found r => .some r
  | _ => .none

/-- **What was found** by the reads and the looks of a history, in order. -/
def readings : List Act → List Reading
  | [] => []
  | a :: earlier => readings earlier ++ ((play earlier).answer a).reading?.toList

/-- **A history without its counts.** -/
def uncounted (history : List Act) : List Act := history.filter (· ≠ .available)

/-- **Every byte found was sent in front of the first end.** Bytes are found in the order in
which they were sent, so it is the number of those read that tells where a byte was sent. -/
def Timely : List Act → Prop
  | [] => True
  | a :: earlier =>
    Timely earlier ∧ ∀ b, (play earlier).answer a = .found (.byte b) →
      (consumed earlier).length < (beforeEnd (sent earlier)).length

/-- **Whenever bytes were counted, none was hidden behind an end.** -/
def ClearCounts : List Act → Prop
  | [] => True
  | a :: earlier => ClearCounts earlier ∧ (a = .available → (play earlier).hidden = [])

instance : (history : List Act) → Decidable (ClearCounts history)
  | [] => inferInstanceAs (Decidable True)
  | a :: earlier =>
    let _ : Decidable (ClearCounts earlier) := instDecidableClearCounts earlier
    inferInstanceAs (Decidable (ClearCounts earlier ∧ (a = .available → _)))

/-- **What a read should find**, from what was sent, what was read, and whether a writer is
left. -/
def due (sent : List (Option UInt8)) (read : List UInt8) (writers : List Bool) : Reading :=
  match (beforeEnd sent).drop read.length with
  | b :: _ => .byte b
  | [] => if none ∈ sent ∨ writers.all (!·) then .eof else .expired

section

variable {p q : Queue} {sent more : List (Option UInt8)} {read : List UInt8} {b : UInt8} {a : Act}
  {history earlier : List Act}

/-- Only who asks finds something. -/
theorem asks_or_reading?_eq_none (a : Act) :
    a.Asks ∨ a ≠ .read ∧ ∀ q : Queue, (q.answer a).reading? = none := by
  cases a with
  | read => exact .inl (.inl rfl)
  | peek => exact .inl (.inr rfl)
  | _ => exact .inr ⟨nofun, fun _ => rfl⟩

/-- **A read finds what it should**, unless that would be a byte from behind an end. -/
theorem Account.front_eq_due (h : Account sent read q) (hread : read <+: beforeEnd sent)
    (htimely : ∀ b, q.ready.front = .byte b → read.length < (beforeEnd sent).length) :
    q.ready.front = due sent read q.writers := by
  obtain ⟨rest, hrest⟩ := hread
  have hdrop : (beforeEnd sent).drop read.length = rest := by rw [← hrest, List.drop_left]
  unfold due
  rw [hdrop]
  cases hfront : q.ready.front with
  | byte b =>
    obtain ⟨pending, hpending⟩ := List.head?_eq_some_iff.1 (front_eq_byte_iff.1 hfront)
    have hall := h.ready.all
    rw [hpending, ← beforeEnd_append_behindEnd sent, ← hrest, List.append_assoc, List.append_assoc,
      List.append_cancel_left_eq] at hall
    cases rest with
    | nil =>
      rw [List.append_nil] at hrest
      exact absurd (hrest ▸ htimely b hfront) (Nat.lt_irrefl _)
    | cons c rest => rw [(List.cons.inj hall).1]
  | eof =>
    obtain ⟨hbefore, hcause⟩ := h.front_eof hfront
    have hnil : rest = [] := by
      have hlength := hbefore.length_le
      rw [← hrest, List.length_append] at hlength
      exact List.length_eq_zero_iff.1 (by omega)
    subst hnil
    refine (if_pos ?_).symm
    exact hcause.imp_right fun hnone => all_writers_iff.2 hnone.1
  | expired =>
    obtain ⟨hall, hsent, w, hw⟩ := h.front_expired_iff.1 hfront
    have hnil : rest = [] := by
      rw [beforeEnd_of_not_mem hsent, ← hall] at hrest
      exact List.append_right_eq_self.1 hrest
    subst hnil
    refine (if_neg ?_).symm
    rintro (hmem | hnone)
    · exact hsent hmem
    · exact Bool.false_ne_true ((all_writers_iff.1 hnone w).symm.trans hw)

theorem length_consumed_le (h : Timely history) :
    (consumed history).length ≤ (beforeEnd (Queue.sent history)).length := by
  induction history with
  | nil => exact Nat.zero_le _
  | cons a earlier ih =>
    have hgrows := (beforeEnd_isPrefix_append (Queue.sent earlier) a.units).length_le
    have hyield : ((play earlier).yield a).length = 0 ∨
        (((play earlier).yield a).length = 1
          ∧ ∃ b, (play earlier).answer a = .found (.byte b)) := by
      cases a with
      | read =>
        simp only [yield, answer]
        cases (play earlier).read.1 <;> simp [Reading.byte?]
      | _ => exact .inl rfl
    rw [consumed, List.length_append, Queue.sent]
    rcases hyield with hyield | ⟨hyield, b, hb⟩
    · have := ih h.1
      omega
    · have := h.2 b hb
      omega

/-- **What was read was sent in front of the first end**, if every byte found was. -/
theorem Timely.consumed_isPrefix (h : Allowed history) (htimely : Timely history) :
    consumed history <+: beforeEnd (Queue.sent history) := by
  refine List.prefix_of_prefix_length_le ?_ (beforeEnd_isPrefix _) (length_consumed_le htimely)
  rw [← (Account.of_allowed h).all, List.append_assoc]
  exact List.prefix_append _ _

/-- **What was asked found what it should**, if every byte found was sent in front of the first
end. -/
theorem Timely.answer_eq_due (h : Allowed earlier) (ha : a.Asks) (htimely : Timely (a :: earlier)) :
    (play earlier).answer a
      = .found (due (Queue.sent earlier) (consumed earlier) (play earlier).writers) := by
  have hanswer := answer_of_asks (q := play earlier) ha
  rw [hanswer, (Account.of_allowed h).front_eq_due (htimely.1.consumed_isPrefix h)]
  intro b hb
  exact htimely.2 b (by rw [hanswer, hb])

/-! ## Without the counts -/

theorem uncounted_cons_available (history : List Act) :
    uncounted (.available :: history) = uncounted history := rfl

theorem uncounted_cons (ha : a ≠ .available) (history : List Act) :
    uncounted (a :: history) = a :: uncounted history :=
  List.filter_cons_of_pos (decide_eq_true ha)

/-- Counting sends nothing. -/
theorem sent_uncounted (history : List Act) :
    Queue.sent (uncounted history) = Queue.sent history := by
  induction history with
  | nil => rfl
  | cons a earlier ih =>
    by_cases ha : a = .available
    · rw [ha, uncounted_cons_available, ih]
      exact (List.append_nil _).symm
    · rw [uncounted_cons ha, Queue.sent, Queue.sent, ih]

/-- Which writers there are is up to the writers. -/
theorem writers_after (h : p.writers = q.writers) (a : Act) :
    (p.after a).writers = (q.after a).writers := by
  cases a with
  | write w content =>
    exact (writers_of_frame (p.frame_write content)).trans
      (h.trans (writers_of_frame (q.frame_write content)).symm)
  | close w =>
    exact (writers_of_frame p.frame_close).trans (h.trans (writers_of_frame q.frame_close).symm)
  | clone w => exact congrArg (· ++ [true]) h
  | drop w => exact congrArg (·.set w false) h
  | read => exact (ready_writers _).trans (h.trans (ready_writers _).symm)
  | peek => exact (ready_writers _).trans (h.trans (ready_writers _).symm)
  | available => exact h

theorem writers_uncounted (history : List Act) :
    (play (uncounted history)).writers = (play history).writers := by
  induction history with
  | nil => rfl
  | cons a earlier ih =>
    by_cases ha : a = .available
    · rw [ha, uncounted_cons_available, ih]
      rfl
    · rw [uncounted_cons ha, play, play]
      exact writers_after ih a

theorem allowed_uncounted (h : Allowed history) : Allowed (uncounted history) := by
  induction history with
  | nil => trivial
  | cons a earlier ih =>
    by_cases ha : a = .available
    · rw [ha, uncounted_cons_available]
      exact ih h.1
    · rw [uncounted_cons ha]
      refine ⟨ih h.1, fun w hw => ?_⟩
      rw [hasWriter, writers_uncounted]
      exact h.2 w hw

theorem clearCounts_uncounted (history : List Act) : ClearCounts (uncounted history) := by
  induction history with
  | nil => trivial
  | cons a earlier ih =>
    by_cases ha : a = .available
    · rw [ha, uncounted_cons_available]
      exact ih
    · rw [uncounted_cons ha]
      exact ⟨ih, fun h => absurd h ha⟩

/-! ## Counting when nothing is hidden -/

/-- **Bytes pending are in front of the first end**, when the queue is made ready for a read, -/
theorem isPrefix_ready (h : Account sent read q) (hfront : read ++ q.pending <+: beforeEnd sent) :
    read ++ q.ready.pending <+: beforeEnd sent := by
  cases hready : q.ready.ended with
  | false =>
    rw [← h.ready.going hready, beforeEnd_map_append]
    exact List.prefix_append _ _
  | true =>
    cases hended : q.ended with
    | true => rwa [ready_of_ended hended]
    | false =>
      rw [pending_ready hended hready, List.append_nil]
      exact (List.prefix_append _ _).trans hfront

/-- and when they are counted while none is hidden. -/
theorem isPrefix_available (h : Account sent read q) (hclear : q.hidden = [])
    (hfront : read ++ q.pending <+: beforeEnd sent) :
    read ++ q.available.2.pending <+: beforeEnd sent := by
  show read ++ (q.pending ++ q.channel.flatMap Packet.content) <+: beforeEnd sent
  rw [flatMap_content]
  show read ++ (q.pending ++ q.stream.reduceOption) <+: beforeEnd sent
  unfold hidden at hclear
  cases hended : q.ended with
  | true =>
    rw [hended, if_pos rfl] at hclear
    rwa [hclear, List.append_nil]
  | false =>
    rw [hended, if_neg Bool.false_ne_true] at hclear
    have hall : beforeEnd sent = read ++ (q.pending ++ q.stream.reduceOption) := by
      rw [← beforeEnd_append_behindEnd, hclear, List.append_nil, ← List.append_assoc,
        ← h.going hended, beforeEnd_map_append]
    exact hall ▸ List.prefix_refl _

/-- **No byte from behind an end gets among those pending**, when none was hidden at any count. -/
theorem ClearCounts.isPrefix (h : Allowed history) (hclear : ClearCounts history) :
    consumed history ++ (play history).pending <+: beforeEnd (Queue.sent history) := by
  induction history with
  | nil => exact List.prefix_refl _
  | cons a earlier ih =>
    have hfront := ih h.1 hclear.1
    have haccount := Account.of_allowed h.1
    -- what an act sends leaves the bytes in front of the first end where they are
    refine List.IsPrefix.trans ?_ (beforeEnd_isPrefix_append (Queue.sent earlier) a.units)
    have hkept : ∀ {p : Queue}, p.pending = (play earlier).pending →
        consumed earlier ++ [] ++ p.pending <+: beforeEnd (Queue.sent earlier) := by
      intro p hp
      rwa [hp, List.append_nil]
    cases a with
    | write w content => exact hkept (pending_of_frame (frame_write ..))
    | close w => exact hkept (pending_of_frame (frame_close _))
    | clone w => exact hkept rfl
    | drop w => exact hkept rfl
    | read =>
      refine List.IsPrefix.trans ?_ (isPrefix_ready haccount hfront)
      show consumed earlier ++ (play earlier).ready.front.byte?.toList
        ++ (play earlier).ready.pending.tail <+: _
      rw [List.append_assoc]
      refine (List.prefix_append_right_inj _).2 ?_
      unfold front
      cases (play earlier).ready.pending with
      | nil => cases (play earlier).ready.ended <;> exact List.prefix_refl _
      | cons b bytes => exact List.prefix_refl _
    | peek =>
      show consumed earlier ++ [] ++ (play earlier).ready.pending <+: _
      rw [List.append_nil]
      exact isPrefix_ready haccount hfront
    | available =>
      show consumed earlier ++ [] ++ (play earlier).available.2.pending <+: _
      rw [List.append_nil]
      exact isPrefix_available haccount (hclear.2 rfl) hfront

/-- **So every byte found was sent in front of the first end.** -/
theorem ClearCounts.timely (h : Allowed history) (hclear : ClearCounts history) :
    Timely history := by
  induction history with
  | nil => trivial
  | cons a earlier ih =>
    refine ⟨ih h.1 hclear.1, fun b hb => ?_⟩
    have ha : a.Asks := by cases a <;> first | exact .inl rfl | exact .inr rfl | cases hb
    rw [answer_of_asks ha, Answer.found.injEq, front_eq_byte_iff] at hb
    have hfront := (isPrefix_ready (Account.of_allowed h.1) (hclear.1.isPrefix h.1)).length_le
    have hpending : 0 < (play earlier).ready.pending.length := by
      obtain ⟨rest, hrest⟩ := List.head?_eq_some_iff.1 hb
      rw [hrest]
      exact Nat.succ_pos _
    rw [List.length_append] at hfront
    omega

/-! ## Whether counting is noticed -/

/-- Whoever asks is answered with what is due, and so with the same in both histories. -/
theorem answer_uncounted (h : Allowed (a :: earlier)) (ha : a.Asks)
    (htimely : Timely (a :: earlier))
    (hconsumed : consumed (uncounted earlier) = consumed earlier) :
    (play (uncounted earlier)).answer a = (play earlier).answer a := by
  have hne : a ≠ .available := by rcases ha with rfl | rfl <;> nofun
  have hallowed := allowed_uncounted h
  have htimely' := (clearCounts_uncounted (a :: earlier)).timely hallowed
  rw [uncounted_cons hne] at hallowed htimely'
  rw [htimely.answer_eq_due h.1 ha, htimely'.answer_eq_due hallowed.1 ha, sent_uncounted,
    writers_uncounted, hconsumed]

theorem yield_of_answer (h : p.answer .read = q.answer .read) : p.yield .read = q.yield .read := by
  rw [answer, answer, Answer.found.injEq] at h
  rw [yield, yield, h]

/-- **Where every byte found was sent in front of the first end, the counts make no
difference** to what is read and found. -/
theorem Timely.uncounted (h : Allowed history) (htimely : Timely history) :
    consumed (uncounted history) = consumed history
      ∧ readings (Queue.uncounted history) = readings history := by
  induction history with
  | nil => exact ⟨rfl, rfl⟩
  | cons a earlier ih =>
    obtain ⟨hconsumed, hreadings⟩ := ih h.1 htimely.1
    rcases asks_or_reading?_eq_none a with ha | ⟨hread, hnone⟩
    · have hne : a ≠ .available := by rcases ha with rfl | rfl <;> nofun
      have hanswer := answer_uncounted h ha htimely hconsumed
      rw [uncounted_cons hne, consumed, consumed, readings, readings, hconsumed, hreadings, hanswer]
      refine ⟨?_, rfl⟩
      rcases ha with rfl | rfl
      · rw [yield_of_answer hanswer]
      · rfl
    · have hyield : ∀ q : Queue, q.yield a = [] := by
        intro q
        cases a with
        | read => exact absurd rfl hread
        | _ => rfl
      have hearlier : consumed (a :: earlier) = consumed earlier
          ∧ readings (a :: earlier) = readings earlier := by
        rw [consumed, readings, hyield, hnone]
        exact ⟨List.append_nil _, List.append_nil _⟩
      rw [hearlier.1, hearlier.2]
      by_cases hne : a = .available
      · rw [hne, uncounted_cons_available]
        exact ⟨hconsumed, hreadings⟩
      · rw [uncounted_cons hne, consumed, readings, hyield, hnone, hconsumed, hreadings]
        exact ⟨List.append_nil _, List.append_nil _⟩

/-- **Where the counts make no difference, every byte found was sent in front of the first
end.** -/
theorem timely_of_readings (h : Allowed history)
    (heq : readings (uncounted history) = readings history) : Timely history := by
  induction history with
  | nil => trivial
  | cons a earlier ih =>
    rcases asks_or_reading?_eq_none a with ha | ⟨-, hnone⟩
    · have hne : a ≠ .available := by rcases ha with rfl | rfl <;> nofun
      have hallowed := allowed_uncounted h
      have htimely' := (clearCounts_uncounted (a :: earlier)).timely hallowed
      rw [uncounted_cons hne] at hallowed htimely' heq
      rw [readings, readings, answer_of_asks ha, answer_of_asks ha] at heq
      obtain ⟨hreadings, hfront⟩ := List.append_inj' heq rfl
      have htimely := ih h.1 hreadings
      refine ⟨htimely, fun b hb => ?_⟩
      rw [← sent_uncounted, ← (htimely.uncounted h.1).1]
      refine htimely'.2 b ?_
      rw [← hb, answer_of_asks ha, answer_of_asks ha, (List.cons.inj hfront).1]
    · have hquiet : ∀ history, readings (a :: history) = readings history := fun history => by
        rw [readings, hnone]
        exact List.append_nil _
      rw [hquiet] at heq
      refine ⟨ih h.1 ?_, fun b hb => ?_⟩
      · by_cases hne : a = .available
        · rwa [hne, uncounted_cons_available] at heq
        · rwa [uncounted_cons hne, hquiet] at heq
      · have hnone := hnone (play earlier)
        rw [hb] at hnone
        cases hnone

/-! ## Once the end has been found -/

/-- A queue at its end is left at its end by everyone but who counts. -/
theorem front_after (h : q.front = .eof) (ha : a ≠ .available) : (q.after a).front = .eof := by
  obtain ⟨hpending, hended⟩ := front_eq_eof_iff.1 h
  have hframe : ∀ {p : Queue}, p.frame = q.frame → p.front = .eof := fun hp =>
    front_eq_eof_iff.2 ⟨(pending_of_frame hp).trans hpending, (ended_of_frame hp).trans hended⟩
  cases a with
  | write w content => exact hframe (q.frame_write content)
  | close w => exact hframe q.frame_close
  | clone w => exact h
  | drop w => exact h
  | read =>
    rw [after, Queue.read, ready_of_ended hended, front_eq_eof_iff, hpending]
    exact ⟨rfl, hended⟩
  | peek =>
    rw [after, peek, ready_of_ended hended]
    exact h
  | available => exact absurd rfl ha

/-- Whoever finds the end leaves the queue at its end. -/
theorem front_after_of_answer (h : q.answer a = .found .eof) : (q.after a).front = .eof := by
  rcases asks_or_reading?_eq_none a with ha | ⟨-, hnone⟩
  · rw [answer_of_asks ha, Answer.found.injEq] at h
    rcases ha with rfl | rfl
    · obtain ⟨hpending, hended⟩ := front_eq_eof_iff.1 h
      rw [after, Queue.read, front_eq_eof_iff, hpending]
      exact ⟨rfl, hended⟩
    · exact h
  · have hnone := hnone q
    rw [h] at hnone
    cases hnone

/-- **At a queue at its end, the end is found.** -/
theorem reading?_of_front (h : q.front = .eof) {r : Reading} (hr : (q.answer a).reading? = some r) :
    r = .eof := by
  rcases asks_or_reading?_eq_none a with ha | ⟨-, hnone⟩
  · rw [answer_of_asks ha, ready_of_ended (front_eq_eof_iff.1 h).2, h] at hr
    exact (Option.some.inj hr).symm
  · rw [hnone] at hr
    cases hr

theorem front_play (h : .available ∉ history) (heof : .eof ∈ readings history) :
    (play history).front = .eof := by
  induction history with
  | nil => cases heof
  | cons a earlier ih =>
    rw [List.mem_cons, not_or] at h
    rw [readings, List.mem_append] at heof
    rcases heof with heof | heof
    · exact front_after (ih h.2 heof) fun ha => h.1 ha.symm
    · refine front_after_of_answer ?_
      rw [Option.mem_toList] at heof
      cases hanswer : (play earlier).answer a with
      | found r =>
        rw [hanswer] at heof
        rw [Option.some.inj heof]
      | _ =>
        rw [hanswer] at heof
        cases heof

/-- **Without counts, the end is found ever after.** -/
theorem pairwise_readings (h : .available ∉ history) :
    (readings history).Pairwise fun r later => r = .eof → later = .eof := by
  induction history with
  | nil => exact List.Pairwise.nil
  | cons a earlier ih =>
    rw [List.mem_cons, not_or] at h
    rw [readings, List.pairwise_append]
    refine ⟨ih h.2, ?_, fun r hr later hlater heof => ?_⟩
    · cases ((play earlier).answer a).reading? with
      | none => exact List.Pairwise.nil
      | some r => exact List.pairwise_singleton _ r
    · rw [heof] at hr
      exact reading?_of_front (front_play h.2 hr) (Option.mem_toList.1 hlater)

end

/-- **Counting goes unnoticed exactly when every byte found was sent in front of the first end.**
Let any counts be left out of a history. What its reads and looks find is the same then if and
only if no byte among it was sent behind an end. In that case the end, once it was found, is
found ever after. And it is the case when no byte was hidden behind an end in the channel
whenever bytes were counted. -/
theorem readings_uncounted_eq_iff {history : List Act} (h : Allowed history) :
    (readings (uncounted history) = readings history ↔ Timely history)
    ∧ (Timely history → (readings history).Pairwise fun r later => r = .eof → later = .eof)
    ∧ (ClearCounts history → Timely history) := by
  refine ⟨⟨timely_of_readings h, fun htimely => (htimely.uncounted h).2⟩, fun htimely => ?_,
    fun hclear => hclear.timely h⟩
  rw [← (htimely.uncounted h).2]
  refine pairwise_readings fun hmem => ?_
  exact of_decide_eq_true (List.mem_filter.1 hmem).2 rfl

/-- Two writers, one of whom announces the end, and counts before and after it. -/
theorem readings_uncounted_twoWriters :
    let history : List Act := [.peek, .available, .read, .available, .close 1, .write 0 [0x62],
      .read, .available, .write 1 [0x61], .clone 0]
    Allowed history ∧ ClearCounts history
      ∧ readings (uncounted history) = readings history
      ∧ readings history = [.byte 0x61, .byte 0x62, .eof] := by
  intro history
  have h : Allowed history := by decide
  have hclear : ClearCounts history := by decide
  obtain ⟨hiff, -, htimely⟩ := readings_uncounted_eq_iff h
  exact ⟨h, hclear, hiff.2 (htimely hclear), by decide⟩

/-- **Counting is noticed** when a byte is hidden behind an end: it is read where the end would
have been found, and even where it has been found. -/
theorem readings_counted_ne :
    let write : List Act := [.write 0 [0x62], .close 0, .write 0 [0x61]]
    let late : List Act := [.read, .available, .read, .read] ++ write
    let early : List Act := [.read, .read, .available] ++ write
    Allowed early ∧ Allowed late
      ∧ readings (uncounted early) = [.byte 0x61, .eof]
      ∧ readings early = [.byte 0x61, .byte 0x62]
      ∧ readings late = [.byte 0x61, .eof, .byte 0x62] := by
  decide

end Queue

end Teletype
