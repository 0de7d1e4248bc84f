import Teletype.Device.SharedBridge
import Teletype.Proofs.Queue.History
import Teletype.Proofs.Tty.Transparent

/-!
# The end of input overtakes the input

On a bridge the bytes go through the pseudoterminal, and the end of input goes round it:
it is a flag that the thread of the pump sets when it has typed everything, and that the
reader looks at before it turns to the pseudoterminal. Nothing is lost on the way.
**What has been read, what is pending, what has been typed, what the thread holds and what
has yet to be read from the stream are, one behind the other, what comes in**
(`Account.all`). But when the flag is found, nobody turns to the pseudoterminal any more,
and the bytes that wait there at that moment are never read: the end has overtaken them
(`Overtaken`). The whole input is read exactly when there are none (`reads_whole_iff`).
How many there are is up to chance: whatever comes in, the thread may be through before
anybody asks, and then nothing is read (`exists_readBeforeEnd_eq_nil`).

What is pending is looked at before the flag is. So looking ahead does no harm: the bytes
that it makes pending are read, whenever the flag is set.
-/

namespace Teletype

namespace SharedBridge

open Device

/-- **The bytes of a stream** in front of its end. A read that finds no bytes is an end,
and a failure is one, too. -/
def content : List Arrival → List UInt8
  | .bytes bytes :: rest => if bytes.isEmpty then [] else bytes ++ content rest
  | _ => []

/-- What an answer adds to the bytes read, and the ends found. -/
def units : Bool × Reading → List (Option UInt8)
  | (_, .eof) => [none]
  | (false, .byte b) => [some b]
  | _ => []

/-- **The bytes read before an end was found**, or all when none was. What was only looked
at does not count. -/
def readBeforeEnd (s : SharedBridge) : List UInt8 := Queue.beforeEnd (s.heard.flatMap units)

/-- **Whether an end was found.** -/
def HeardEnd (s : SharedBridge) : Prop := ∃ peek, (peek, Reading.eof) ∈ s.heard

/-- **Whether the end overtook something**: some look found the flag, with nothing pending,
while bytes waited in the pseudoterminal. -/
def Overtaken (start : SharedBridge) : List Act → Prop
  | [] => False
  | a :: earlier => Overtaken start earlier
      ∨ a = .look ∧ (play start earlier).reader.glance = some .eof
        ∧ (play start earlier).tty.buffer ≠ []

instance (start : SharedBridge) : (history : List Act) → Decidable (Overtaken start history)
  | [] => inferInstanceAs (Decidable False)
  | _ :: earlier =>
    let _ : Decidable (Overtaken start earlier) := instDecidableOvertaken start earlier
    inferInstanceAs (Decidable (_ ∨ _ = _ ∧ _ = _ ∧ _ ≠ _))

/-- What the thread holds, and what it has yet to read. -/
def left (s : SharedBridge) : List UInt8 :=
  match s.hand with
  | .free => content s.incoming
  | .full bytes => bytes ++ content s.incoming
  | .ended | .over => []

section

variable {s : SharedBridge} {whole bytes : List UInt8} {b : UInt8} {reading : Reading}
  {incoming arrivals : List Arrival} {peek : Bool} {n : Nat} {tty : Tty} {history : List Act}

/-! ## What a read of the stream takes -/

theorem content_of_bytes (h : takeArrival arrivals = some (some bytes, incoming)) :
    content arrivals = bytes ++ content incoming := by
  obtain ⟨front, rest, rfl, hfront, rfl, rfl⟩ := takeArrival_cases h
  rw [content, if_neg (by simpa using hfront)]
  split
  · next hdrop =>
    rw [List.isEmpty_iff, List.drop_eq_nil_iff] at hdrop
    rw [List.take_of_length_le hdrop]
  · next hdrop =>
    rw [content, if_neg hdrop, ← List.append_assoc, List.take_append_drop]

theorem content_of_end (h : takeArrival arrivals = some (none, incoming)) :
    content arrivals = [] := by
  cases arrivals with
  | nil => rfl
  | cons arrival rest =>
    cases arrival with
    | ended => rfl
    | failed => rfl
    | bytes front =>
      rw [takeArrival, Option.some.injEq, Prod.mk.injEq] at h
      split at h
      · next hempty => rw [content, if_pos hempty]
      · cases h.1

/-! ## What an answer adds -/

theorem none_mem_units_iff {answer : Bool × Reading} :
    none ∈ units answer ↔ answer.2 = .eof := by
  rcases answer with ⟨peek, b | - | -⟩ <;> cases peek <;> simp [units]

theorem none_mem_flatMap_units_iff : none ∈ s.heard.flatMap units ↔ s.HeardEnd := by
  rw [List.mem_flatMap]
  constructor
  · rintro ⟨⟨peek, reading⟩, hmem, hend⟩
    obtain rfl : reading = .eof := none_mem_units_iff.1 hend
    exact ⟨peek, hmem⟩
  · rintro ⟨peek, hmem⟩
    exact ⟨_, hmem, none_mem_units_iff.2 rfl⟩

/-- An end has been found before, or just now. -/
theorem exists_mem_concat_iff {heard : List (Bool × Reading)} :
    (∃ peek', (peek', Reading.eof) ∈ heard ++ [(peek, reading)])
      ↔ (∃ peek', (peek', Reading.eof) ∈ heard) ∨ reading = .eof := by
  simp only [List.mem_append, List.mem_singleton, Prod.mk.injEq, exists_or]
  refine or_congr_right ⟨?_, ?_⟩
  · rintro ⟨-, -, hend⟩
    exact hend.symm
  · rintro rfl
    exact ⟨peek, rfl, rfl⟩

/-- The first end is found once. -/
theorem beforeEnd_concat_of_heardEnd (h : s.HeardEnd) (answer : Bool × Reading) :
    Queue.beforeEnd ((s.heard ++ [answer]).flatMap units) = s.readBeforeEnd := by
  rw [List.flatMap_append]
  exact Queue.beforeEnd_append (none_mem_flatMap_units_iff.2 h)

theorem beforeEnd_concat (h : ¬ s.HeardEnd) (answer : Bool × Reading) :
    Queue.beforeEnd ((s.heard ++ [answer]).flatMap units)
      = s.readBeforeEnd ++ Queue.beforeEnd (units answer) := by
  rw [List.flatMap_append, Queue.beforeEnd_append_of_not_mem (none_mem_flatMap_units_iff.not.2 h),
    List.flatMap_singleton]
  rfl

/-- An answer that is no byte adds none. -/
theorem beforeEnd_concat_of_byte?_eq_none (h : reading.byte? = none) (peek : Bool) :
    Queue.beforeEnd ((s.heard ++ [(peek, reading)]).flatMap units) = s.readBeforeEnd := by
  by_cases hend : s.HeardEnd
  · exact beforeEnd_concat_of_heardEnd hend _
  · rw [beforeEnd_concat hend]
    cases reading with
    | byte b => cases h
    | expired => cases peek <;> exact List.append_nil _
    | eof => exact List.append_nil _

/-- What is answered is taken from what is pending, or stays there. -/
theorem beforeEnd_units_append_pending {r : PolledReader} (h : r.pending.head? = some b)
    (peek : Bool) :
    Queue.beforeEnd (units (peek, .byte b)) ++ (r.answered peek).pending = r.pending := by
  obtain ⟨rest, hpending⟩ := List.head?_eq_some_iff.1 h
  cases peek with
  | true => rfl
  | false => exact (congrArg (b :: ·) (congrArg List.tail hpending)).trans hpending.symm

/-! ## Where the bytes are -/

/-- **Where the bytes are** that come in. -/
structure Account (whole : List UInt8) (s : SharedBridge) : Prop where
  /-- Bytes go through the pseudoterminal as they are. -/
  transparent : s.tty.Transparent
  /-- They have been read, or are pending, or have been typed, or are yet to be. -/
  all : s.readBeforeEnd ++ s.reader.pending ++ s.tty.bytes ++ s.left = whole
  /-- The flag is set last. -/
  flag : s.reader.closed = true → s.hand = .over
  /-- Once an end was found, nobody turns to the pseudoterminal. -/
  quiet : s.HeardEnd →
    s.reader.closed = true ∧ s.reader.pending = [] ∧ ∀ peek, s.call ≠ .waiting peek

namespace Account

theorem initial (htty : tty.Transparent) (hempty : tty.buffer = []) (arrivals : List Arrival) :
    Account (content arrivals) (new tty arrivals) where
  transparent := htty
  all := by
    rw [show (new tty arrivals).tty.bytes = [] from Tty.bytes_eq_nil_iff.2 hempty]
    rfl
  flag h := by cases h
  quiet h := by
    obtain ⟨peek, hmem⟩ := h
    cases hmem

/-- As long as the thread is not through, no end was found. -/
theorem not_heardEnd_of_hand (h : Account whole s) (hhand : s.hand ≠ .over) : ¬ s.HeardEnd :=
  fun hend => hhand (h.flag (h.quiet hend).1)

theorem not_heardEnd_of_waiting (h : Account whole s) (hcall : s.call = .waiting peek) :
    ¬ s.HeardEnd :=
  fun hend => (h.quiet hend).2.2 peek hcall

/-! ### The thread -/

/-- **As long as the thread is not through** the flag is not set and no end was found. So
it is enough that no byte is lost. -/
theorem of_busy (h : Account whole s) (hhand : s.hand ≠ .over) {t : SharedBridge}
    (htty : t.tty.Transparent) (hreader : t.reader = s.reader) (hheard : t.heard = s.heard)
    (hall : s.readBeforeEnd ++ s.reader.pending ++ t.tty.bytes ++ t.left = whole) :
    Account whole t where
  transparent := htty
  all := by
    rwa [readBeforeEnd, hheard, hreader]
  flag hset := absurd (h.flag (hreader ▸ hset)) hhand
  quiet hend := by
    rw [HeardEnd, hheard] at hend
    exact absurd hend (h.not_heardEnd_of_hand hhand)

/-- **The thread reads.** -/
theorem take (h : Account whole s) (hfree : s.hand = .free)
    (hsome : (takeArrival s.incoming).isSome = true) : Account whole s.taken := by
  have hleft : s.left = content s.incoming := by rw [left, hfree]
  have hall := h.all
  rw [hleft] at hall
  obtain ⟨⟨reading, incoming⟩, htake⟩ := Option.isSome_iff_exists.1 hsome
  cases reading with
  | some bytes =>
    rw [taken_of_bytes htake]
    rw [content_of_bytes htake] at hall
    exact h.of_busy (by simp [hfree]) h.transparent rfl rfl hall
  | none =>
    rw [taken_of_end htake]
    rw [content_of_end htake] at hall
    exact h.of_busy (by simp [hfree]) h.transparent rfl rfl hall

/-- **The thread types.** What it has typed comes behind what was typed before. -/
theorem type (h : Account whole s) (hfull : s.hand = .full bytes) (n : Nat) :
    Account whole (s.typed n) := by
  have hleft : s.left = bytes ++ content s.incoming := by rw [left, hfull]
  have hrest : (s.typed n).left = bytes.drop n ++ content s.incoming := by
    rw [typed_of_full hfull]
    unfold left
    by_cases hdrop : bytes.drop n = [] <;> simp [hdrop]
  have htyped : (s.typed n).tty = s.tty.write (bytes.take n) :=
    congrArg (·.tty) (typed_of_full hfull n)
  have hreader : (s.typed n).reader = s.reader := congrArg (·.reader) (typed_of_full hfull n)
  have hheard : (s.typed n).heard = s.heard := congrArg (·.heard) (typed_of_full hfull n)
  refine h.of_busy (by simp [hfull]) ?_ hreader hheard ?_
  · rw [htyped]
    exact h.transparent.of_write _
  · rw [hrest, htyped, h.transparent.bytes_write, ← h.all, hleft]
    simp only [List.append_assoc]
    rw [← List.append_assoc (bytes.take n), List.take_append_drop]

/-- **The thread sets the flag.** It has nothing left then. -/
theorem shut (h : Account whole s) (hended : s.hand = .ended) : Account whole s.shut := by
  have hleft : s.left = [] := by rw [left, hended]
  have hall := h.all
  rw [hleft] at hall
  exact ⟨h.transparent, hall, fun _ => rfl,
    fun hend => absurd hend (h.not_heardEnd_of_hand (by simp [hended]))⟩

/-! ### The reader -/

/-- A call may begin, or go on, or be over, whatever has been found. -/
theorem setCall (h : Account whole s) {call : Call} (hcall : ∀ peek, call ≠ .waiting peek) :
    Account whole { s with call } where
  transparent := h.transparent
  all := h.all
  flag := h.flag
  quiet hend := ⟨(h.quiet hend).1, (h.quiet hend).2.1, hcall⟩

/-- The reader turns to the pseudoterminal when the flag is not set. -/
theorem wait (h : Account whole s) (hclosed : s.reader.closed = false) (call : Call) :
    Account whole { s with call } where
  transparent := h.transparent
  all := h.all
  flag := h.flag
  quiet hend := absurd (hclosed.symm.trans (h.quiet hend).1) (by simp)

/-- **A byte that is pending is read**, or looked at. -/
theorem told_byte (h : Account whole s) (hhead : s.reader.pending.head? = some b)
    (peek : Bool) : Account whole (s.told peek (.byte b)) := by
  have hnot : ¬ s.HeardEnd := by
    intro hend
    rw [(h.quiet hend).2.1] at hhead
    cases hhead
  refine ⟨h.transparent, ?_, fun hset => h.flag ?_, fun hend => absurd ?_ hnot⟩
  · show Queue.beforeEnd ((s.heard ++ [(peek, Reading.byte b)]).flatMap units)
      ++ (s.reader.answered peek).pending ++ s.tty.bytes ++ s.left = whole
    rw [beforeEnd_concat hnot, List.append_assoc s.readBeforeEnd,
      beforeEnd_units_append_pending hhead]
    exact h.all
  · cases peek <;> exact hset
  · exact (exists_mem_concat_iff.1 hend).resolve_right (by simp)

/-- **The end is found**, with the flag set and nothing pending. -/
theorem told_eof (h : Account whole s) (hpending : s.reader.pending = [])
    (hclosed : s.reader.closed = true) (peek : Bool) : Account whole (s.told peek .eof) := by
  rw [told, PolledReader.answered_of_pending hpending]
  refine ⟨h.transparent, ?_, h.flag, fun _ => ⟨hclosed, hpending, fun _ => by simp⟩⟩
  have hnone : Reading.eof.byte? = none := rfl
  have hread := beforeEnd_concat_of_byte?_eq_none (s := s) hnone peek
  exact (congrArg (· ++ s.reader.pending ++ s.tty.bytes ++ s.left) hread).trans h.all

/-- **The reader looks** at what is pending, and at the flag. -/
theorem look (h : Account whole s) (hcall : s.call = .asked peek) : Account whole s.looked := by
  cases hglance : s.reader.glance with
  | some reading =>
    rw [looked_of_some hcall hglance]
    rcases PolledReader.glance_cases hglance with ⟨b, rfl, hhead⟩ | ⟨rfl, hpending, hclosed⟩
    · exact h.told_byte hhead peek
    · exact h.told_eof hpending hclosed peek
  | none =>
    rw [looked_of_none hcall hglance]
    exact h.wait (PolledReader.glance_eq_none_iff.1 hglance).2 _

/-- **The reader takes what there is.** What was typed first is pending then. -/
theorem fetch (h : Account whole s) (hcall : s.call = .waiting peek) (hn : 0 < n)
    (hreadable : s.tty.readable = true) : Account whole (s.fetched n) := by
  rw [fetched_of_ne_nil hcall (h.transparent.take_ne_nil hreadable hn)]
  refine ⟨h.transparent.of_take n, ?_, h.flag,
    fun hend => absurd hend (h.not_heardEnd_of_waiting hcall)⟩
  show s.readBeforeEnd ++ (s.reader.pending ++ (s.tty.take n).1) ++ (s.tty.take n).2.bytes
    ++ s.left = whole
  rw [← h.all, ← h.transparent.take_append_bytes n]
  simp only [List.append_assoc]

/-- The time is up. -/
theorem expire (h : Account whole s) (hcall : s.call = .waiting peek) :
    Account whole s.expired := by
  have hnone : Reading.expired.byte? = none := rfl
  have hread := beforeEnd_concat_of_byte?_eq_none (s := s) hnone peek
  rw [expired_of_waiting hcall]
  refine ⟨h.transparent, ?_, h.flag, fun hend => absurd ?_ (h.not_heardEnd_of_waiting hcall)⟩
  · exact (congrArg (· ++ s.reader.pending ++ s.tty.bytes ++ s.left) hread).trans h.all
  · exact (exists_mem_concat_iff.1 hend).resolve_right (by simp)

/-! ### Every history -/

/-- **No act loses a byte.** -/
theorem after (h : Account whole s) {a : Act} (ha : s.Enabled a) : Account whole (s.after a) := by
  cases a with
  | take => exact h.take ha.1 ha.2
  | type n =>
    obtain ⟨-, bytes, hfull⟩ := ha
    exact h.type hfull n
  | shut => exact h.shut ha
  | ask peek => exact h.setCall fun _ => by simp
  | look =>
    obtain ⟨peek, hcall⟩ := ha
    exact h.look hcall
  | fetch n =>
    obtain ⟨⟨hn, -, hreadable⟩, peek, hcall⟩ := ha
    exact h.fetch hcall hn hreadable
  | retry =>
    obtain ⟨peek, hcall⟩ := ha
    show Account whole s.retried
    rw [retried_of_waiting hcall]
    exact h.setCall fun _ => by simp
  | expire =>
    obtain ⟨peek, hcall⟩ := ha
    exact h.expire hcall

theorem of_allowed (htty : tty.Transparent) (hempty : tty.buffer = [])
    (h : Allowed (new tty arrivals) history) :
    Account (content arrivals) (play (new tty arrivals) history) := by
  induction history with
  | nil => exact initial htty hempty arrivals
  | cons a earlier ih => exact (ih h.1).after h.2

/-- **Once the end was found**, all that was not read has been typed. -/
theorem read_append_bytes (h : Account whole s) (hend : s.HeardEnd) :
    s.readBeforeEnd ++ s.tty.bytes = whole := by
  obtain ⟨hclosed, hpending, -⟩ := h.quiet hend
  have hleft : s.left = [] := by rw [left, h.flag hclosed]
  have hall := h.all
  rwa [hleft, hpending, List.append_nil, List.append_nil] at hall

/-! ### The moment of the end -/

/-- **It takes a look to find the end.** -/
theorem heardEnd_after_iff (h : Account whole s) {a : Act} (ha : s.Enabled a) :
    (s.after a).HeardEnd ↔ s.HeardEnd ∨ a = .look ∧ s.reader.glance = some .eof := by
  -- most acts answer nothing
  have hsame : ∀ {t : SharedBridge}, t.heard = s.heard → a ≠ .look →
      (t.HeardEnd ↔ s.HeardEnd ∨ a = .look ∧ s.reader.glance = some .eof) := by
    intro t ht hne
    rw [HeardEnd, ht, or_iff_left fun hlook => hne hlook.1]
    rfl
  cases a with
  | take =>
    obtain ⟨⟨reading, incoming⟩, htake⟩ := Option.isSome_iff_exists.1 ha.2
    refine hsame ?_ (by simp)
    cases reading with
    | some bytes => exact congrArg (·.heard) (taken_of_bytes htake)
    | none => exact congrArg (·.heard) (taken_of_end htake)
  | type n =>
    obtain ⟨-, bytes, hfull⟩ := ha
    exact hsame (congrArg (·.heard) (typed_of_full hfull n)) (by simp)
  | shut => exact hsame rfl (by simp)
  | ask peek => exact hsame rfl (by simp)
  | look =>
    obtain ⟨peek, hcall⟩ := ha
    show s.looked.HeardEnd ↔ _
    cases hglance : s.reader.glance with
    | some reading =>
      rw [looked_of_some hcall hglance]
      refine exists_mem_concat_iff.trans (or_congr_right ?_)
      simp
    | none =>
      rw [looked_of_none hcall hglance]
      exact (or_iff_left (by simp)).symm
  | fetch n =>
    obtain ⟨⟨hn, -, hreadable⟩, peek, hcall⟩ := ha
    have hfetched := fetched_of_ne_nil hcall (h.transparent.take_ne_nil hreadable hn)
    exact hsame (congrArg (·.heard) hfetched) (by simp)
  | retry =>
    obtain ⟨peek, hcall⟩ := ha
    exact hsame (congrArg (·.heard) (retried_of_waiting hcall)) (by simp)
  | expire =>
    obtain ⟨peek, hcall⟩ := ha
    show s.expired.HeardEnd ↔ _
    rw [expired_of_waiting hcall]
    refine exists_mem_concat_iff.trans (or_congr_right ?_)
    simp

/-- **From then on nothing is typed and nothing is taken.** -/
theorem tty_after (h : Account whole s) {a : Act} (ha : s.Enabled a)
    (hend : s.HeardEnd ∨ a = .look) : (s.after a).tty = s.tty := by
  -- a thread with something to do has not set the flag that was found
  have hover : ∀ {k : Hand}, s.hand = k → k ≠ .over → a ≠ .look → False := by
    intro k hhand hne hlook
    exact h.not_heardEnd_of_hand (hhand ▸ hne) (hend.resolve_right hlook)
  cases a with
  | take => exact (hover ha.1 (by simp) (by simp)).elim
  | type n =>
    obtain ⟨-, bytes, hfull⟩ := ha
    exact (hover hfull (by simp) (by simp)).elim
  | shut => rfl
  | ask peek => rfl
  | look =>
    obtain ⟨peek, hcall⟩ := ha
    show s.looked.tty = s.tty
    cases hglance : s.reader.glance with
    | some reading => rw [looked_of_some hcall hglance]; rfl
    | none => rw [looked_of_none hcall hglance]
  | fetch n =>
    obtain ⟨-, peek, hcall⟩ := ha
    exact absurd (hend.resolve_right (by simp)) (h.not_heardEnd_of_waiting hcall)
  | retry =>
    obtain ⟨peek, hcall⟩ := ha
    exact congrArg (·.tty) (retried_of_waiting hcall)
  | expire =>
    obtain ⟨peek, hcall⟩ := ha
    exact congrArg (·.tty) (expired_of_waiting hcall)

/-- **What waits when the end has been found was overtaken**, and still waits. -/
theorem overtaken_iff (htty : tty.Transparent) (hempty : tty.buffer = [])
    (h : Allowed (new tty arrivals) history) :
    Overtaken (new tty arrivals) history
      ↔ (play (new tty arrivals) history).HeardEnd
        ∧ (play (new tty arrivals) history).tty.buffer ≠ [] := by
  induction history with
  | nil =>
    refine iff_of_false id ?_
    rintro ⟨⟨peek, hmem⟩, -⟩
    cases hmem
  | cons a earlier ih =>
    have haccount := of_allowed htty hempty h.1
    rw [Overtaken, ih h.1, play, haccount.heardEnd_after_iff h.2, ← and_assoc, ← or_and_right]
    refine and_congr_right fun hend => ?_
    rw [haccount.tty_after h.2 (hend.imp_right And.left)]

end Account

/-- **What is read before the end of input.** When the end has been found, the bytes read
before it and those that wait in the pseudoterminal are the whole input. So the whole input
was read exactly when the end overtook nothing: no look found the flag while bytes waited
there. -/
theorem reads_whole_iff (htty : tty.Transparent) (hempty : tty.buffer = [])
    (h : Allowed (new tty arrivals) history) (hend : (play (new tty arrivals) history).HeardEnd) :
    let s := play (new tty arrivals) history
    s.readBeforeEnd ++ s.tty.bytes = content arrivals
    ∧ (s.readBeforeEnd = content arrivals ↔ ¬ Overtaken (new tty arrivals) history) := by
  intro s
  have hall : s.readBeforeEnd ++ s.tty.bytes = content arrivals :=
    (Account.of_allowed htty hempty h).read_append_bytes hend
  refine ⟨hall, ?_⟩
  rw [Account.overtaken_iff htty hempty h, not_and_not_right, ← hall]
  rw [List.self_eq_append_right, Tty.bytes_eq_nil_iff]
  exact ⟨fun hnothing _ => hnothing, fun hnothing => hnothing hend⟩

end

/-- All is read when the reader has looked at what was typed last before the flag is set. -/
theorem reads_whole_iff_ahead :
    let tty := ({} : Tty).setAttributes ({} : Tty).flags.makeRaw
    let arrivals : List Arrival := [.bytes [0x68], .bytes [0x69], .ended]
    let history : List Act := [.look, .ask true, .look, .ask false, .shut, .take, .look,
      .fetch 1024, .look, .ask true, .type 1, .take, .look, .fetch 1024, .look, .retry,
      .type 1, .look, .take, .ask false]
    tty.Transparent ∧ tty.buffer = [] ∧ Allowed (new tty arrivals) history
      ∧ (play (new tty arrivals) history).HeardEnd
      ∧ (play (new tty arrivals) history).readBeforeEnd = content arrivals := by
  intro tty arrivals history
  have hallowed : Allowed (new tty arrivals) history := by decide
  have hend : (play (new tty arrivals) history).HeardEnd := ⟨true, by decide⟩
  have hnothing : ¬ Overtaken (new tty arrivals) history := by decide
  have hiff := reads_whole_iff Tty.transparent_makeRaw (by decide) hallowed hend
  exact ⟨Tty.transparent_makeRaw, by decide, hallowed, hend, hiff.2.2 hnothing⟩

/-! ## How much may be lost -/

section

variable {s : SharedBridge} {bytes : List UInt8} {incoming arrivals : List Arrival}

/-- **A round of the thread**, with nothing in between: it reads and types what it read. -/
theorem round (hfree : s.hand = .free)
    (h : takeArrival s.incoming = some (some bytes, incoming)) :
    Allowed s [.type bytes.length, .take]
      ∧ play s [.type bytes.length, .take] = { s with incoming, tty := s.tty.write bytes } := by
  have htaken : s.taken = { s with incoming, hand := .full bytes } := taken_of_bytes h
  have hfull : (play s [.take]).hand = .full bytes := congrArg (·.hand) htaken
  have hpos : 0 < bytes.length := List.length_pos_iff.2 (ne_nil_of_takeArrival h)
  refine ⟨⟨⟨trivial, hfree, Option.isSome_iff_exists.2 ⟨_, h⟩⟩, hpos, bytes, hfull⟩, ?_⟩
  show (play s [.take]).typed bytes.length = _
  rw [typed_of_full hfull, List.take_length, List.drop_length]
  show { s.taken with tty := s.taken.tty.write bytes, hand := Hand.free } = _
  rw [htaken, ← hfree]

/-- **Its last round**: it comes upon the end and sets the flag. -/
theorem lastRound (hfree : s.hand = .free)
    (h : takeArrival s.incoming = some (none, incoming)) :
    Allowed s [.shut, .take]
      ∧ play s [.shut, .take]
        = { s with
            incoming, reader := { s.reader with closed := true }, hand := .over } := by
  have htaken : s.taken = { s with incoming, hand := .ended } := taken_of_end h
  have hended : (play s [.take]).hand = .ended := congrArg (·.hand) htaken
  refine ⟨⟨⟨trivial, hfree, Option.isSome_iff_exists.2 ⟨_, h⟩⟩, hended⟩, ?_⟩
  show s.taken.shut = _
  rw [htaken]
  rfl

/-- Whether a stream comes to an end. -/
def Ends (arrivals : List Arrival) : Prop := ∃ a ∈ arrivals, ∀ bytes, a = .bytes bytes → bytes = []

/-- A stream that ends does so after every read, and there is less of it. -/
theorem Ends.takeArrival (h : Ends arrivals)
    (htake : Device.takeArrival arrivals = some (some bytes, incoming)) :
    Ends incoming ∧ totalWeight incoming < totalWeight arrivals := by
  obtain ⟨front, rest, rfl, hfront, rfl, rfl⟩ := takeArrival_cases htake
  obtain ⟨a, hmem, hend⟩ := h
  have hrest : a ∈ rest := by
    rcases List.mem_cons.1 hmem with rfl | hrest
    · exact absurd (hend front rfl) hfront
    · exact hrest
  have hlength : 0 < front.length := List.length_pos_iff.2 hfront
  have hchunk : 0 < chunk := by decide
  split
  · exact ⟨⟨a, hrest, hend⟩, by simp only [totalWeight, Arrival.weight]; omega⟩
  · refine ⟨⟨a, List.mem_cons_of_mem _ hrest, hend⟩, ?_⟩
    simp only [totalWeight, Arrival.weight, List.length_drop]
    omega

/-- There is something to read until then. -/
theorem Ends.isSome (h : Ends arrivals) : (Device.takeArrival arrivals).isSome = true := by
  obtain ⟨a, hmem, -⟩ := h
  cases arrivals with
  | nil => cases hmem
  | cons arrival rest => cases arrival <;> rfl

/-- **The thread may get through** before anybody asks. -/
theorem exists_shut (hfree : s.hand = .free) (h : Ends s.incoming) :
    ∃ acts, Allowed s acts ∧ (play s acts).reader = { s.reader with closed := true }
      ∧ (play s acts).call = s.call ∧ (play s acts).heard = s.heard := by
  induction hweight : totalWeight s.incoming using Nat.strongRecOn generalizing s with
  | ind weight ih =>
    subst hweight
    obtain ⟨⟨reading, incoming⟩, htake⟩ := Option.isSome_iff_exists.1 h.isSome
    cases reading with
    | none =>
      obtain ⟨hallowed, hplay⟩ := lastRound hfree htake
      refine ⟨_, hallowed, ?_⟩
      rw [hplay]
      exact ⟨rfl, rfl, rfl⟩
    | some bytes =>
      obtain ⟨hends, hless⟩ := h.takeArrival htake
      obtain ⟨hallowed, hplay⟩ := round hfree htake
      obtain ⟨acts, hacts, hrest⟩ :=
        ih _ hless (s := { s with incoming, tty := s.tty.write bytes }) hfree hends rfl
      rw [← hplay] at hacts
      refine ⟨acts ++ _, hallowed.append hacts, ?_⟩
      rw [play_append, hplay]
      exact hrest

/-- **Whatever comes in may be lost**: for every stream that ends there is a history in which
the end is found and nothing is read. -/
theorem exists_readBeforeEnd_eq_nil (tty : Tty) (h : Ends arrivals) :
    ∃ history, Allowed (new tty arrivals) history
      ∧ (play (new tty arrivals) history).HeardEnd
      ∧ (play (new tty arrivals) history).readBeforeEnd = [] := by
  obtain ⟨acts, hacts, hreader, hcall, hheard⟩ := exists_shut (s := new tty arrivals) rfl h
  let asked := (play (new tty arrivals) acts).after (.ask false)
  have hglance : asked.reader.glance = some .eof := by
    show (play (new tty arrivals) acts).reader.glance = _
    rw [hreader]
    rfl
  have hlooked : asked.looked = asked.told false .eof := looked_of_some rfl hglance
  have htold : asked.looked.heard = [(false, .eof)] := by
    rw [hlooked]
    exact congrArg (· ++ [(false, Reading.eof)]) hheard
  refine ⟨.look :: .ask false :: acts, ⟨⟨hacts, hcall⟩, false, rfl⟩, ⟨false, ?_⟩, ?_⟩
  · show _ ∈ asked.looked.heard
    rw [htold]
    exact List.mem_singleton_self _
  · show Queue.beforeEnd (asked.looked.heard.flatMap units) = []
    rw [htold]
    rfl

end

/-- **Nothing is read** when nobody asks before the flag is set: the whole input is left in
the pseudoterminal. -/
theorem reads_nothing :
    let tty := ({} : Tty).setAttributes ({} : Tty).flags.makeRaw
    let arrivals : List Arrival := [.bytes [0x68, 0x69], .ended]
    let history : List Act := [.look, .ask false, .shut, .take, .type 2, .take]
    tty.Transparent ∧ tty.buffer = [] ∧ Allowed (new tty arrivals) history
      ∧ (play (new tty arrivals) history).HeardEnd
      ∧ (play (new tty arrivals) history).readBeforeEnd = []
      ∧ content arrivals = [0x68, 0x69] := by
  intro tty arrivals history
  exact ⟨Tty.transparent_makeRaw, by decide, by decide, ⟨false, by decide⟩, by decide, by decide⟩

end SharedBridge

end Teletype
