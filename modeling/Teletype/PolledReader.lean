import Teletype.Queue

/-!
# Reading by polling

Some input comes from a source that can be asked whether there is anything to
read and that gives what is there in one go. A read of no bytes from such a
source is its end. The reader keeps what it got and hands it out byte by byte.

A flag shared with whoever closes the terminal ends the input: it is looked at
when no byte is pending, before the source is.
-/

namespace Teletype

/-- **A source that is polled.** -/
class PolledSource (σ : Type) where
  /-- Whether a read would find something: bytes, or the end. -/
  readable : σ → Bool
  /-- A read of at most so many bytes. No bytes are the end. -/
  take : Nat → σ → List UInt8 × σ

/-- **A reader of a polled source.** -/
structure PolledReader where
  /-- The bytes read and not yet consumed. -/
  pending : List UInt8 := []
  /-- Whether the input was ended from outside. -/
  closed : Bool := false
  deriving DecidableEq

namespace PolledReader

/-- The most bytes that one read of the source asks for. -/
def chunk : Nat := 1024

variable {σ : Type} [PolledSource σ]

/-- **A read or a look at the next byte.** -/
def next (r : PolledReader) (source : σ) (peek : Bool) : Reading × PolledReader × σ :=
  match r.pending with
  | b :: rest => (.byte b, if peek then r else { r with pending := rest }, source)
  | [] =>
    if r.closed then (.eof, r, source)
    else if PolledSource.readable source then
      match PolledSource.take chunk source with
      | ([], source) => (.eof, r, source)
      | (b :: rest, source) =>
        (.byte b, { r with pending := if peek then b :: rest else rest }, source)
    else (.expired, r, source)

/-- **A look at what is pending and at the flag**, as far as these settle the matter. -/
def glance (r : PolledReader) : Option Reading :=
  match r.pending with
  | b :: _ => some (.byte b)
  | [] => if r.closed then some .eof else none

/-- The reader when it has answered. What was only looked at stays pending. -/
def answered (r : PolledReader) (peek : Bool) : PolledReader :=
  if peek then r else { r with pending := r.pending.tail }

/-- The reader with what a read of the source brought. -/
def fill (r : PolledReader) (bytes : List UInt8) : PolledReader :=
  { r with pending := r.pending ++ bytes }

section

variable {r : PolledReader} {reading : Reading}

/-- What settles the matter is a byte that is pending, or else the flag. -/
theorem glance_cases (h : r.glance = some reading) :
    (∃ b, reading = .byte b ∧ r.pending.head? = some b)
      ∨ reading = .eof ∧ r.pending = [] ∧ r.closed = true := by
  obtain ⟨pending, closed⟩ := r
  cases pending with
  | cons b rest => exact .inl ⟨b, (Option.some.inj h).symm, rfl⟩
  | nil =>
    cases closed with
    | true => exact .inr ⟨(Option.some.inj h).symm, rfl, rfl⟩
    | false => cases h

/-- With nothing pending there is nothing to take away. -/
theorem answered_of_pending (h : r.pending = []) (peek : Bool) : r.answered peek = r := by
  obtain ⟨pending, closed⟩ := r
  cases h
  cases peek <;> rfl

theorem glance_eq_none_iff : r.glance = none ↔ r.pending = [] ∧ r.closed = false := by
  unfold glance
  cases r.pending <;> cases r.closed <;> simp

/-- What is pending and the flag are looked at first. -/
theorem next_of_glance (h : r.glance = some reading) (source : σ) (peek : Bool) :
    r.next source peek = (reading, r.answered peek, source) := by
  obtain ⟨pending, closed⟩ := r
  cases pending with
  | cons b rest => cases h; rfl
  | nil =>
    cases closed with
    | true => cases h; cases peek <;> rfl
    | false => cases h

/-- When they leave the matter open and the source has something, what it gives settles it:
no bytes are the end. -/
theorem next_of_take_eq_nil (h : r.glance = none) {source : σ}
    (hreadable : PolledSource.readable source = true)
    (htake : (PolledSource.take chunk source).1 = []) (peek : Bool) :
    r.next source peek = (.eof, r, (PolledSource.take chunk source).2) := by
  obtain ⟨hpending, hclosed⟩ := glance_eq_none_iff.1 h
  have hpair : PolledSource.take chunk source = ([], (PolledSource.take chunk source).2) :=
    Prod.ext htake rfl
  unfold next
  rw [hpending, hclosed, hreadable, hpair]
  rfl

/-- And some bytes are pending then. -/
theorem next_of_take_ne_nil (h : r.glance = none) {source : σ}
    (hreadable : PolledSource.readable source = true)
    (htake : (PolledSource.take chunk source).1 ≠ []) (peek : Bool) :
    ∃ reading, (r.fill (PolledSource.take chunk source).1).glance = some reading
      ∧ r.next source peek
        = (reading, (r.fill (PolledSource.take chunk source).1).answered peek,
            (PolledSource.take chunk source).2) := by
  obtain ⟨hpending, hclosed⟩ := glance_eq_none_iff.1 h
  obtain ⟨b, bytes, hbytes⟩ := List.exists_cons_of_ne_nil htake
  have hpair : PolledSource.take chunk source = (b :: bytes, (PolledSource.take chunk source).2) :=
    Prod.ext hbytes rfl
  have hfill : r.fill (b :: bytes) = { r with pending := b :: bytes } := by
    rw [fill, hpending, List.nil_append]
  rw [hbytes, hfill]
  refine ⟨.byte b, rfl, ?_⟩
  unfold next
  rw [hpending, hclosed, hreadable, hpair]
  cases peek <;> rfl

/-- When the source has nothing, time is up. -/
theorem next_of_not_readable (h : r.glance = none) {source : σ}
    (hreadable : PolledSource.readable source = false) (peek : Bool) :
    r.next source peek = (.expired, r, source) := by
  obtain ⟨hpending, hclosed⟩ := glance_eq_none_iff.1 h
  unfold next
  rw [hpending, hclosed, hreadable]
  rfl

end

end PolledReader

/-- **A pipe**, as large as it needs to be. -/
structure Pipe where
  /-- The bytes in it. -/
  content : List UInt8 := []
  /-- Whether its writing end is gone. -/
  hungUp : Bool := false
  deriving DecidableEq

/-- Bytes put into a pipe. -/
def Pipe.write (p : Pipe) (bytes : List UInt8) : Pipe := { p with content := p.content ++ bytes }

/-- The writing end closed. -/
def Pipe.hangUp (p : Pipe) : Pipe := { p with hungUp := true }

/-- A pipe gives what is in it, and ends when it is empty and nobody can write. -/
instance : PolledSource Pipe where
  readable p := !p.content.isEmpty || p.hungUp
  take n p := (p.content.take n, { p with content := p.content.drop n })

end Teletype
