import Teletype.Tty.Basic

/-!
# A pseudoterminal that leaves bytes alone

What is typed at a pseudoterminal is edited, translated, taken for a signal or for a stop
of the output, each by a flag of its own. When all of these flags are off, **bytes go
through as they are**: what is typed comes behind what waits, and a read takes what has
waited longest. Raw mode switches most of these flags off, and a new pseudoterminal has
the others off from the start (`transparent_makeRaw`).
-/

namespace Teletype

namespace Tty

/-- The flags that give a typed byte a meaning, or make it another. -/
def meddling : List Flag := [.icanon, .isig, .ixon, .igncr, .icrnl, .inlcr, .istrip, .parmrk]

/-- **Whether bytes go through as they are.** -/
structure Transparent (t : Tty) : Prop where
  /-- The far end is there. -/
  connected : t.hungUp = false
  /-- The next byte is like any other. -/
  unquoted : t.quotes = false
  /-- No flag gives it a meaning. -/
  off : ∀ f ∈ meddling, t.flags.flag f = false

/-- The bytes that wait, oldest first. -/
def bytes (t : Tty) : List UInt8 := t.buffer.map (·.byte)

theorem bytes_eq_nil_iff {t : Tty} : t.bytes = [] ↔ t.buffer = [] := List.map_eq_nil_iff

/-- A read never waits for nothing. -/
theorem threshold_pos (t : Tty) : 0 < t.threshold := by
  simp only [threshold]
  split
  · next hleast =>
    simp only [Bool.and_eq_true, bne_iff_ne] at hleast
    exact Nat.pos_of_ne_zero hleast.2
  · exact Nat.one_pos

/-- **A new pseudoterminal in raw mode** leaves bytes alone. -/
theorem transparent_makeRaw :
    (({} : Tty).setAttributes ({} : Tty).flags.makeRaw).Transparent where
  connected := by rfl
  unquoted := by decide
  off := by decide

namespace Transparent

variable {t : Tty}

/-- It does not matter what waits. -/
theorem setBuffer (h : t.Transparent) (buffer : List TtyCell) :
    ({ t with buffer } : Tty).Transparent := ⟨h.connected, h.unquoted, h.off⟩

/-- **A byte comes behind those that wait.** -/
theorem receive (h : t.Transparent) (b : UInt8) :
    t.receive b = { t with buffer := t.buffer ++ [{ byte := b }] } := by
  have hoff : ∀ f ∈ meddling, t.flags.flag f = false := h.off
  simp only [meddling, List.forall_mem_cons] at hoff
  obtain ⟨hicanon, hisig, hixon, higncr, hicrnl, hinlcr, histrip, hparmrk, -⟩ := hoff
  have hend : lineEnd t.flags b = some b := by
    unfold lineEnd
    split <;> simp [higncr, hicrnl, hinlcr]
  simp [Tty.receive, h.unquoted, histrip, isFlow, hixon, isSignal, hisig, hend, hicanon, put,
    hparmrk]

theorem write (h : t.Transparent) (bytes : List UInt8) :
    t.write bytes = { t with buffer := t.buffer ++ bytes.map fun byte => { byte } } := by
  unfold Tty.write
  induction bytes generalizing t with
  | nil => rw [List.map_nil, List.append_nil]; rfl
  | cons b bytes ih =>
    rw [List.foldl_cons, h.receive, ih (h.setBuffer _), List.map_cons]
    rw [List.append_assoc, List.singleton_append]

theorem take (h : t.Transparent) (n : Nat) :
    t.take n = (t.bytes.take n, { t with buffer := t.buffer.drop n }) := by
  have hicanon : t.flags.flag .icanon = false := h.off _ List.mem_cons_self
  simp [Tty.take, h.connected, hicanon, bytes, List.map_take]

/-- **What is typed is what waits then.** -/
theorem bytes_write (h : t.Transparent) (bytes : List UInt8) :
    (t.write bytes).bytes = t.bytes ++ bytes := by
  rw [h.write, Tty.bytes, Tty.bytes, List.map_append, List.map_map]
  exact congrArg _ (List.map_id bytes)

/-- **What is read has waited longest.** -/
theorem take_append_bytes (h : t.Transparent) (n : Nat) :
    (t.take n).1 ++ (t.take n).2.bytes = t.bytes := by
  rw [h.take]
  show t.bytes.take n ++ (t.buffer.drop n).map (·.byte) = t.bytes
  rw [List.map_drop]
  exact List.take_append_drop n t.bytes

theorem of_write (h : t.Transparent) (bytes : List UInt8) : (t.write bytes).Transparent :=
  h.write bytes ▸ h.setBuffer _

theorem of_take (h : t.Transparent) (n : Nat) : (t.take n).2.Transparent :=
  h.take n ▸ h.setBuffer _

/-- **A read that finds something is no end.** -/
theorem take_ne_nil (h : t.Transparent) (hreadable : t.readable = true) {n : Nat} (hn : 0 < n) :
    (t.take n).1 ≠ [] := by
  have hicanon : t.flags.flag .icanon = false := h.off _ List.mem_cons_self
  have hbuffer : 0 < t.buffer.length := by
    simp only [readable, h.connected, hicanon, Bool.false_or, Bool.false_eq_true, if_false,
      decide_eq_true_eq] at hreadable
    exact Nat.lt_of_lt_of_le t.threshold_pos hreadable
  rw [h.take, ← List.length_pos_iff, List.length_take, bytes, List.length_map]
  exact Nat.lt_min.2 ⟨hn, hbuffer⟩

end Transparent

end Tty

end Teletype
