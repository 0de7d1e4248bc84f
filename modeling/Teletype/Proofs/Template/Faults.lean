import Teletype.Proofs.Template.Moderate

/-!
# What stops a scan

Most of what could stop a scan never does. No byte is asked for that is not there, however
the template is cut short, because every part of the scan reads what lies ahead of it
(`Cursor.pieceAt_reads`, `Cursor.branchEnd_eq`). The scan ends, because there is less ahead
after every turn. Sums wrap around, if the program is built so. A width can be filled up to,
if the template is `Moderate`. What is left is the one quotient that is no number of 64 bits,
and `Cursor.expands_wrapping` says that it, and nothing else, is where a scan stops.

Built to check its sums, the scan does what `expand?` does, on every template
(`Cursor.expands_checked`); and what `expand?` gives does not depend on how the program was
built (`Cursor.expands_of_expand?`).
-/

namespace Teletype.Template

/-! ## Operators that have no effect -/

/-- **An operator divides the least number by minus one**, of the two numbers on top. -/
def Op.DividesLeast (op : Op) (st : State) : Prop :=
  (op = .binary .div ∨ op = .binary .mod)
    ∧ st.drop.top.toInt = Int64.minValue ∧ st.top.toInt = -1

/-- **The quotient and the remainder that are no numbers** are those of the least number by
minus one. -/
theorem BinaryOp.value?_eq_none_iff {op : BinaryOp} {a b : Int64} :
    op.value? a b = none ↔ (op = .div ∨ op = .mod) ∧ a = Int64.minValue ∧ b = -1 := by
  have hzero : (0 : Int64) ≠ -1 := by decide
  cases op with
  | div | mod =>
    unfold value? overflows
    by_cases hb : b = 0
    · subst hb
      simp [hzero]
    · simp [hb]
  | _ => simp [value?]

/-- A value that cannot be written has too great a width. -/
theorem Conversion.lt_width_of_render? {c : Conversion} {v : Param} (h : c.render? v = none) :
    greatestFill < c.width := by
  unfold render? pad? at h
  split at h
  · cases h
  · split at h
    · assumption
    · cases h

/-- **The operators that are without effect.** -/
theorem Op.of_exec?_eq_none {op : Op} {st : State} (h : op.exec? st = none) :
    op = .unreadable ∨ op = .oneBased ∨ op.DividesLeast st
      ∨ ∃ c, op = .convert c ∧ Conversion.greatestFill < c.width := by
  cases op with
  | unreadable => exact .inl rfl
  | oneBased => exact .inr (.inl rfl)
  | binary o =>
    obtain ⟨hop, hleast⟩ := BinaryOp.value?_eq_none_iff.1 (Option.map_eq_none_iff.1 h)
    exact .inr (.inr (.inl ⟨hop.imp (congrArg _) (congrArg _), hleast⟩))
  | convert c =>
    exact .inr (.inr (.inr ⟨c, rfl, Conversion.lt_width_of_render? (Option.map_eq_none_iff.1 h)⟩))
  | _ => cases h

namespace Cursor

variable {template : List UInt8} {params : List Param} {bytes : Array UInt8} {i j : Nat}
  {a : Arithmetic} {b : UInt8} {rest : List UInt8} {st after : State} {f : Fault}
  {r r' : Except Fault State}

/-! ## Effects -/

theorem wrappingSucc_of_succ? {v w : Param} (h : v.succ? = some w) : wrappingSucc v = w := by
  cases v with
  | int n =>
    unfold Param.succ? at h
    dsimp only at h
    split at h
    · cases h
    · exact Option.some.inj h
  | text s => exact Option.some.inj h

/-- The first two parameters counted from one are the same however sums are formed, if they
fit. -/
theorem countFromOne_of_countFromOne? (a : Arithmetic) (h : st.countFromOne? = some after) :
    a.countFromOne st = .ok after := by
  cases a with
  | checked =>
    rw [Arithmetic.countFromOne, h]
    rfl
  | wrapping =>
    unfold State.countFromOne? at h
    obtain ⟨first, hfirst, h⟩ := Option.bind_eq_some_iff.1 h
    obtain ⟨second, hsecond, h⟩ := Option.bind_eq_some_iff.1 h
    rw [← Option.some.inj h]
    refine congrArg Except.ok (congrArg (fun params => { st with params }) (funext fun i => ?_))
    by_cases hi : i = 0
    · subst hi
      exact wrappingSucc_of_succ? hfirst
    by_cases hone : i = 1
    · subst hone
      exact wrappingSucc_of_succ? hsecond
    · have hlt : ¬ i.val < 2 := by omega
      rw [if_neg hi, if_neg hone, if_neg hlt]

/-- How sums are formed makes no difference to any other operator. -/
theorem exec_of_ne (a : Arithmetic) {op : Op} (h : op ≠ .oneBased) (st : State) :
    exec a op st = (op.exec? st).elim (.error (fault op)) .ok := by
  cases op with
  | oneBased => exact absurd rfl h
  | _ =>
    unfold exec
    dsimp only
    split
    all_goals
      rename_i hexec
      rw [hexec]
      rfl

/-- **What an operator does**, it does however sums are formed. -/
theorem exec_of_exec? (a : Arithmetic) {op : Op} (h : op.exec? st = some after) :
    exec a op st = .ok after := by
  by_cases hop : op = .oneBased
  · subst hop
    exact countFromOne_of_countFromOne? a h
  · rw [exec_of_ne a hop, h]
    rfl

/-- Where sums are checked, an operator without effect is a fault. -/
theorem exec_checked_of_exec? {op : Op} (h : op.exec? st = none) :
    exec .checked op st = .error (fault op) := by
  by_cases hop : op = .oneBased
  · subst hop
    have hnone : st.countFromOne? = none := h
    unfold exec Arithmetic.countFromOne
    dsimp only
    rw [hnone]
    rfl
  · rw [exec_of_ne .checked hop, h]
    rfl

/-- The least number cannot be divided by minus one, however sums are formed. -/
theorem exec_of_dividesLeast (a : Arithmetic) {op : Op} (h : op.DividesLeast st) :
    exec a op st = .error .division := by
  obtain ⟨hop, hdiv⟩ := h
  have hbinary : ∃ o, op = .binary o ∧ (o = .div ∨ o = .mod) := by
    rcases hop with rfl | rfl
    · exact ⟨.div, rfl, .inl rfl⟩
    · exact ⟨.mod, rfl, .inr rfl⟩
  obtain ⟨o, rfl, ho⟩ := hbinary
  rw [exec_of_ne a (by simp), Op.exec?, BinaryOp.value?_eq_none_iff.2 ⟨ho, hdiv⟩]
  rfl

/-- **Where sums wrap around, only a division stops an operator**, if its width can be filled
up to. -/
theorem exec_wrapping {op : Op} (hne : op ≠ .unreadable)
    (hfill : ∀ c, op = .convert c → c.width ≤ Conversion.greatestFill)
    (hdiv : ¬ op.DividesLeast st) : ∃ after, exec .wrapping op st = .ok after := by
  by_cases hone : op = .oneBased
  · subst hone
    exact ⟨_, rfl⟩
  cases hexec : op.exec? st with
  | none =>
    obtain heq | heq | heq | ⟨c, heq, hwidth⟩ := Op.of_exec?_eq_none hexec
    · exact absurd heq hne
    · exact absurd heq hone
    · exact absurd heq hdiv
    · exact absurd (hfill c heq) (Nat.not_le.2 hwidth)
  | some after => exact ⟨after, exec_of_exec? .wrapping hexec⟩

/-! ## Turns -/

/-- **A turn does what the run does**, if the operator has an effect. -/
theorem turn_of_exec? (a : Arithmetic) (h : ahead bytes i = b :: rest)
    (hexec : (piece b rest).1.exec? st = some after) :
    Yields bytes (turn a bytes i st) (after, (piece b rest).1.next st (piece b rest).2) := by
  have hne : (piece b rest).1 ≠ .unreadable := by
    intro heq
    rw [heq] at hexec
    cases hexec
  exact turn_of_exec ((pieceAt_reads a h).readable hne) (exec_of_exec? a hexec)

/-- Where sums are checked it is a fault, if the operator has none. -/
theorem turn_checked_of_exec? (h : ahead bytes i = b :: rest)
    (hexec : (piece b rest).1.exec? st = none) : ∃ f, turn .checked bytes i st = .error f := by
  by_cases hop : (piece b rest).1 = .unreadable
  · refine ⟨.overflow, ?_⟩
    unfold turn
    rw [(pieceAt_reads .checked h).checked rfl hop]
    rfl
  · exact ⟨_, turn_of_fault ((pieceAt_reads .checked h).readable hop) (exec_checked_of_exec? hexec)⟩

/-- **Where sums wrap around, a turn is a fault only at a division**, and whatever else it does,
the scan goes on where a run may. -/
theorem turn_wrapping (hmoderate : Moderate template) (hplace : Place template (b :: rest))
    (h : ahead bytes i = b :: rest) (st : State) :
    ((piece b rest).1.DividesLeast st ∧ turn .wrapping bytes i st = .error .division)
      ∨ (¬ (piece b rest).1.DividesLeast st ∧ ∃ after, Yields bytes (turn .wrapping bytes i st)
          (after, (piece b rest).1.next st (piece b rest).2)) := by
  by_cases hop : (piece b rest).1 = .unreadable
  · -- an unknown operator, and it does nothing
    have hread := (pieceAt_reads .wrapping h).wrapping rfl hop (hmoderate.lacksLetter hplace hop)
    have hnext : (piece b rest).1.next st (piece b rest).2
        = Op.nothing.next st (piece b rest).2 := by
      rw [hop]
      rfl
    refine .inr ⟨?_, st, hnext ▸ turn_of_exec hread rfl⟩
    rintro ⟨heq | heq, -⟩ <;> cases hop.symm.trans heq
  · have hread := (pieceAt_reads .wrapping h).readable hop
    by_cases hdiv : (piece b rest).1.DividesLeast st
    · exact .inl ⟨hdiv, turn_of_fault hread (exec_of_dividesLeast .wrapping hdiv)⟩
    · obtain ⟨after, hexec⟩ := exec_wrapping hop (fun c => hmoderate.width_le hplace) hdiv
      exact .inr ⟨hdiv, after, turn_of_exec hread hexec⟩

/-! ## Divisions by position -/

/-- **The scan is about to divide the least number by minus one.** -/
def DividesLeast (template : List UInt8) (i : Nat) (st : State) : Prop :=
  template[i]? = some 0x25 ∧ (template[i + 1]? = some 0x2f ∨ template[i + 1]? = some 0x6d)
    ∧ st.drop.top.toInt = Int64.minValue ∧ st.top.toInt = -1

/-- It is about to do so where the piece in front of it does. -/
theorem dividesLeast_iff (h : ahead template.toArray i = b :: rest) :
    DividesLeast template i st ↔ (piece b rest).1.DividesLeast st := by
  obtain ⟨-, hb, hrest⟩ := of_ahead_cons h
  have hhead : template[i + 1]? = rest.head? := by
    rw [← hrest, ← getElem?_eq_head?, List.getElem?_toArray]
  rw [List.getElem?_toArray] at hb
  rw [DividesLeast, Op.DividesLeast, piece_eq_binary_iff, piece_eq_binary_iff, hb, hhead]
  simp only [Option.some.injEq, BinaryOp.byte, ← and_or_left, and_assoc]

/-! ## Whole scans -/

/-- A scan ends in the fault of its next turn. -/
theorem Ends.eq_error (h : Ends a bytes i st r) (hlt : i < bytes.size)
    (hturn : Cursor.turn a bytes i st = .error f) : r = .error f := by
  cases h with
  | done hle => exact absurd hle (Nat.not_le.2 hlt)
  | fault _ hturn' =>
    rw [hturn] at hturn'
    cases hturn'
    rfl
  | turn _ hturn' =>
    rw [hturn] at hturn'
    cases hturn'

/-- It ends as it does from where its next turn comes to. -/
theorem Ends.of_turn (h : Ends a bytes i st r) (hlt : i < bytes.size)
    (hturn : Cursor.turn a bytes i st = .ok (after, j)) : Ends a bytes j after r := by
  cases h with
  | done hle => exact absurd hle (Nat.not_le.2 hlt)
  | fault _ hturn' =>
    rw [hturn] at hturn'
    cases hturn'
  | turn _ hturn' hends =>
    rw [hturn] at hturn'
    cases hturn'
    exact hends

/-- **A scan ends in one way.** -/
theorem Ends.unique (h : Ends a bytes i st r) (h' : Ends a bytes i st r') : r = r' := by
  induction h with
  | done hle =>
    cases h' with
    | done => rfl
    | fault hlt => exact absurd hle (Nat.not_le.2 hlt)
    | turn hlt => exact absurd hle (Nat.not_le.2 hlt)
  | fault hlt hturn => exact (h'.eq_error hlt hturn).symm
  | turn hlt hturn _ ih => exact ih (h'.of_turn hlt hturn)

/-- What a scan comes to on its way, it ends in. -/
theorem Ends.of_comes (hcomes : Comes a template params i st)
    (h : Ends a template.toArray 0 (State.start params) r) : Ends a template.toArray i st r := by
  induction hcomes with
  | start => exact h
  | turn _ hlt hturn ih => exact ih.of_turn hlt hturn

/-- What an expansion comes to is all that it comes to. -/
theorem expands_iff_of_ends (h : Ends a template.toArray 0 (State.start params) r)
    (outcome : Except Fault (List UInt8)) :
    Expands a template params outcome ↔ outcome = r.map State.out := by
  constructor
  · rintro ⟨h'⟩
    rw [h'.unique h]
  · rintro rfl
    exact .intro h

/-- **What a run comes to, the scan ends in**, however sums are formed. -/
theorem ends_of_run {final : State} (a : Arithmetic) (h : run st (ahead bytes i) = some final) :
    Ends a bytes i st (.ok final) := by
  induction st, hrest : ahead bytes i using run.induct generalizing i with
  | case1 st =>
    rw [hrest, run] at h
    cases h
    exact .done (Nat.not_lt.1 (of_ahead_nil hrest).1)
  | case2 st b rest hexec =>
    rw [hrest, run, hexec] at h
    cases h
  | case3 st b rest after hexec ih =>
    rw [hrest, run, hexec] at h
    obtain ⟨j, hturn, hj⟩ := turn_of_exec? a hrest hexec
    exact .turn (of_ahead_cons hrest).1 hturn (ih (hj ▸ h) hj)

/-- **Where sums are checked, a scan ends in a fault where the run has no effect.** -/
theorem exists_ends_checked (bytes : Array UInt8) (i : Nat) (st : State) :
    ∃ r, Ends .checked bytes i st r ∧ r.toOption = run st (ahead bytes i) := by
  induction st, hrest : ahead bytes i using run.induct generalizing i with
  | case1 st =>
    rw [run]
    exact ⟨.ok st, .done (Nat.not_lt.1 (of_ahead_nil hrest).1), rfl⟩
  | case2 st b rest hexec =>
    rw [run, hexec]
    obtain ⟨f, hturn⟩ := turn_checked_of_exec? hrest hexec
    exact ⟨.error f, .fault (of_ahead_cons hrest).1 hturn, rfl⟩
  | case3 st b rest after hexec ih =>
    rw [run, hexec]
    obtain ⟨j, hturn, hj⟩ := turn_of_exec? .checked hrest hexec
    obtain ⟨r, hends, hr⟩ := ih j hj
    exact ⟨r, .turn (of_ahead_cons hrest).1 hturn hends, hr⟩

/-- **Built to check its sums, the scan does what `expand?` does**, and is a fault where there
is no expansion. -/
theorem expands_checked (template : List UInt8) (params : List Param) :
    ∃ outcome, (∀ r, Expands .checked template params r ↔ r = outcome)
      ∧ outcome.toOption = expand? template params := by
  obtain ⟨r, hends, hr⟩ := exists_ends_checked template.toArray 0 (State.start params)
  refine ⟨r.map State.out, expands_iff_of_ends hends, ?_⟩
  rw [expand?, ← ahead_zero template, ← hr]
  cases r <;> rfl

/-- **An expansion does not depend on how sums are formed.** -/
theorem expands_of_expand? (a : Arithmetic) {out : List UInt8}
    (h : expand? template params = some out) : Expands a template params (.ok out) := by
  obtain ⟨final, hfinal, rfl⟩ := Option.map_eq_some_iff.1 h
  exact .intro (ends_of_run a hfinal)

/-- **Where sums wrap around, a scan ends**, and in a fault only if it comes to a division of the
least number by minus one. -/
theorem exists_ends_wrapping (hmoderate : Moderate template)
    (hcomes : Comes .wrapping template params i st) {text : List UInt8}
    (hahead : ahead template.toArray i = text) (hplace : Place template text) :
    ∃ r, Ends .wrapping template.toArray i st r ∧ ∀ f, r = .error f → f = .division
      ∧ ∃ j after, Comes .wrapping template params j after ∧ DividesLeast template j after := by
  -- there is less ahead after every turn
  induction hlength : text.length using Nat.strongRecOn generalizing text i st with
  | ind length ih =>
    subst hlength
    cases text with
    | nil =>
      refine ⟨.ok st, .done (Nat.not_lt.1 (of_ahead_nil hahead).1), fun f hf => ?_⟩
      cases hf
    | cons b rest =>
      have hlt := (of_ahead_cons hahead).1
      obtain ⟨hdiv, hturn⟩ | ⟨-, after, j, hturn, hj⟩ := turn_wrapping hmoderate hplace hahead st
      · refine ⟨.error .division, .fault hlt hturn, fun f hf => ?_⟩
        cases hf
        exact ⟨rfl, i, st, hcomes, (dividesLeast_iff hahead).2 hdiv⟩
      · obtain ⟨r, hends, hr⟩ := ih _
          (Nat.lt_succ_of_le (Nat.le_trans (Op.length_next ..) (length_piece ..)))
          (hcomes.turn hlt hturn) hj (hplace.next st) rfl
        exact ⟨r, .turn hlt hturn hends, hr⟩

/-- A scan that divides the least number by minus one ends in a fault. -/
theorem Ends.division_of_dividesLeast (h : Ends a template.toArray i st r)
    (hdiv : DividesLeast template i st) : r = .error .division := by
  have hlt : i < template.toArray.size := (Array.getElem?_eq_some_iff.1
    (by rw [List.getElem?_toArray]; exact hdiv.1)).1
  cases hahead : ahead template.toArray i with
  | nil => exact absurd hahead (lt_size_iff.1 hlt)
  | cons b rest =>
    have hop := (dividesLeast_iff hahead).1 hdiv
    have hne : (piece b rest).1 ≠ .unreadable := by
      intro heq
      rcases hop.1 with h | h <;> cases heq.symm.trans h
    exact h.eq_error hlt
      (turn_of_fault ((pieceAt_reads a hahead).readable hne) (exec_of_dividesLeast a hop))

/-- **A scan where sums wrap around cannot fail but at one division.** Over a template with
moderate widths and precisions, however malformed, and with any parameters, it ends, and in one
way only: in what it has written, or in the fault of a division. It ends in the latter exactly
when it comes to a quotient or a remainder of the least number by minus one. -/
theorem expands_wrapping (hmoderate : Moderate template) (params : List Param) :
    ∃ outcome, (∀ r, Expands .wrapping template params r ↔ r = outcome)
      ∧ (∀ f, outcome = .error f → f = .division)
      ∧ ((∃ f, outcome = .error f) ↔
        ∃ i st, Comes .wrapping template params i st ∧ DividesLeast template i st) := by
  obtain ⟨r, hends, hr⟩ := exists_ends_wrapping hmoderate .start rfl .start
  have hmap : ∀ {f}, r.map State.out = .error f ↔ r = .error f := by
    cases r <;> simp [Except.map]
  refine ⟨r.map State.out, expands_iff_of_ends hends, fun f hf => (hr f (hmap.1 hf)).1, ?_⟩
  constructor
  · rintro ⟨f, hf⟩
    exact (hr f (hmap.1 hf)).2
  · rintro ⟨i, st, hcomes, hdiv⟩
    exact ⟨.division, hmap.2 ((hends.of_comes hcomes).division_of_dividesLeast hdiv)⟩

/-- A template that is cut short in a constant, and divides what it is given. -/
theorem expands_wrapping_cut :
    Moderate (Text.bytesOf "%p1%p2%m%5d%\x7b%")
      ∧ ∃ outcome,
        (∀ r, Expands .wrapping (Text.bytesOf "%p1%p2%m%5d%\x7b%")
            [.int Int64.minValue, .int (-1)] r ↔ r = outcome)
        ∧ (∀ f, outcome = .error f → f = .division)
        ∧ ((∃ f, outcome = .error f) ↔ ∃ i st,
          Comes .wrapping (Text.bytesOf "%p1%p2%m%5d%\x7b%") [.int Int64.minValue, .int (-1)] i st
            ∧ DividesLeast (Text.bytesOf "%p1%p2%m%5d%\x7b%") i st) :=
  have h : Moderate (Text.bytesOf "%p1%p2%m%5d%\x7b%") := moderate_of_readCount (by decide)
  ⟨h, expands_wrapping h _⟩

end Cursor

end Teletype.Template
