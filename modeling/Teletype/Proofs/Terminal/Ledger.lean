import Mathlib.Data.List.Nodup
import Teletype.Proofs.Signal.Registry
import Teletype.Terminal.Process

/-!
# The ledger of a process

Several terminals and others share one registry, and take what they have out of the
middle of its stacks. What is in the registry is nevertheless told by the ledger alone:
the registrations that were made and not given up, newest first (`Recorded`). That is a
matter of registering and giving up, whoever does it.

Whose they are is another matter. One party acts at a time, and what it gives up is its
own; the others have afterwards what they had before (`Spares`). A terminal has for each
signal what its tokens prove, and each registration is what its handler asks for
(`Owns`). It renews one in one go, as far as the ledger is concerned
(`Owns.registerAnew`): once the old one is given up, the new one is the only one again.
-/

namespace Teletype.Process

variable {p q r : Process} {k : Nat} {l : Listener} {s : Signal} {t : Token} {e f : Entry}
  {party : Option Nat} {action : Option Callee}

/-! ## The ledger -/

/-- What the registry keeps of an entry. -/
def Entry.registration (e : Entry) : Registration Callee := ⟨e.token.id, e.action⟩

/-- **The registrations that are left**, newest first. -/
def left (p : Process) : List Entry := p.entries.filter fun e => e.token ∉ p.released

/-- **The newest registration** of a signal that is left. -/
def latest? (p : Process) (s : Signal) : Option Entry := p.left.find? fun e => e.token.signal = s

/-- **The registry keeps what is left.** -/
structure Recorded (p : Process) : Prop where
  /-- Each signal has its registrations in order. -/
  stack : ∀ s, p.registry.stack s
    = (p.left.filter fun e => e.token.signal = s).map Entry.registration
  /-- Numbers are given out in order. -/
  descending : p.entries.Pairwise fun e f => f.token.id < e.token.id
  /-- No number is in use that was not given out. -/
  issued : ∀ e ∈ p.entries, e.token.id ≤ p.registry.issued
  /-- Only tokens there are were given up. -/
  released : ∀ t ∈ p.released, t.id ≤ p.registry.issued
  /-- All are of signals that the platform can deliver. -/
  native : ∀ e ∈ p.entries, e.token.signal.isNative = true

theorem mem_entries_of_mem_left (h : e ∈ p.left) : e ∈ p.entries := List.mem_of_mem_filter h

/-- **A signal goes to the newest registration that is left.** -/
theorem Recorded.dispatch_eq (h : p.Recorded) (s : Signal) :
    p.registry.dispatch s = (p.latest? s).bind Entry.action := by
  rw [Registry.dispatch, h.stack, List.head?_map, List.head?_filter, Option.bind_map]
  rfl

/-- **No number is given out twice.** -/
theorem Recorded.nodup (h : p.Recorded) : (p.entries.map (·.token.id)).Nodup :=
  h.descending.map _ fun _ _ hlt => (Nat.ne_of_lt hlt).symm

/-- A registration is known by its token. -/
theorem Recorded.eq_of_token (h : p.Recorded) (he : e ∈ p.entries) (hf : f ∈ p.entries)
    (htoken : e.token = f.token) : e = f :=
  List.inj_on_of_nodup_map h.nodup he hf (congrArg Token.id htoken)

theorem recorded_empty : Recorded {} where
  stack _ := rfl
  descending := List.Pairwise.nil
  issued := nofun
  released := nofun
  native := nofun

/-! ### Registering and giving up -/

theorem register_of_native (hs : s.isNative = true) :
    p.register party s action = (some ⟨s, p.registry.issued + 1⟩,
      { p with
        registry := (p.registry.register s action).2
        entries := ⟨⟨s, p.registry.issued + 1⟩, party, action⟩ :: p.entries }) := by
  unfold register
  rw [Registry.register_of_native hs]
  rfl

theorem register_of_not_native (hs : s.isNative = false) :
    p.register party s action = (none, p) := by
  unfold register
  rw [Registry.register_of_not_native hs]
  rfl

/-- What is registered is left. -/
theorem Recorded.left_register (h : p.Recorded) (hs : s.isNative = true) (party : Option Nat)
    (action : Option Callee) : (p.register party s action).2.left
      = ⟨⟨s, p.registry.issued + 1⟩, party, action⟩ :: p.left := by
  rw [register_of_native hs]
  refine List.filter_cons_of_pos (decide_eq_true fun hreleased => ?_)
  exact Nat.not_succ_le_self _ (h.released _ hreleased)

theorem left_unregister (t : Token) : (p.unregister t).left = p.left.filter (·.token ≠ t) := by
  unfold left unregister
  rw [List.filter_filter]
  refine List.filter_congr fun e _ => ?_
  simp only [List.mem_cons, not_or, Bool.decide_and]

theorem left_giveUp (t : Option Token) :
    (p.giveUp t).left = p.left.filter fun e => t ≠ some e.token := by
  cases t with
  | none => exact (List.filter_eq_self.2 fun _ _ => rfl).symm
  | some t =>
    refine (left_unregister t).trans (List.filter_congr fun e _ => ?_)
    simp [eq_comm]

/-- **Registering is recorded.** -/
theorem Recorded.register (h : p.Recorded) (party : Option Nat) (s : Signal)
    (action : Option Callee) : (p.register party s action).2.Recorded := by
  cases hs : s.isNative with
  | false =>
    rw [register_of_not_native hs]
    exact h
  | true =>
    have hleft := h.left_register hs party action
    rw [register_of_native hs] at hleft ⊢
    rw [Registry.register_of_native hs] at hleft ⊢
    refine ⟨fun x => ?_, ?_, ?_, fun t ht => Nat.le_succ_of_le (h.released t ht), ?_⟩
    · rw [hleft, List.filter_cons]
      by_cases hx : x = s
      · subst hx
        simp [h.stack, Entry.registration]
      · simp [hx, Ne.symm hx, h.stack]
    · exact List.Pairwise.cons (fun e he => Nat.lt_succ_of_le (h.issued e he)) h.descending
    · exact List.forall_mem_cons.2 ⟨Nat.le_refl _, fun e he => Nat.le_succ_of_le (h.issued e he)⟩
    · exact List.forall_mem_cons.2 ⟨hs, h.native⟩

/-- **Giving up is recorded**, if the token is one that was given out. -/
theorem Recorded.unregister (h : p.Recorded) (he : e ∈ p.entries) :
    (p.unregister e.token).Recorded := by
  refine ⟨fun x => ?_, h.descending, h.issued, List.forall_mem_cons.2 ⟨h.issued e he, h.released⟩,
    h.native⟩
  rw [left_unregister, List.filter_comm]
  show (if x = e.token.signal then (p.registry.stack x).filter (fun f => f.id != e.token.id)
    else p.registry.stack x) = _
  rw [h.stack]
  -- the token of a registration of the signal is told by its number alone
  by_cases hx : x = e.token.signal
  · subst hx
    rw [if_pos rfl, List.filter_map]
    refine congrArg _ (List.filter_congr fun f hf => ?_)
    have hsignal : f.token.signal = e.token.signal := of_decide_eq_true (List.mem_filter.1 hf).2
    have htoken : f.token = e.token ↔ f.token.id = e.token.id := by
      refine ⟨congrArg Token.id, fun hid => ?_⟩
      rw [show f.token = ⟨f.token.signal, f.token.id⟩ from rfl, hsignal, hid]
    rw [Bool.eq_iff_iff, decide_eq_true_iff]
    exact bne_iff_ne.trans (not_congr htoken.symm)
  · rw [if_neg hx]
    refine congrArg _ (List.filter_eq_self.2 fun f hf => ?_).symm
    have hsignal : f.token.signal = x := of_decide_eq_true (List.mem_filter.1 hf).2
    exact decide_eq_true fun htoken => hx (hsignal.symm.trans (congrArg Token.signal htoken))

/-! ## Parties -/

/-- **What one party does to the others**: nothing. -/
structure Spares (party : Option Nat) (p q : Process) : Prop where
  /-- The registrations of the others that are left. -/
  left : q.left.filter (·.party ≠ party) = p.left.filter (·.party ≠ party)
  /-- The terminals know what they knew. -/
  listener : q.listener = p.listener
  /-- The others hold what they held. -/
  held : q.held = p.held
  /-- Nothing is struck out of the ledger. -/
  entries : p.entries <:+ q.entries

namespace Spares

theorem refl (party : Option Nat) (p : Process) : Spares party p p :=
  ⟨rfl, rfl, rfl, List.suffix_rfl⟩

theorem trans (h : Spares party p q) (h' : Spares party q r) : Spares party p r :=
  ⟨h'.left.trans h.left, h'.listener.trans h.listener, h'.held.trans h.held,
    h.entries.trans h'.entries⟩

/-- Whatever is asked about registrations of others only. -/
theorem filter (h : Spares party p q) {P : Entry → Bool}
    (hP : ∀ e, P e = true → e.party ≠ party) : q.left.filter P = p.left.filter P := by
  have hfirst : ∀ es : List Entry, es.filter P = (es.filter (·.party ≠ party)).filter P := by
    intro es
    rw [List.filter_filter]
    refine List.filter_congr fun e _ => ?_
    cases hPe : P e with
    | false => rfl
    | true => exact (decide_eq_true (hP e hPe)).symm
  rw [hfirst, h.left, ← hfirst]

theorem mem_iff (h : Spares party p q) (he : e.party ≠ party) : e ∈ q.left ↔ e ∈ p.left := by
  have hmem : ∀ es : List Entry, e ∈ es.filter (·.party ≠ party) ↔ e ∈ es := fun es => by
    rw [List.mem_filter, and_iff_left (decide_eq_true he)]
  rw [← hmem, h.left, hmem]

theorem setListener (h : Spares party p q) (k : Nat) (l : Listener) (j : Nat) :
    (q.setListener k l).listener j = if j = k then l else p.listener j := by
  rw [← h.listener]
  rfl

end Spares

theorem Recorded.spares_register (h : p.Recorded) (party : Option Nat) (s : Signal)
    (action : Option Callee) : Spares party p (p.register party s action).2 := by
  cases hs : s.isNative with
  | false =>
    rw [register_of_not_native hs]
    exact .refl party p
  | true =>
    have hleft := h.left_register hs party action
    refine ⟨?_, rfl, rfl, List.suffix_append _ _⟩
    rw [hleft, List.filter_cons_of_neg (by simp)]

/-- A party gives up what is its own. -/
theorem Recorded.spares_unregister (h : p.Recorded) (he : e ∈ p.entries) :
    Spares e.party p (p.unregister e.token) := by
  refine ⟨?_, rfl, rfl, List.suffix_rfl⟩
  rw [left_unregister, List.filter_comm]
  refine List.filter_eq_self.2 fun f hf => decide_eq_true fun htoken => ?_
  obtain ⟨hf, hparty⟩ := List.mem_filter.1 hf
  exact of_decide_eq_true hparty
    (congrArg Entry.party (h.eq_of_token (mem_entries_of_mem_left hf) he htoken))

/-! ## What terminals own -/

/-- **What a terminal owns**: for each signal the registration of the token it holds, if
any, and that does what its handler asks for. -/
def Owns (p : Process) (k : Nat) (l : Listener) : Prop :=
  ∀ s, (p.left.filter fun e => e.party = some k ∧ e.token.signal = s)
    = (l.owner.token s).toList.map fun t =>
        ⟨t, some k, Owner.actionFor (.terminal k) (l.signals.handler s)⟩

namespace Owns

/-- A token that is held proves a registration of its signal. -/
theorem exists_entry (h : Owns p k l) (ht : l.owner.token s = some t) :
    t.signal = s ∧ ∃ e ∈ p.left, e.token = t ∧ e.party = some k := by
  have hmem : (⟨t, some k, Owner.actionFor (.terminal k) (l.signals.handler s)⟩ : Entry)
      ∈ p.left.filter fun e => e.party = some k ∧ e.token.signal = s := by
    rw [h s, ht]
    exact List.mem_singleton_self _
  obtain ⟨hleft, hfilter⟩ := List.mem_filter.1 hmem
  exact ⟨(of_decide_eq_true hfilter).2, _, hleft, rfl, rfl⟩

/-- A registration that is the terminal's is proved by a token that it holds. -/
theorem token_eq (h : Owns p k l) (he : e ∈ p.left) (hparty : e.party = some k) :
    l.owner.token e.token.signal = some e.token := by
  have hmem : e ∈ p.left.filter fun f => f.party = some k ∧ f.token.signal = e.token.signal :=
    List.mem_filter.2 ⟨he, decide_eq_true ⟨hparty, rfl⟩⟩
  rw [h, List.mem_map] at hmem
  obtain ⟨t, ht, hentry⟩ := hmem
  have hheld := Option.mem_toList.1 ht
  rwa [show t = e.token from congrArg Entry.token hentry] at hheld

/-- Only the tokens count, and the handlers of the signals that have one. -/
theorem congr {l' : Listener} (h : Owns p k l) (howner : l'.owner = l.owner)
    (hhandler : ∀ s, (l.owner.token s).isSome = true →
      l'.signals.handler s = l.signals.handler s) : Owns p k l' := by
  intro s
  rw [h s, howner]
  cases ht : l.owner.token s with
  | none => rfl
  | some t => rw [hhandler s (by rw [ht]; rfl)]

/-- Other parties do not change it. -/
theorem of_spares (h : Owns p k l) (hspares : Spares party p q) (hk : some k ≠ party) :
    Owns q k l := by
  intro s
  rw [hspares.filter fun e he => ?_]
  · exact h s
  · rw [(of_decide_eq_true he).1]
    exact hk

/-- There is no token of a signal that the platform cannot deliver. -/
theorem token_eq_none (h : Owns p k l) (hr : p.Recorded) (hs : s.isNative = false) :
    l.owner.token s = none := by
  rw [Option.eq_none_iff_forall_not_mem]
  intro t ht
  obtain ⟨rfl, e, he, rfl, -⟩ := h.exists_entry ht
  exact Bool.false_ne_true (hs.symm.trans (hr.native e (mem_entries_of_mem_left he)))

end Owns

/-- A registration given up that a terminal owns. -/
theorem Owns.giveUp (h : Owns p k l) (hr : q.Recorded) (hentries : ∀ e ∈ p.entries, e ∈ q.entries)
    (s : Signal) :
    (q.giveUp (l.owner.token s)).Recorded ∧ Spares (some k) q (q.giveUp (l.owner.token s)) := by
  cases ht : l.owner.token s with
  | none => exact ⟨hr, .refl _ q⟩
  | some t =>
    obtain ⟨-, e, he, rfl, hparty⟩ := h.exists_entry ht
    have he := hentries e (mem_entries_of_mem_left he)
    rw [← hparty]
    exact ⟨hr.unregister he, hr.spares_unregister he⟩

theorem entries_subset_register (h : e ∈ p.entries) :
    e ∈ (p.register party s action).2.entries := List.mem_append_right _ h

/-- What is left once a registration has been renewed. -/
theorem left_registerAnew (hr : p.Recorded) (hs : s.isNative = true) (o : Owner)
    (hold : ∀ t, o.token s = some t → t.id ≤ p.registry.issued) :
    (p.registerAnew k o s action).2.left
      = ⟨⟨s, p.registry.issued + 1⟩, some k, action⟩
        :: p.left.filter fun e => o.token s ≠ some e.token := by
  show ((p.register (some k) s action).2.giveUp (o.token s)).left = _
  rw [left_giveUp, hr.left_register hs (some k) action, List.filter_cons_of_pos]
  exact decide_eq_true fun hnew => Nat.not_succ_le_self _ (hold _ hnew)

/-- **A terminal that registers anew for a handler** owns afterwards what its handlers ask
for. -/
theorem Owns.registerAnew (h : Owns p k l) (hr : p.Recorded) (s : Signal) (handler : Handler) :
    Owns (p.registerAnew k l.owner s (Owner.actionFor (.terminal k) handler)).2 k
      { l with
        signals := l.signals.install s handler
        owner := (p.registerAnew k l.owner s (Owner.actionFor (.terminal k) handler)).1 } := by
  intro x
  cases hs : s.isNative with
  | false =>
    -- nothing is registered, and there was nothing before
    have hnone := h.token_eq_none hr hs
    have hsame : p.registerAnew k l.owner s (Owner.actionFor (.terminal k) handler)
        = (l.owner.hold s none, p) := by
      unfold Process.registerAnew
      rw [register_of_not_native hs, hnone]
      rfl
    rw [hsame, h x]
    by_cases hx : x = s
    · subst hx
      simp [hnone, Owner.hold]
    · simp [hx, Owner.hold, SignalTable.install]
  | true =>
    have hheld : ∀ t, l.owner.token s = some t → t.id ≤ p.registry.issued := fun t ht => by
      obtain ⟨-, e, he, rfl, -⟩ := h.exists_entry ht
      exact hr.issued e (mem_entries_of_mem_left he)
    have htoken : (p.registerAnew k l.owner s (Owner.actionFor (.terminal k) handler)).1
        = l.owner.hold s (some ⟨s, p.registry.issued + 1⟩) := by
      unfold Process.registerAnew
      rw [register_of_native hs]
    rw [left_registerAnew hr hs l.owner hheld, htoken, List.filter_cons, List.filter_comm, h x]
    by_cases hx : x = s
    · subst hx
      cases l.owner.token x <;> simp [Owner.hold, SignalTable.install]
    · -- what is given up is of another signal
      have hkeep : ∀ t, l.owner.token x = some t → l.owner.token s ≠ some t := fun t ht hts =>
        hx ((h.exists_entry ht).1.symm.trans (h.exists_entry hts).1)
      cases ht : l.owner.token x with
      | none => simp [Owner.hold, Ne.symm hx, hx, ht]
      | some t => simp [Owner.hold, SignalTable.install, Ne.symm hx, hx, ht, hkeep t ht]

/-- It has disturbed nobody. -/
theorem Owns.spares_registerAnew (h : Owns p k l) (hr : p.Recorded) (s : Signal)
    (action : Option Callee) :
    (p.registerAnew k l.owner s action).2.Recorded
      ∧ Spares (some k) p (p.registerAnew k l.owner s action).2 := by
  obtain ⟨hrecorded, hspares⟩ := h.giveUp (hr.register (some k) s action)
    (fun e he => entries_subset_register he) s
  exact ⟨hrecorded, (hr.spares_register (some k) s action).trans hspares⟩

/-- It has a token of the signal, if the platform can deliver it, and of all others that it
had one of. -/
theorem isSome_token_registerAnew (o : Owner) {x : Signal} (hx : x.isNative = true)
    (h : x = s ∨ (o.token x).isSome = true) :
    ((p.registerAnew k o s action).1.token x).isSome = true := by
  show ((o.hold s (p.register (some k) s action).1).token x).isSome = true
  rw [Owner.hold_token]
  by_cases hxs : x = s
  · rw [if_pos hxs, register_of_native (hxs ▸ hx)]
    rfl
  · rw [if_neg hxs]
    exact h.resolve_left hxs

/-- **A terminal that starts to listen** to some signals, one after the other. -/
theorem Owns.listen {o : Owner} (h : Owns p k { owner := o }) (hr : p.Recorded)
    (signals : List Signal) :
    let q := signals.foldl (fun (o, p) s => p.registerAnew k o s none) (o, p)
    q.2.Recorded ∧ Spares (some k) p q.2 ∧ Owns q.2 k { owner := q.1 }
      ∧ ∀ x, x.isNative = true → x ∈ signals ∨ (o.token x).isSome = true →
          (q.1.token x).isSome = true := by
  induction signals generalizing o p with
  | nil => exact ⟨hr, .refl _ p, h, fun x _ hx => hx.resolve_left List.not_mem_nil⟩
  | cons s signals ih =>
    have hone : Owns (p.registerAnew k o s none).2 k
        { owner := (p.registerAnew k o s none).1 } :=
      (h.registerAnew hr s .default).congr rfl fun x _ => by
        by_cases hx : x = s
        · exact (if_pos hx).symm
        · exact (if_neg hx).symm
    obtain ⟨hr', hspares⟩ := h.spares_registerAnew hr s none
    obtain ⟨hrecorded, hrest, howns, htokens⟩ := ih hone hr'
    refine ⟨hrecorded, hspares.trans hrest, howns, fun x hx hor => htokens x hx ?_⟩
    rcases hor with hmem | hsome
    · rcases List.mem_cons.1 hmem with hxs | hmem
      · exact .inr (isSome_token_registerAnew o hx (.inl hxs))
      · exact .inl hmem
    · exact .inr (isSome_token_registerAnew o hx (.inr hsome))

/-- **A party that gives up tokens of its own**, one after the other. -/
theorem Recorded.foldl_unregister {tokens : List Token} (h : p.Recorded)
    (hown : ∀ t ∈ tokens, ∃ e ∈ p.entries, e.token = t ∧ e.party = party) :
    (tokens.foldl Process.unregister p).Recorded
      ∧ Spares party p (tokens.foldl Process.unregister p)
      ∧ (tokens.foldl Process.unregister p).left = p.left.filter (·.token ∉ tokens) := by
  induction tokens generalizing p with
  | nil => exact ⟨h, .refl _ p, (List.filter_eq_self.2 fun _ _ => by simp).symm⟩
  | cons t tokens ih =>
    obtain ⟨⟨e, he, rfl, rfl⟩, hrest⟩ := List.forall_mem_cons.1 hown
    obtain ⟨hrecorded, hspares, hleft⟩ := ih (h.unregister he) hrest
    refine ⟨hrecorded, (h.spares_unregister he).trans hspares, hleft.trans ?_⟩
    rw [left_unregister, List.filter_filter]
    exact List.filter_congr fun f _ => by simp [Bool.and_comm]

end Teletype.Process
