import Teletype.Proofs.Terminal.Ledger

/-!
# The newest registration that is left

Terminals of one process are opened, given handlers and closed, and others register and
give up what is theirs, in any order. Whatever the history, a signal goes to the newest
of its registrations that is left (`dispatch_play`). An open terminal has exactly one for
every signal that the platform can deliver, and any other terminal none.

Each act keeps a process in order (`Orderly`), and there are two kinds of acts. Either a
terminal acts, spares all others, and is in order itself afterwards (`setListener`), or
somebody else acts, spares all terminals, and holds the tokens of what is left
(`setHeld`).
-/

namespace Teletype.Process

variable {p q : Process} {k : Nat} {l : Listener} {s : Signal} {t : Token} {party : Option Nat}
  {action : Option Callee}

/-! ## The acts -/

/-- **A process in order.** -/
structure Orderly (p : Process) : Prop where
  /-- The registry keeps what is left. -/
  recorded : p.Recorded
  /-- Each terminal owns what its handlers ask for. -/
  owns : ∀ k, Owns p k (p.listener k)
  /-- An open terminal has a token of every signal that the platform can deliver. -/
  covered : ∀ k, (p.listener k).phase = .opened → ∀ s, s.isNative = true →
    ((p.listener k).owner.token s).isSome = true
  /-- A terminal that is not open has no tokens. -/
  bare : ∀ k, (p.listener k).phase ≠ .opened → ∀ s, (p.listener k).owner.token s = none
  /-- The others hold the tokens of the registrations that are theirs. -/
  held : ∀ t, t ∈ p.held ↔ ∃ e ∈ p.left, e.party = none ∧ e.token = t

theorem orderly_empty : Orderly {} where
  recorded := recorded_empty
  owns _ _ := rfl
  covered _ h := by cases h
  bare _ _ _ := rfl
  held t := by simp [left]

namespace Orderly

/-- **A terminal that acts**: the others are spared, and it is in order itself. -/
theorem setListener (h : p.Orderly) (hr : q.Recorded) (hspares : Spares (some k) p q)
    (howns : Owns q k l)
    (hcovered : l.phase = .opened → ∀ s, s.isNative = true → (l.owner.token s).isSome = true)
    (hbare : l.phase ≠ .opened → ∀ s, l.owner.token s = none) : (q.setListener k l).Orderly := by
  have hlistener := hspares.setListener k l
  refine ⟨⟨hr.stack, hr.descending, hr.issued, hr.released, hr.native⟩, fun j => ?_, fun j => ?_,
    fun j => ?_, fun t => ?_⟩
  · rw [hlistener]
    by_cases hj : j = k
    · subst hj
      rw [if_pos rfl]
      exact howns
    · rw [if_neg hj]
      have hj : some j ≠ some k := fun heq => hj (Option.some.inj heq)
      exact Owns.of_spares (q := q) (h.owns j) hspares hj
  · rw [hlistener]
    by_cases hj : j = k
    · rw [if_pos hj]
      exact hcovered
    · rw [if_neg hj]
      exact h.covered j
  · rw [hlistener]
    by_cases hj : j = k
    · rw [if_pos hj]
      exact hbare
    · rw [if_neg hj]
      exact h.bare j
  · show t ∈ q.held ↔ ∃ e ∈ q.left, e.party = none ∧ e.token = t
    rw [hspares.held, h.held]
    have hmem : ∀ e : Entry, e.party = none → (e ∈ q.left ↔ e ∈ p.left) := fun e he =>
      hspares.mem_iff (by rw [he]; exact nofun)
    exact exists_congr fun e =>
      ⟨fun ⟨he, hp, ht⟩ => ⟨(hmem e hp).2 he, hp, ht⟩,
        fun ⟨he, hp, ht⟩ => ⟨(hmem e hp).1 he, hp, ht⟩⟩

/-- **Somebody else who acts**: the terminals are spared, and the tokens that are held are
those of what is left. -/
theorem setHeld (h : p.Orderly) (hr : q.Recorded) (hspares : Spares none p q) {held : List Token}
    (hheld : ∀ t, t ∈ held ↔ ∃ e ∈ q.left, e.party = none ∧ e.token = t) :
    ({ q with held } : Process).Orderly := by
  refine ⟨⟨hr.stack, hr.descending, hr.issued, hr.released, hr.native⟩, fun k => ?_, fun k => ?_,
    fun k => ?_, hheld⟩
  · show Owns q k (q.listener k)
    rw [hspares.listener]
    exact (h.owns k).of_spares hspares nofun
  · show (q.listener k).phase = _ → _
    rw [hspares.listener]
    exact h.covered k
  · show (q.listener k).phase ≠ _ → _
    rw [hspares.listener]
    exact h.bare k

/-- Somebody who registers. -/
theorem registered (h : p.Orderly) (s : Signal) (action : Option Callee) :
    (p.registered s action).Orderly := by
  have hregistered : p.registered s action = { (p.register none s action).2 with
      held := (p.register none s action).1.toList ++ (p.register none s action).2.held } := rfl
  have hspares := h.recorded.spares_register none s action
  rw [hregistered]
  refine h.setHeld (h.recorded.register none s action) hspares fun t => ?_
  rw [List.mem_append, hspares.held, h.held]
  cases hs : s.isNative with
  | false =>
    rw [register_of_not_native hs]
    exact or_iff_right (List.not_mem_nil)
  | true =>
    rw [h.recorded.left_register hs none action, register_of_native hs, List.exists_mem_cons_iff]
    simp [eq_comm]

/-- Somebody who gives up a token. -/
theorem gaveUp (h : p.Orderly) (ht : t ∈ p.held) : (p.gaveUp t).Orderly := by
  obtain ⟨e, he, hparty, rfl⟩ := (h.held t).1 ht
  have he := mem_entries_of_mem_left he
  have hspares := h.recorded.spares_unregister he
  rw [hparty] at hspares
  refine setHeld h (h.recorded.unregister he) hspares fun u => ?_
  rw [List.mem_filter, decide_eq_true_iff, h.held, left_unregister]
  constructor
  · rintro ⟨⟨f, hf, hp, rfl⟩, hne⟩
    exact ⟨f, List.mem_filter.2 ⟨hf, decide_eq_true hne⟩, hp, rfl⟩
  · rintro ⟨f, hf, hp, rfl⟩
    obtain ⟨hf, hne⟩ := List.mem_filter.1 hf
    exact ⟨⟨f, hf, hp, rfl⟩, of_decide_eq_true hne⟩

/-- What a terminal that is opened registers. -/
theorem listen (h : p.Orderly) (hphase : (p.listener k).phase = .unopened) :
    let q := Signal.all.foldl (fun (o, p) s => p.registerAnew k o s none) ({}, p)
    q.2.Recorded ∧ Spares (some k) p q.2 ∧ Owns q.2 k { owner := q.1 }
      ∧ ∀ s, s.isNative = true → (q.1.token s).isSome = true := by
  have hnone := h.bare k (by rw [hphase]; exact nofun)
  have howns : Owns p k { owner := {} } := fun s => by
    rw [h.owns k s, hnone]
    rfl
  obtain ⟨hr, hspares, howns, htokens⟩ := howns.listen h.recorded Signal.all
  exact ⟨hr, hspares, howns, fun s hs => htokens s hs (.inl (Signal.mem_all s))⟩

/-- What a terminal that is closed gives up. -/
theorem disown (h : p.Orderly) (k : Nat) :
    let q := (p.listener k).owner.tokens.foldl Process.unregister p
    q.Recorded ∧ Spares (some k) p q
      ∧ q.left = p.left.filter (·.token ∉ (p.listener k).owner.tokens) := by
  refine h.recorded.foldl_unregister fun t ht => ?_
  obtain ⟨s, hs⟩ := Owner.mem_tokens.1 ht
  obtain ⟨-, e, he, htoken⟩ := (h.owns k).exists_entry hs
  exact ⟨e, mem_entries_of_mem_left he, htoken⟩

/-- A terminal that is opened. -/
theorem opened (h : p.Orderly) (hphase : (p.listener k).phase = .unopened) :
    (p.opened k).Orderly := by
  obtain ⟨hr, hspares, howns, htokens⟩ := h.listen hphase
  exact h.setListener hr hspares (howns.congr rfl fun _ _ => rfl) (fun _ => htokens)
    (fun hne => absurd rfl hne)

/-- A terminal that is given a handler. -/
theorem handled (h : p.Orderly) (k : Nat) (s : Signal) (handler : Handler) :
    (p.handled k s handler).Orderly := by
  unfold Process.handled
  dsimp only
  split
  · rename_i hphase
    obtain ⟨hr, hspares⟩ := (h.owns k).spares_registerAnew h.recorded s
      (Owner.actionFor (.terminal k) handler)
    refine h.setListener hr hspares ((h.owns k).registerAnew h.recorded s handler)
      (fun _ x hx => ?_) (fun hne => absurd hphase hne)
    have hsome := h.covered k hphase x hx
    exact isSome_token_registerAnew (p := p) (k := k) (p.listener k).owner hx (.inr hsome)
  · rename_i hphase
    -- without tokens it does not matter what the handlers are
    have hnone := h.bare k hphase
    refine h.setListener h.recorded (.refl _ p) ((h.owns k).congr rfl fun x hx => ?_)
      (fun hopened => absurd hopened hphase) (fun _ => hnone)
    rw [hnone] at hx
    exact absurd hx Bool.false_ne_true

/-- A terminal that is closed. -/
theorem closed (h : p.Orderly) (k : Nat) : (p.closed k).Orderly := by
  unfold Process.closed
  dsimp only
  split
  · obtain ⟨hr, hspares, hleft⟩ := h.disown k
    refine h.setListener hr hspares (fun s => ?_) nofun fun _ _ => rfl
    -- a registration of the terminal that is left has a token among those given up
    refine List.filter_eq_nil_iff.2 fun e he howned => ?_
    rw [hleft, List.mem_filter] at he
    obtain ⟨hparty, -⟩ := of_decide_eq_true howned
    exact of_decide_eq_true he.2 (Owner.mem_tokens.2 ⟨_, (h.owns k).token_eq he.1 hparty⟩)
  · exact h

/-- **Every act keeps a process in order.** -/
theorem after (h : p.Orderly) {a : Act} (he : p.Enabled a) : (p.after a).Orderly := by
  cases a with
  | register s id => exact h.registered s _
  | registerDefault s => exact h.registered s _
  | unregister t => exact h.gaveUp he
  | opening k => exact h.opened he
  | handle k s handler => exact h.handled k s handler
  | close k => exact h.closed k

end Orderly

/-- **Every history does.** -/
theorem orderly_play {history : List Act} (h : Allowed history) : (play history).Orderly := by
  induction history with
  | nil => exact orderly_empty
  | cons a earlier ih => exact (ih h.1).after h.2

/-! ## What an act is about -/

/-- **Which signals an act is about**: all of them, if a terminal is opened or closed. -/
def Act.About : Act → Signal → Prop
  | .register s _, x | .registerDefault s, x | .handle _ s _, x => x = s
  | .unregister t, x => x = t.signal
  | .opening _, _ | .close _, _ => True

theorem stack_register_of_ne {x : Signal} (hx : x ≠ s) :
    (p.register party s action).2.registry.stack x = p.registry.stack x := by
  cases hs : s.isNative with
  | false => rw [register_of_not_native hs]
  | true =>
    rw [register_of_native hs, Registry.register_of_native hs]
    exact if_neg hx

theorem stack_unregister_of_ne {x : Signal} (hx : x ≠ t.signal) :
    (p.unregister t).registry.stack x = p.registry.stack x := if_neg hx

/-- **Registrations of other signals** stay as they are. -/
theorem Orderly.stack_after (h : p.Orderly) {a : Act} {x : Signal} (hx : ¬ a.About x) :
    (p.after a).registry.stack x = p.registry.stack x := by
  cases a with
  | register s id =>
    show (p.register none s _).2.registry.stack x = _
    exact stack_register_of_ne hx
  | registerDefault s =>
    show (p.register none s _).2.registry.stack x = _
    exact stack_register_of_ne hx
  | unregister t => exact stack_unregister_of_ne hx
  | opening k => exact absurd trivial hx
  | close k => exact absurd trivial hx
  | handle k s handler =>
    show (p.handled k s handler).registry.stack x = _
    unfold Process.handled
    dsimp only
    split
    · -- the token that is given up is of the same signal
      show (((p.register (some k) s (Owner.actionFor (.terminal k) handler)).2.giveUp
        ((p.listener k).owner.token s)).registry.stack x) = _
      cases ht : (p.listener k).owner.token s with
      | none => exact stack_register_of_ne hx
      | some t =>
        have hsignal := ((h.owns k).exists_entry ht).1
        exact (stack_unregister_of_ne fun heq => hx (heq.trans hsignal)).trans
          (stack_register_of_ne hx)
    · rfl

/-! ## Histories -/

/-- **The ledger only grows.** -/
theorem Orderly.entries_after (h : p.Orderly) {a : Act} (he : p.Enabled a) :
    p.entries <:+ (p.after a).entries := by
  cases a with
  | register s id => exact (h.recorded.spares_register none s _).entries
  | registerDefault s => exact (h.recorded.spares_register none s none).entries
  | unregister t => exact List.suffix_rfl
  | opening k => exact (h.listen he).2.1.entries
  | handle k s handler =>
    show _ <:+ (p.handled k s handler).entries
    unfold Process.handled
    dsimp only
    split
    · exact ((h.owns k).spares_registerAnew h.recorded s _).2.entries
    · exact List.suffix_rfl
  | close k =>
    show _ <:+ (p.closed k).entries
    unfold Process.closed
    dsimp only
    split
    · exact (h.disown k).2.1.entries
    · exact List.suffix_rfl

theorem Orderly.signals_opened (h : p.Orderly) (hphase : (p.listener k).phase = .unopened)
    (j : Nat) :
    ((p.opened k).listener j).signals = if j = k then {} else (p.listener j).signals := by
  unfold Process.opened
  dsimp only
  rw [(h.listen hphase).2.1.setListener]
  split <;> rfl

theorem Orderly.signals_handled (h : p.Orderly) (k : Nat) (s : Signal) (handler : Handler)
    (j : Nat) : ((p.handled k s handler).listener j).signals
      = if j = k then (p.listener j).signals.install s handler else (p.listener j).signals := by
  -- the handler is put into the table whether or not the terminal is open
  have hset : ∀ (q : Process) (owner : Owner), Spares (some k) p q →
      ((q.setListener k { p.listener k with
        signals := (p.listener k).signals.install s handler, owner }).listener j).signals
        = if j = k then (p.listener j).signals.install s handler else (p.listener j).signals := by
    intro q owner hspares
    rw [hspares.setListener]
    by_cases hj : j = k
    · rw [if_pos hj, if_pos hj, hj]
    · rw [if_neg hj, if_neg hj]
  unfold Process.handled
  dsimp only
  split
  · exact hset _ _ ((h.owns k).spares_registerAnew h.recorded s _).2
  · exact hset p _ (.refl _ p)

theorem Orderly.signals_closed (h : p.Orderly) (k j : Nat) :
    ((p.closed k).listener j).signals = (p.listener j).signals := by
  unfold Process.closed
  dsimp only
  split
  · rw [(h.disown k).2.1.setListener]
    by_cases hj : j = k
    · rw [if_pos hj, hj]
    · rw [if_neg hj]
  · rfl

/-- **The handler that was last asked for**, since the terminal was opened. -/
def lastHandler (k : Nat) (s : Signal) : List Act → Handler
  | [] => .default
  | .opening j :: earlier => if k = j then .default else lastHandler k s earlier
  | .handle j x h :: earlier => if k = j ∧ s = x then h else lastHandler k s earlier
  | _ :: earlier => lastHandler k s earlier

/-- **It is the one in the table.** -/
theorem handler_play {history : List Act} (h : Allowed history) (k : Nat) (s : Signal) :
    ((play history).listener k).signals.handler s = lastHandler k s history := by
  induction history with
  | nil => rfl
  | cons a earlier ih =>
    have ih := ih h.1
    have horderly := orderly_play h.1
    have hsame : ∀ q : Process, (q.listener k).signals = ((play earlier).listener k).signals →
        (q.listener k).signals.handler s = lastHandler k s earlier := fun q hq => by
      rw [hq, ih]
    cases a with
    | register x id =>
      have hspares := horderly.recorded.spares_register none x (some (.callback id))
      exact hsame _ (congrArg (fun f => (f k).signals) hspares.listener)
    | registerDefault x =>
      have hspares := horderly.recorded.spares_register none x none
      exact hsame _ (congrArg (fun f => (f k).signals) hspares.listener)
    | unregister t => exact ih
    | opening j =>
      rw [play, after, horderly.signals_opened h.2, lastHandler]
      by_cases hj : k = j
      · rw [if_pos hj, if_pos hj]
      · rw [if_neg hj, if_neg hj, ih]
    | handle j x handler =>
      rw [play, after, horderly.signals_handled, lastHandler]
      by_cases hj : k = j
      · by_cases hx : s = x
        · rw [if_pos hj, if_pos ⟨hj, hx⟩]
          exact if_pos hx
        · rw [if_pos hj, if_neg fun hboth => hx hboth.2, ← ih]
          exact if_neg hx
      · rw [if_neg hj, if_neg fun hboth => hj hboth.1, ih]
    | close j => exact hsame _ (horderly.signals_closed j k)

/-- **A signal goes to the newest registration that is left**, after every history. No number
is given out twice, and what is done about some signals leaves the others alone. An open
terminal owns exactly one registration for every signal that the platform can deliver, the one
that its last handler asks for, and a closed one owns none. -/
theorem dispatch_play {history : List Act} (h : Allowed history) :
    (∀ s, (play history).registry.dispatch s = ((play history).latest? s).bind Entry.action)
    ∧ ((play history).entries.map (·.token.id)).Nodup
    ∧ (∀ a, (play history).Enabled a →
        (play history).entries <:+ ((play history).after a).entries
        ∧ ∀ s, ¬ a.About s →
          ((play history).after a).registry.stack s = (play history).registry.stack s)
    ∧ ∀ k,
      (((play history).listener k).phase = .opened → ∀ s, s.isNative = true →
        ∃ t, ((play history).left.filter fun e => e.party = some k ∧ e.token.signal = s)
          = [⟨t, some k, Owner.actionFor (.terminal k) (lastHandler k s history)⟩])
      ∧ (((play history).listener k).phase = .closed →
        ∀ e ∈ (play history).left, e.party ≠ some k) := by
  have horderly := orderly_play h
  refine ⟨horderly.recorded.dispatch_eq, horderly.recorded.nodup,
    fun a he => ⟨horderly.entries_after he, fun s hs => horderly.stack_after hs⟩,
    fun k => ⟨fun hphase s hs => ?_, fun hphase e he hparty => ?_⟩⟩
  · obtain ⟨t, ht⟩ := Option.isSome_iff_exists.1 (horderly.covered k hphase s hs)
    refine ⟨t, ?_⟩
    rw [horderly.owns k s, ht, handler_play h k s]
    rfl
  · have hnone := horderly.bare k (by rw [hphase]; exact nofun) e.token.signal
    rw [(horderly.owns k).token_eq he hparty] at hnone
    exact absurd hnone nofun

/-- A terminal is opened, somebody registers for the platform's own reaction to an interrupt,
and the terminal ignores interrupts: its registration is the newer one again. -/
theorem dispatch_play_ignored :
    Allowed [.handle 0 .int .ignore, .registerDefault .int, .opening 0]
      ∧ (play [.handle 0 .int .ignore, .registerDefault .int, .opening 0]).registry.dispatch .int
        = some (.terminal 0) := by
  have hallowed : Allowed [.handle 0 .int .ignore, .registerDefault .int, .opening 0] :=
    ⟨⟨⟨trivial, rfl⟩, trivial⟩, (by decide : Phase.opened ≠ .unopened)⟩
  refine ⟨hallowed, ?_⟩
  rw [(dispatch_play hallowed).1 .int]
  decide

end Teletype.Process
