import Teletype.Signal.Owner

/-!
# What registries and owners keep

The registrations of a process are told apart by numbers that are given out in order, so
that in a registry that has been used as intended no number is greater than the number of
those given out (`Registry.Bounded`). Then a registration is in force from the moment of
its token until that token is given up, whatever else is registered and given up.

An owner has its tokens in order (`Owner.InOrder`) if it holds each under its own signal
and all of them are in force. That is so once it listens, and as often as it registers
anew.
-/

namespace Teletype

theorem Signal.mem_all (s : Signal) : s ∈ Signal.all := by cases s <;> decide

namespace Registry

variable {α : Type} {r : Registry α} {s : Signal} {action : Option α} {t u : Token}

theorem mem_tokens : t ∈ r.tokens ↔ ∃ e ∈ r.stack t.signal, e.id = t.id := by
  unfold tokens
  simp only [List.mem_flatMap, List.mem_map]
  constructor
  · rintro ⟨s, -, e, he, rfl⟩
    exact ⟨e, he, rfl⟩
  · rintro ⟨e, he, hid⟩
    exact ⟨t.signal, Signal.mem_all _, e, he, by rw [hid]⟩

/-! ## One change -/

theorem register_of_native (hs : s.isNative = true) :
    r.register s action = (some ⟨s, r.issued + 1⟩,
      { issued := r.issued + 1
        stack := fun x => if x = s then ⟨r.issued + 1, action⟩ :: r.stack x else r.stack x }) :=
  if_pos hs

theorem register_of_not_native (hs : s.isNative = false) : r.register s action = (none, r) :=
  if_neg (by simp [hs])

/-- **What a token says** on the day it is given out. -/
theorem register_eq_some (h : (r.register s action).1 = some t) :
    s.isNative = true ∧ t = ⟨s, r.issued + 1⟩ ∧ (r.register s action).2.issued = r.issued + 1 := by
  cases hs : s.isNative with
  | false => simp [register_of_not_native hs] at h
  | true =>
    rw [register_of_native hs] at h ⊢
    exact ⟨rfl, (Option.some.inj h).symm, rfl⟩

theorem register_eq_none (h : (r.register s action).1 = none) :
    s.isNative = false ∧ (r.register s action).2 = r := by
  cases hs : s.isNative with
  | false => exact ⟨rfl, by rw [register_of_not_native hs]⟩
  | true => simp [register_of_native hs] at h

theorem mem_tokens_register :
    u ∈ (r.register s action).2.tokens ↔ (r.register s action).1 = some u ∨ u ∈ r.tokens := by
  cases hs : s.isNative with
  | false => simp [register_of_not_native hs]
  | true =>
    rw [register_of_native hs, mem_tokens, mem_tokens]
    obtain ⟨x, id⟩ := u
    by_cases hx : x = s
    · simp [hx]
    · simp [hx, Ne.symm hx]

theorem mem_tokens_unregister : u ∈ (r.unregister t).tokens ↔ u ∈ r.tokens ∧ u ≠ t := by
  rw [mem_tokens, mem_tokens]
  obtain ⟨x, id⟩ := u
  obtain ⟨y, jd⟩ := t
  by_cases hx : x = y
  · subst hx
    simp only [unregister, if_true, List.mem_filter, bne_iff_ne, ne_eq, Token.mk.injEq, true_and]
    constructor
    · rintro ⟨e, ⟨he, hne⟩, rfl⟩
      exact ⟨⟨e, he, rfl⟩, hne⟩
    · rintro ⟨⟨e, he, rfl⟩, hne⟩
      exact ⟨e, ⟨he, hne⟩, rfl⟩
  · simp [unregister, hx]

/-- **A registry in which no number is greater** than the number of those given out. -/
def Bounded (r : Registry α) : Prop := ∀ t ∈ r.tokens, t.id ≤ r.issued

theorem issued_le_register : r.issued ≤ (r.register s action).2.issued := by
  unfold register
  split
  · exact Nat.le_succ _
  · exact Nat.le_refl _

theorem Bounded.register (h : r.Bounded) (s : Signal) (action : Option α) :
    (r.register s action).2.Bounded := by
  intro t ht
  rcases mem_tokens_register.mp ht with hnew | ht
  · obtain ⟨-, rfl, hissued⟩ := register_eq_some hnew
    exact Nat.le_of_eq hissued.symm
  · exact Nat.le_trans (h t ht) issued_le_register

theorem Bounded.unregister (h : r.Bounded) (t : Token) : (r.unregister t).Bounded :=
  fun u hu => h u (mem_tokens_unregister.mp hu).1

end Registry

namespace Owner

variable {α : Type} {o : Owner} {r : Registry α} {s : Signal} {t : Token}

theorem mem_tokens : t ∈ o.tokens ↔ ∃ s, o.token s = some t := by
  unfold tokens
  rw [List.mem_filterMap]
  exact ⟨fun ⟨s, _, hs⟩ => ⟨s, hs⟩, fun ⟨s, hs⟩ => ⟨s, Signal.mem_all s, hs⟩⟩

section Filed

variable (hfiled : ∀ s t, o.token s = some t → t.signal = s)
include hfiled

theorem mem_tokens_of_filed : t ∈ o.tokens ↔ o.token t.signal = some t := by
  rw [mem_tokens]
  constructor
  · rintro ⟨s, hs⟩
    rwa [hfiled s t hs]
  · exact fun ht => ⟨_, ht⟩

theorem nodup_tokens : o.tokens.Nodup := by
  have hall : Signal.all.Nodup := by decide
  refine List.Pairwise.filterMap o.token (fun s s' hne t hs t' hs' htt' => hne ?_) hall
  rw [← hfiled s t hs, htt', hfiled s' t' hs']

end Filed

/-- **An owner with its tokens in order**: each is held under its own signal, and all are in
force. -/
structure InOrder (o : Owner) (r : Registry α) : Prop where
  /-- The registry is one. -/
  bounded : r.Bounded
  /-- A token is held under its own signal. -/
  filed : ∀ s t, o.token s = some t → t.signal = s
  /-- A signal that the platform cannot deliver has no token. -/
  native : ∀ s t, o.token s = some t → s.isNative = true
  /-- A token held is in force. -/
  inForce : ∀ s t, o.token s = some t → t ∈ r.tokens

theorem mem_tokens_giveUp {t : Option Token} {u : Token} :
    u ∈ (giveUp r t).tokens ↔ u ∈ r.tokens ∧ t ≠ some u := by
  cases t with
  | none => simp [giveUp]
  | some t => simp [giveUp, Registry.mem_tokens_unregister, eq_comm]

theorem bounded_giveUp (h : r.Bounded) (t : Option Token) : (giveUp r t).Bounded := by
  cases t with
  | none => exact h
  | some t => exact h.unregister t

theorem hold_token (o : Owner) (s x : Signal) (t : Option Token) :
    (o.hold s t).token x = if x = s then t else o.token x := rfl

/-- What is held afterwards is the token put in place, or was held before for another
signal. -/
theorem hold_eq_some_iff {t : Option Token} {x : Signal} {u : Token} :
    (o.hold s t).token x = some u ↔ x = s ∧ t = some u ∨ x ≠ s ∧ o.token x = some u := by
  rw [hold_token]
  by_cases hx : x = s <;> simp [hx]

/-- **Registering anew keeps an owner in order.** -/
theorem InOrder.register (h : o.InOrder r) (s : Signal) (action : Option α) :
    (o.register r s action).1.InOrder (o.register r s action).2 := by
  have heq : o.register r s action
      = (o.hold s (r.register s action).1, giveUp (r.register s action).2 (o.token s)) := rfl
  rw [heq]
  refine
    { bounded := bounded_giveUp (h.bounded.register s action) _
      filed := fun x t hx => ?_
      native := fun x t hx => ?_
      inForce := fun x t hx => mem_tokens_giveUp.mpr ?_ }
  · rcases hold_eq_some_iff.mp hx with ⟨rfl, hnew⟩ | ⟨-, hx⟩
    · rw [(Registry.register_eq_some hnew).2.1]
    · exact h.filed x t hx
  · rcases hold_eq_some_iff.mp hx with ⟨rfl, hnew⟩ | ⟨-, hx⟩
    · exact (Registry.register_eq_some hnew).1
    · exact h.native x t hx
  · rw [Registry.mem_tokens_register]
    rcases hold_eq_some_iff.mp hx with ⟨rfl, hnew⟩ | ⟨hne, hx⟩
    · -- the old token is none that was given out just now
      refine ⟨.inl hnew, fun hold => ?_⟩
      obtain ⟨-, rfl, -⟩ := Registry.register_eq_some hnew
      exact absurd (h.bounded _ (h.inForce _ _ hold)) (Nat.not_succ_le_self _)
    · -- nor one that is held for another signal
      refine ⟨.inr (h.inForce x t hx), fun hold => hne ?_⟩
      exact (h.filed x t hx).symm.trans (h.filed s t hold)

theorem InOrder.registerAll (h : o.InOrder r) (signals : List Signal) :
    let p := signals.foldl (fun (o, r) s => Owner.register o r s none) (o, r)
    p.1.InOrder p.2 := by
  induction signals generalizing o r with
  | nil => exact h
  | cons s signals ih => exact ih (h.register s none)

theorem inOrder_empty (h : r.Bounded) : ({} : Owner).InOrder r where
  bounded := h
  filed _ _ hx := by cases hx
  native _ _ hx := by cases hx
  inForce _ _ hx := by cases hx

/-- **An owner that starts listening is in order.** -/
theorem inOrder_listen (h : r.Bounded) : (listen r).1.InOrder (listen r).2 :=
  (inOrder_empty h).registerAll _

end Owner

end Teletype
