import Actix.ContextItems.Items

/-! # Message items under any driver

Nothing in the items checks that a driver drops them after `Ready`. A delayed item is a
two-state machine over its timer's answers, `Armed` until the first `Ready` and `Fired`
ever after, and the message is delivered on the one transition between them.
-/

namespace Actix

variable {A C M R T : Type}

def ActorMessageItem.Polls (h : Handler A C M R T) (σ : Polled (ActorMessageItem M) A C)
    (r : Poll Unit) (σ' : Polled (ActorMessageItem M) A C) : Prop :=
  ActorMessageItem.poll h σ = some (r, σ')

namespace ActorDelayedMessageItem

/-- The message delivered once, at the one timer answer read so far that was `Ready`. -/
structure Fired (h : Handler A C M R T) (t₀ : Sleep) (msg : M) (w : A × C)
    (σ : Polled (ActorDelayedMessageItem M) A C) : Prop where
  msg_eq : σ.item.msg = none
  world_eq : σ.world = h.dispatch w msg
  answer_eq : σ.item.timeout.answer = t₀.answer
  fired_at : ∃ i, t₀.polled ≤ i ∧ i < σ.item.timeout.polled ∧ t₀.answer i = .ready () ∧
    ∀ j, t₀.polled ≤ j → j < σ.item.timeout.polled → j ≠ i → t₀.answer j = .pending

section Transitions

variable {h : Handler A C M R T} {t₀ : Sleep} {msg : M} {w : A × C}
  {σ σ' : Polled (ActorDelayedMessageItem M) A C} {r : Poll Unit}

theorem Armed.poll_cases (armed : Armed t₀ msg w σ) (hpoll : Polls h σ r σ') :
    (r = .pending ∧ Armed t₀ msg w σ') ∨ (r = .ready () ∧ Fired h t₀ msg w σ') := by
  cases hfire : σ.item.timeout.answer σ.item.timeout.polled with
  | pending =>
      rw [Polls, poll_of_pending h hfire] at hpoll
      obtain ⟨rfl, rfl⟩ := Prod.mk.inj (Option.some.inj hpoll)
      exact .inl ⟨rfl, armed.poll_pending (poll_of_pending h hfire)⟩
  | ready u =>
      rw [Polls, poll_of_ready h hfire, armed.msg_eq] at hpoll
      obtain ⟨rfl, rfl⟩ := Prod.mk.inj (Option.some.inj hpoll)
      refine .inr ⟨rfl, rfl, by simp [armed.world_eq], by simp [armed.answer_eq], ?_⟩
      refine ⟨_, armed.start_le, by simp, armed.answer_eq ▸ hfire, fun j h₁ h₂ _ => ?_⟩
      exact armed.pending_before j h₁ (by simp at h₂; omega)

theorem Fired.poll (fired : Fired h t₀ msg w σ) (hpoll : Polls h σ r σ') :
    r = .pending ∧ Fired h t₀ msg w σ' := by
  cases hfire : σ.item.timeout.answer σ.item.timeout.polled with
  | ready u =>
      rw [Polls, poll_of_ready h hfire, fired.msg_eq] at hpoll
      cases hpoll
  | pending =>
      rw [Polls, poll_of_pending h hfire] at hpoll
      obtain ⟨rfl, rfl⟩ := Prod.mk.inj (Option.some.inj hpoll)
      obtain ⟨i, h₁, h₂, hi, hrest⟩ := fired.fired_at
      refine ⟨rfl, fired.msg_eq, fired.world_eq, by simp [fired.answer_eq],
        i, h₁, by simp; omega, hi, fun j hj₁ hj₂ hne => ?_⟩
      rcases Nat.lt_succ_iff_lt_or_eq.mp (by simpa using hj₂) with hj₂ | rfl
      · exact hrest j hj₁ hj₂ hne
      · rw [← fired.answer_eq, hfire]

end Transitions

section Progress

variable {D : Type} {h : Handler A C M R T} {sleep : D → Sleep} {msg : M} {d : D} {w : A × C}
  {j : Nat} (hj : (sleep d).polled ≤ j) (hfire : (sleep d).answer j = .ready ())

include hj hfire

theorem Armed.polled_le {σ : Polled (ActorDelayedMessageItem M) A C}
    (armed : Armed (sleep d) msg w σ) : σ.item.timeout.polled ≤ j := by
  refine Nat.le_of_not_lt fun hlt => ?_
  have := armed.pending_before j hj hlt
  rw [hfire] at this
  exact Poll.noConfusion this

theorem Armed.pending_step {σ σ' : Polled (ActorDelayedMessageItem M) A C}
    (armed : Armed (sleep d) msg w σ) (hp : Polls h σ .pending σ') :
    Armed (sleep d) msg w σ' ∧ j - σ'.item.timeout.polled < j - σ.item.timeout.polled := by
  have armed' := armed.poll_pending hp
  have hpol : σ'.item.timeout.polled = σ.item.timeout.polled + 1 := by
    rw [poll_timeout hp, Sleep.poll_polled]
  have := armed'.polled_le hj hfire
  exact ⟨armed', by omega⟩

theorem Armed.progress {σ : Polled (ActorDelayedMessageItem M) A C}
    (armed : Armed (sleep d) msg w σ) :
    ∃ r σ', Polls h σ r σ' ∧ (r = .pending →
      Armed (sleep d) msg w σ' ∧ j - σ'.item.timeout.polled < j - σ.item.timeout.polled) := by
  cases hnext : σ.item.timeout.answer σ.item.timeout.polled with
  | pending =>
      exact ⟨.pending, _, poll_of_pending h hnext,
        fun _ => armed.pending_step hj hfire (poll_of_pending h hnext)⟩
  | ready u =>
      refine ⟨.ready (), ⟨⟨none, σ.item.timeout.poll.2⟩, h.dispatch σ.world msg⟩, ?_,
        fun hr => Poll.noConfusion hr⟩
      rw [Polls, poll_of_ready h hnext, armed.msg_eq]
      rfl

end Progress

end ActorDelayedMessageItem

/-- With the timer's `Ready` at `j`, a fresh delayed item fires within `j` polls. -/
theorem delayed_item_cannot_pend_forever {D : Type} (h : Handler A C M R T)
    (sleep : D → Sleep) (msg : M) (d : D) (w : A × C) (j : Nat) (hj : (sleep d).polled ≤ j)
    (hfire : (sleep d).answer j = .ready ()) :
    (∃ n, ∃ f : Nat → Polled (ActorDelayedMessageItem M) A C, n ≤ j - (sleep d).polled ∧
      f 0 = ⟨.new sleep msg d, w⟩ ∧
      (∀ k, k < n → ActorDelayedMessageItem.Polls h (f k) .pending (f (k + 1))) ∧
      ActorDelayedMessageItem.Polls h (f n) (.ready ()) (f (n + 1)) ∧
      ActorDelayedMessageItem.Fired h (sleep d) msg w (f (n + 1))) ∧
    ∀ (f : Nat → Polled (ActorDelayedMessageItem M) A C) (n : Nat),
      f 0 = ⟨.new sleep msg d, w⟩ →
      (∀ k, k < n → ActorDelayedMessageItem.Polls h (f k) .pending (f (k + 1))) →
      n ≤ j - (sleep d).polled := by
  refine ⟨?_, fun f n h₀ calls => ?_⟩
  · obtain ⟨n, f, hn, h₀, calls, armed, r, hr, hlast⟩ :=
      PendingRun.terminates (fun σ => j - σ.item.timeout.polled)
        (fun _ armed => armed.progress hj hfire) (ActorDelayedMessageItem.armed_new sleep msg d w)
    rcases armed.poll_cases hlast with ⟨hp, -⟩ | ⟨rfl, fired⟩
    · exact absurd hp hr
    · exact ⟨n, f, hn, h₀, calls, hlast, fired⟩
  · have := pending_calls_le (fun σ => j - σ.item.timeout.polled)
      (fun _ _ armed hp => armed.pending_step hj hfire hp)
      (h₀ ▸ ActorDelayedMessageItem.armed_new sleep msg d w) calls
    rwa [h₀] at this

theorem delayed_item_cannot_pend_forever_past_two_ticks :
    (sleepTicks 2).polled ≤ 2 ∧ (sleepTicks 2).answer 2 = .ready () ∧
      (∃ n, ∃ f : Nat → Polled (ActorDelayedMessageItem Nat) Nat Unit,
        n ≤ 2 - (sleepTicks 2).polled ∧ f 0 = ⟨.new sleepTicks 7 2, (0, ())⟩ ∧
        (∀ k, k < n → ActorDelayedMessageItem.Polls countingHandler (f k) .pending (f (k + 1))) ∧
        ActorDelayedMessageItem.Polls countingHandler (f n) (.ready ()) (f (n + 1)) ∧
        ActorDelayedMessageItem.Fired countingHandler (sleepTicks 2) 7 (0, ()) (f (n + 1))) ∧
      ∀ (f : Nat → Polled (ActorDelayedMessageItem Nat) Nat Unit) (n : Nat),
        f 0 = ⟨.new sleepTicks 7 2, (0, ())⟩ →
        (∀ k, k < n → ActorDelayedMessageItem.Polls countingHandler (f k) .pending (f (k + 1))) →
        n ≤ 2 - (sleepTicks 2).polled :=
  ⟨by decide, rfl,
    delayed_item_cannot_pend_forever countingHandler sleepTicks 7 2 (0, ()) 2 (by decide) rfl⟩

/-- Whatever a driver does, neither message item delivers its message twice. -/
theorem message_items_deliver_at_most_once {D : Type} (h : Handler A C M R T)
    (sleep : D → Sleep) (msg : M) (d : D) (w : A × C) :
    (∀ σ, Run (ActorMessageItem.Polls h) ⟨.new msg, w⟩ σ →
      σ = ⟨.new msg, w⟩ ∨ σ = ⟨⟨none⟩, h.dispatch w msg⟩) ∧
    (∀ σ, Run (ActorDelayedMessageItem.Polls h) ⟨.new sleep msg d, w⟩ σ →
      ActorDelayedMessageItem.Armed (sleep d) msg w σ ∨
        ActorDelayedMessageItem.Fired h (sleep d) msg w σ) ∧
    (∀ σ r σ', ActorDelayedMessageItem.Armed (sleep d) msg w σ →
      ActorDelayedMessageItem.Polls h σ r σ' →
      (r = .pending ∧ ActorDelayedMessageItem.Armed (sleep d) msg w σ') ∨
        (r = .ready () ∧ ActorDelayedMessageItem.Fired h (sleep d) msg w σ')) ∧
    (∀ σ r σ', ActorDelayedMessageItem.Fired h (sleep d) msg w σ →
      ActorDelayedMessageItem.Polls h σ r σ' →
      r = .pending ∧ ActorDelayedMessageItem.Fired h (sleep d) msg w σ') := by
  refine ⟨fun σ run => ?_, fun σ run => ?_,
    fun _ _ _ armed hp => armed.poll_cases hp, fun _ _ _ fired hp => fired.poll hp⟩
  · induction run with
    | refl => exact .inl rfl
    | tail _ hp ih =>
        obtain ⟨r, hp⟩ := hp
        rcases ih with rfl | rfl <;> cases hp
        exact .inr rfl
  · induction run with
    | refl => exact .inl (ActorDelayedMessageItem.armed_new sleep msg d w)
    | tail _ hp ih =>
        obtain ⟨r, hp⟩ := hp
        rcases ih with armed | fired
        · exact (armed.poll_cases hp).imp And.right And.right
        · exact .inr (fired.poll hp).2

end Actix
