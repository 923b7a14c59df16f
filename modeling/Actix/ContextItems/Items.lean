import Actix.Handler

/-! # The wait item and the message items

`ActorDelayedMessageItem` returns `Pending` while its timer does, and once the timer fires
runs the tail of `ActorMessageItem::poll`. Both take the message with `take().unwrap()`,
whose panic is `none` here.
-/

namespace Actix

variable {F A C M R T : Type}

/-- `ActorWaitItem(Pin<Box<dyn ActorFuture<Output = (), Actor = A>>>)`. -/
structure ActorWaitItem (F : Type) where
  fut : F

def ActorWaitItem.new (fut : F) : ActorWaitItem F := ⟨fut⟩

/-- `ActorWaitItem::poll`, with `f` the boxed future. -/
def ActorWaitItem.poll (cx : Context C) (f : ActorFuture F A C Unit)
    (σ : Polled (ActorWaitItem F) A C) : Poll Unit × Polled (ActorWaitItem F) A C :=
  match f.poll σ.item.fut σ.world with
  | (.pending, fut, w) => (if (cx.state w.2).alive then .pending else .ready (), ⟨⟨fut⟩, w⟩)
  | (.ready _, fut, w) => (.ready (), ⟨⟨fut⟩, w⟩)

structure ActorMessageItem (M : Type) where
  msg : Option M

def ActorMessageItem.new (msg : M) : ActorMessageItem M := ⟨some msg⟩

/-- `ActorMessageItem::poll`: dispatch `self.msg.take().unwrap()`, then `Ready(())`. -/
def ActorMessageItem.poll (h : Handler A C M R T) (σ : Polled (ActorMessageItem M) A C) :
    Option (Poll Unit × Polled (ActorMessageItem M) A C) :=
  match σ.item.msg with
  | none => none
  | some msg => some (.ready (), ⟨⟨none⟩, h.dispatch σ.world msg⟩)

theorem ActorMessageItem.poll_new (h : Handler A C M R T) (msg : M) (w : A × C) :
    ActorMessageItem.poll h ⟨.new msg, w⟩ = some (.ready (), ⟨⟨none⟩, h.dispatch w msg⟩) :=
  rfl

theorem ActorMessageItem.poll_taken (h : Handler A C M R T) (w : A × C) :
    ActorMessageItem.poll h ⟨⟨none⟩, w⟩ = none := rfl

structure ActorDelayedMessageItem (M : Type) where
  msg : Option M
  timeout : Sleep

/-- `ActorDelayedMessageItem::new`, where `sleep` is `actix_rt::time::sleep`. -/
def ActorDelayedMessageItem.new {D : Type} (sleep : D → Sleep) (msg : M) (timeout : D) :
    ActorDelayedMessageItem M :=
  ⟨some msg, sleep timeout⟩

/-- `ActorDelayedMessageItem::poll`: `ready!(this.timeout.poll(task))`, then as above. -/
def ActorDelayedMessageItem.poll (h : Handler A C M R T)
    (σ : Polled (ActorDelayedMessageItem M) A C) :
    Option (Poll Unit × Polled (ActorDelayedMessageItem M) A C) :=
  let (fired, timeout) := σ.item.timeout.poll
  match fired with
  | .pending => some (.pending, ⟨⟨σ.item.msg, timeout⟩, σ.world⟩)
  | .ready () =>
      match σ.item.msg with
      | none => none
      | some msg => some (.ready (), ⟨⟨none, timeout⟩, h.dispatch σ.world msg⟩)

def ActorDelayedMessageItem.Polls (h : Handler A C M R T)
    (σ : Polled (ActorDelayedMessageItem M) A C) (r : Poll Unit)
    (σ' : Polled (ActorDelayedMessageItem M) A C) : Prop :=
  ActorDelayedMessageItem.poll h σ = some (r, σ')

theorem ActorDelayedMessageItem.poll_of_pending (h : Handler A C M R T)
    {σ : Polled (ActorDelayedMessageItem M) A C}
    (hp : σ.item.timeout.answer σ.item.timeout.polled = .pending) :
    ActorDelayedMessageItem.poll h σ =
      some (.pending, ⟨⟨σ.item.msg, σ.item.timeout.poll.2⟩, σ.world⟩) := by
  simp [ActorDelayedMessageItem.poll, Sleep.poll, hp]

theorem ActorDelayedMessageItem.poll_of_ready (h : Handler A C M R T)
    {σ : Polled (ActorDelayedMessageItem M) A C}
    (hr : σ.item.timeout.answer σ.item.timeout.polled = .ready ()) :
    ActorDelayedMessageItem.poll h σ =
      (ActorMessageItem.poll h ⟨⟨σ.item.msg⟩, σ.world⟩).map
        fun p => (p.1, ⟨⟨p.2.item.msg, σ.item.timeout.poll.2⟩, p.2.world⟩) := by
  obtain ⟨⟨_ | msg, t⟩, w⟩ := σ <;> simp only at hr <;>
    simp [ActorDelayedMessageItem.poll, ActorMessageItem.poll, Sleep.poll, hr]

theorem ActorDelayedMessageItem.poll_timeout {h : Handler A C M R T} {r : Poll Unit}
    {σ σ' : Polled (ActorDelayedMessageItem M) A C}
    (hp : ActorDelayedMessageItem.poll h σ = some (r, σ')) :
    σ'.item.timeout = σ.item.timeout.poll.2 := by
  cases hfire : σ.item.timeout.answer σ.item.timeout.polled with
  | pending =>
      rw [ActorDelayedMessageItem.poll_of_pending h hfire] at hp
      cases hp
      rfl
  | ready u =>
      rw [ActorDelayedMessageItem.poll_of_ready h hfire, Option.map_eq_some'] at hp
      obtain ⟨p, -, hp⟩ := hp
      cases hp
      rfl

/-- The message still in place, nothing delivered, and every timer answer so far `Pending`. -/
structure ActorDelayedMessageItem.Armed (t₀ : Sleep) (msg : M) (w : A × C)
    (σ : Polled (ActorDelayedMessageItem M) A C) : Prop where
  msg_eq : σ.item.msg = some msg
  world_eq : σ.world = w
  answer_eq : σ.item.timeout.answer = t₀.answer
  start_le : t₀.polled ≤ σ.item.timeout.polled
  pending_before : ∀ i, t₀.polled ≤ i → i < σ.item.timeout.polled → t₀.answer i = .pending

theorem ActorDelayedMessageItem.armed_new {D : Type} (sleep : D → Sleep) (msg : M) (d : D)
    (w : A × C) : ActorDelayedMessageItem.Armed (sleep d) msg w ⟨.new sleep msg d, w⟩ :=
  ⟨rfl, rfl, rfl, Nat.le_refl _, fun _ h₁ h₂ => absurd h₂ (Nat.not_lt.mpr h₁)⟩

theorem ActorDelayedMessageItem.Armed.poll_pending {h : Handler A C M R T} {t₀ : Sleep}
    {msg : M} {w : A × C} {σ σ' : Polled (ActorDelayedMessageItem M) A C}
    (armed : ActorDelayedMessageItem.Armed t₀ msg w σ)
    (hpoll : ActorDelayedMessageItem.Polls h σ .pending σ') :
    ActorDelayedMessageItem.Armed t₀ msg w σ' := by
  cases hfire : σ.item.timeout.answer σ.item.timeout.polled with
  | ready u =>
      rw [ActorDelayedMessageItem.Polls, ActorDelayedMessageItem.poll_of_ready h hfire,
        armed.msg_eq] at hpoll
      simp [ActorMessageItem.poll] at hpoll
  | pending =>
      rw [ActorDelayedMessageItem.Polls, ActorDelayedMessageItem.poll_of_pending h hfire] at hpoll
      obtain rfl := (Prod.mk.inj (Option.some.inj hpoll)).2
      refine ⟨armed.msg_eq, armed.world_eq, by simp [armed.answer_eq],
        Nat.le_succ_of_le armed.start_le, fun i h₁ h₂ => ?_⟩
      rcases Nat.lt_succ_iff_lt_or_eq.mp h₂ with h₂ | rfl
      · exact armed.pending_before i h₁ h₂
      · rw [← armed.answer_eq, hfire]

/-- Along `Pending` polls a delayed item stays armed; its next poll delivers once if due. -/
theorem delayed_item_fires_once {D : Type} (h : Handler A C M R T) (sleep : D → Sleep)
    (msg : M) (d : D) (w : A × C) {σ : Polled (ActorDelayedMessageItem M) A C}
    (run : PendingRun (ActorDelayedMessageItem.Polls h) ⟨.new sleep msg d, w⟩ σ) :
    ActorDelayedMessageItem.Armed (sleep d) msg w σ ∧
      ((sleep d).answer σ.item.timeout.polled = .pending →
        ActorDelayedMessageItem.poll h σ =
          some (.pending, ⟨⟨some msg, σ.item.timeout.poll.2⟩, w⟩)) ∧
      ((sleep d).answer σ.item.timeout.polled = .ready () →
        ActorDelayedMessageItem.poll h σ =
          some (.ready (), ⟨⟨none, σ.item.timeout.poll.2⟩, h.dispatch w msg⟩)) ∧
      ActorMessageItem.poll h ⟨.new msg, w⟩ = some (.ready (), ⟨⟨none⟩, h.dispatch w msg⟩) := by
  have armed := run.invariant (ActorDelayedMessageItem.armed_new sleep msg d w)
    fun _ _ ha hp => ha.poll_pending hp
  refine ⟨armed, fun hp => ?_, fun hr => ?_, ActorMessageItem.poll_new h msg w⟩
  · rw [← armed.answer_eq] at hp
    rw [ActorDelayedMessageItem.poll_of_pending h hp, armed.msg_eq, armed.world_eq]
  · rw [← armed.answer_eq] at hr
    rw [ActorDelayedMessageItem.poll_of_ready h hr, armed.msg_eq, armed.world_eq]
    rfl

def sleepTicks (d : Nat) : Sleep := ⟨fun i => if i < d then .pending else .ready (), 0⟩

theorem delayed_item_fires_once_after_two_ticks :
    PendingRun (ActorDelayedMessageItem.Polls countingHandler) ⟨.new sleepTicks 7 2, (0, ())⟩
        ⟨⟨some 7, { sleepTicks 2 with polled := 2 }⟩, (0, ())⟩ ∧
      ActorDelayedMessageItem.Armed (sleepTicks 2) 7 (0, ())
        ⟨⟨some 7, { sleepTicks 2 with polled := 2 }⟩, (0, ())⟩ ∧
      ((sleepTicks 2).answer 2 = .pending →
        ActorDelayedMessageItem.poll countingHandler
            ⟨⟨some 7, { sleepTicks 2 with polled := 2 }⟩, (0, ())⟩ =
          some (.pending, ⟨⟨some 7, { sleepTicks 2 with polled := 3 }⟩, (0, ())⟩)) ∧
      ((sleepTicks 2).answer 2 = .ready () →
        ActorDelayedMessageItem.poll countingHandler
            ⟨⟨some 7, { sleepTicks 2 with polled := 2 }⟩, (0, ())⟩ =
          some (.ready (), ⟨⟨none, { sleepTicks 2 with polled := 3 }⟩,
            countingHandler.dispatch (0, ()) 7⟩)) ∧
      ActorMessageItem.poll countingHandler ⟨.new 7, (0, ())⟩ =
        some (.ready (), ⟨⟨none⟩, countingHandler.dispatch (0, ()) 7⟩) := by
  have run : PendingRun (ActorDelayedMessageItem.Polls countingHandler)
      ⟨.new sleepTicks 7 2, (0, ())⟩ ⟨⟨some 7, { sleepTicks 2 with polled := 2 }⟩, (0, ())⟩ :=
    .tail (.single rfl) rfl
  exact ⟨run, delayed_item_fires_once countingHandler sleepTicks 7 2 (0, ()) run⟩

end Actix
