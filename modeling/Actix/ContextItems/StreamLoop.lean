import Actix.ContextItems.StreamItem

/-! # One call of the stream item's `poll`

What a call that returned did is read off the answers it consumed (`returns_spec`): every
answer but the last carried a message, the messages were delivered in order, and the
last answer together with `waiting()` decides the return value.

The loop stops only on a `Pending` or `Ready(None)` answer or on a waiting context. No
count of handled items bounds it, and it never asks the context for its lifecycle.
-/

namespace Actix

namespace ActorMessageStreamItem

variable {A C M R T : Type}

/-- What a call of `poll` that returned did, read off the answers of the stream. -/
structure Drains (cx : Context C) (h : Handler A C M R T)
    (σ : Polled (ActorMessageStreamItem M) A C) (r : Poll Unit)
    (σ' : Polled (ActorMessageStreamItem M) A C) : Prop where
  drained : Drained h σ.item.stream σ.world σ'
  polled_lt : σ.item.stream.polled < σ'.item.stream.polled
  messages_before : ∀ i, σ.item.stream.polled ≤ i → i + 1 < σ'.item.stream.polled →
    ∃ m, σ.item.stream.answer i = .ready (some m)
  exit_eq : exitOf cx (σ.item.stream.answer (σ'.item.stream.polled - 1)) σ'.world.2 = some r

theorem returns_spec {cx : Context C} {h : Handler A C M R T} {r : Poll Unit}
    {σ σ' : Polled (ActorMessageStreamItem M) A C} (hr : Returns cx h σ r σ') :
    Drains cx h σ r σ' := by
  obtain ⟨σl, chain, he⟩ := returns_iff.mp hr
  obtain ⟨hd, hmsg⟩ := chain_spec chain
  have hσ' : σ' = (pass cx h σl).2 := by rw [he]
  subst hσ'
  refine ⟨hd.after_pass, by simpa using Nat.lt_succ_of_le hd.start_le,
    fun i h₁ h₂ => hmsg i h₁ (by simpa using h₂), ?_⟩
  rw [pass_eq] at he
  simpa [hd.answer_eq] using congrArg Prod.fst he

/-! ## Waiting -/

/-- Within a call no pass after the first starts waiting, and every return has a cause. -/
theorem stream_poll_waits_alone (cx : Context C) (h : Handler A C M R T)
    (σ : Polled (ActorMessageStreamItem M) A C) :
    (∀ σ', Relation.TransGen (Continues cx h) σ σ' → cx.waiting σ'.world.2 = false) ∧
      (cx.waiting σ.world.2 = false →
        ∀ σ', Relation.ReflTransGen (Continues cx h) σ σ' → cx.waiting σ'.world.2 = false) ∧
      (∀ σl m, Relation.ReflTransGen (Continues cx h) σ σl →
        σl.item.stream.answer σl.item.stream.polled = .ready (some m) →
        cx.waiting (h.dispatch σl.world m).2 = true →
        Returns cx h σ .pending ⟨⟨σl.item.stream.pollNext.2⟩, h.dispatch σl.world m⟩ ∧
          ∀ r σ', Returns cx h σ r σ' →
            r = .pending ∧ σ' = ⟨⟨σl.item.stream.pollNext.2⟩, h.dispatch σl.world m⟩) ∧
      (∀ r σ', Returns cx h σ r σ' →
        σ.item.stream.polled < σ'.item.stream.polled ∧
          (r = .pending → σ.item.stream.answer (σ'.item.stream.polled - 1) = .pending ∨
            cx.waiting σ'.world.2 = true) ∧
          (r = .ready () → σ.item.stream.answer (σ'.item.stream.polled - 1) = .ready none)) := by
  have after_first : ∀ σ', Relation.TransGen (Continues cx h) σ σ' → cx.waiting σ'.world.2 = false
    | _, .single hc => hc.not_waiting
    | _, .tail _ hc => hc.not_waiting
  refine ⟨after_first, fun h₀ σ' chain => ?_, fun σl m chain hm hw => ?_, fun r σ' hr => ?_⟩
  · rcases Relation.ReflTransGen.cases_head chain with rfl | ⟨_, hc, rest⟩
    · exact h₀
    · exact after_first σ' (Relation.TransGen.head' hc rest)
  · have he : pass cx h σl =
        (some .pending, ⟨⟨σl.item.stream.pollNext.2⟩, h.dispatch σl.world m⟩) := by
      simp [pass_eq, hm, exitOf, hw]
    have hret : Returns cx h σ .pending _ := returns_iff.mpr ⟨σl, chain, he⟩
    exact ⟨hret, fun r σ' hr => (hret.determ hr).imp Eq.symm Eq.symm⟩
  · have spec := returns_spec hr
    refine ⟨spec.polled_lt, fun hp => ?_, fun hp => ?_⟩ <;> subst hp
    · exact (exitOf_eq_pending.mp spec.exit_eq).imp_right And.right
    · exact exitOf_eq_ready.mp spec.exit_eq

/-! ## When the loop returns -/

/-- The loop's exit condition `k` answers ahead. -/
def ExitsAt (cx : Context C) (h : Handler A C M R T) (σ : Polled (ActorMessageStreamItem M) A C)
    (k : Nat) : Prop :=
  (σ.item.stream.answer (σ.item.stream.polled + k)).message = [] ∨
    cx.waiting (h.deliver σ.world (σ.item.stream.yielded (k + 1))).2 = true

section Exits

variable {cx : Context C} {h : Handler A C M R T} {σ : Polled (ActorMessageStreamItem M) A C}

theorem exitsAt_zero_iff : ExitsAt cx h σ 0 ↔ (pass cx h σ).1 ≠ none := by
  rw [pass_eq, exitOf_ne_none, ExitsAt, Stream.yielded_succ]
  rfl

theorem ExitsAt.of_continues {σ₁ : Polled (ActorMessageStreamItem M) A C} {k : Nat}
    (hc : Continues cx h σ σ₁) (he : ExitsAt cx h σ (k + 1)) : ExitsAt cx h σ₁ k := by
  obtain ⟨-, -, rfl⟩ := continues_iff.mp hc
  simpa only [ExitsAt, pass_stream, pass_world, Stream.pollNext_answer, Stream.pollNext_polled,
    Nat.add_right_comm _ 1 k, Nat.add_assoc, Stream.yielded_succ_head (n := k + 1),
    Handler.deliver_append] using he

theorem exitsAt_of_returns {r : Poll Unit} {σ' : Polled (ActorMessageStreamItem M) A C}
    (hr : Returns cx h σ r σ') :
    ExitsAt cx h σ (σ'.item.stream.polled - 1 - σ.item.stream.polled) := by
  have spec := returns_spec hr
  have hlt := spec.polled_lt
  have hlast : σ.item.stream.polled + (σ'.item.stream.polled - 1 - σ.item.stream.polled) =
      σ'.item.stream.polled - 1 := by omega
  have hcount : σ'.item.stream.polled - 1 - σ.item.stream.polled + 1 =
      σ'.item.stream.polled - σ.item.stream.polled := by omega
  rw [ExitsAt, hlast, hcount, ← spec.drained.world_eq, ← exitOf_ne_none, spec.exit_eq]
  exact Option.some_ne_none r

theorem returns_of_exitsAt {k : Nat} (he : ExitsAt cx h σ k) :
    ∃ r σ', poll cx h (k + 1) σ = some (r, σ') := by
  induction k generalizing σ with
  | zero =>
      obtain ⟨r, hr⟩ := Option.ne_none_iff_exists'.mp (exitsAt_zero_iff.mp he)
      exact ⟨r, _, poll_succ_of_exit 0 (Prod.ext hr rfl)⟩
  | succ k ih =>
      rcases pass_cases cx h σ with ⟨r, hr⟩ | hc
      · exact ⟨r, _, poll_succ_of_exit _ hr⟩
      · rw [poll_succ_of_continues _ hc]
        exact ih (he.of_continues hc)

end Exits

/-- A call returns exactly when the exit condition holds `k` answers ahead, in `k + 1` passes. -/
theorem stream_poll_returns_iff (cx : Context C) (h : Handler A C M R T)
    (σ : Polled (ActorMessageStreamItem M) A C) :
    ((∃ r σ', Returns cx h σ r σ') ↔ ∃ k, ExitsAt cx h σ k) ∧
      ∀ k, ExitsAt cx h σ k → ∃ r σ', poll cx h (k + 1) σ = some (r, σ') :=
  ⟨⟨fun ⟨_, _, hr⟩ => ⟨_, exitsAt_of_returns hr⟩,
    fun ⟨_, he⟩ => let ⟨r, σ', hp⟩ := returns_of_exitsAt he; ⟨r, σ', _, hp⟩⟩,
    fun _ => returns_of_exitsAt⟩

def burst : Stream Unit := ⟨fun _ => .ready (some ()), 0⟩

def idleHandler : Handler Unit Unit Unit Unit Unit := .ofUpdate fun a _ c => (a, c)

theorem burst_poll_never_returns :
    ¬ ∃ fuel r σ', poll Context.running idleHandler fuel ⟨.new burst, ((), ())⟩ = some (r, σ') := by
  rintro ⟨fuel, r, σ', hp⟩
  rcases exitsAt_of_returns ⟨fuel, hp⟩ with he | he <;>
    simp [burst, idleHandler, Context.running] at he

/-- A call goes through every message ready in a row before it can return. -/
theorem stream_poll_drains_ready_burst (cx : Context C) (h : Handler A C M R T)
    (σ : Polled (ActorMessageStreamItem M) A C) (k : Nat)
    (hmsg : ∀ i, i < k → ∃ m, σ.item.stream.answer (σ.item.stream.polled + i) = .ready (some m))
    (hnw : ∀ j, j < k →
      cx.waiting (h.deliver σ.world (σ.item.stream.yielded (j + 1))).2 = false) :
    Relation.ReflTransGen (Continues cx h) σ
        ⟨⟨{ σ.item.stream with polled := σ.item.stream.polled + k }⟩,
          h.deliver σ.world (σ.item.stream.yielded k)⟩ ∧
      ∀ fuel, poll cx h (fuel + k) σ =
        poll cx h fuel ⟨⟨{ σ.item.stream with polled := σ.item.stream.polled + k }⟩,
          h.deliver σ.world (σ.item.stream.yielded k)⟩ := by
  induction k with
  | zero => exact ⟨.refl, fun _ => rfl⟩
  | succ k ih =>
      obtain ⟨chain, hpoll⟩ := ih (fun i hi => hmsg i (Nat.lt_succ_of_lt hi))
        (fun j hj => hnw j (Nat.lt_succ_of_lt hj))
      obtain ⟨m, hm⟩ := hmsg k (Nat.lt_succ_self k)
      have hc : Continues cx h ⟨⟨{ σ.item.stream with polled := σ.item.stream.polled + k }⟩,
          h.deliver σ.world (σ.item.stream.yielded k)⟩
          ⟨⟨{ σ.item.stream with polled := σ.item.stream.polled + (k + 1) }⟩,
            h.deliver σ.world (σ.item.stream.yielded (k + 1))⟩ := by
        rw [continues_iff]
        refine ⟨⟨m, hm⟩, hnw k (Nat.lt_succ_self k), ?_⟩
        rw [pass_eq]
        simp [Stream.pollNext, Stream.yielded_succ, Nat.add_assoc]
      exact ⟨chain.tail hc, fun fuel => by
        rw [show fuel + (k + 1) = fuel + 1 + k by omega, hpoll, poll_succ_of_continues fuel hc]⟩

def oneTwoThree : Stream Nat :=
  ⟨fun i => if i < 3 then .ready (some (i + 1)) else .ready none, 0⟩

theorem stream_poll_drains_one_two_three :
    (∀ i, i < 3 → ∃ m, oneTwoThree.answer (oneTwoThree.polled + i) = .ready (some m)) ∧
      (∀ j, j < 3 → (Context.running : Context Unit).waiting
        (summingHandler.deliver (0, ()) (oneTwoThree.yielded (j + 1))).2 = false) ∧
      Relation.ReflTransGen (Continues Context.running summingHandler) ⟨.new oneTwoThree, (0, ())⟩
        ⟨⟨{ oneTwoThree with polled := oneTwoThree.polled + 3 }⟩,
          summingHandler.deliver (0, ()) (oneTwoThree.yielded 3)⟩ ∧
      ∀ fuel, poll Context.running summingHandler (fuel + 3) ⟨.new oneTwoThree, (0, ())⟩ =
        poll Context.running summingHandler fuel
          ⟨⟨{ oneTwoThree with polled := oneTwoThree.polled + 3 }⟩,
            summingHandler.deliver (0, ()) (oneTwoThree.yielded 3)⟩ := by
  have hmsg : ∀ i, i < 3 → ∃ m, oneTwoThree.answer (oneTwoThree.polled + i) = .ready (some m) :=
    fun i hi => ⟨i + 1, by simp [oneTwoThree, hi]⟩
  have hnw : ∀ j, j < 3 → (Context.running : Context Unit).waiting
      (summingHandler.deliver (0, ()) (oneTwoThree.yielded (j + 1))).2 = false :=
    fun _ _ => rfl
  exact ⟨hmsg, hnw, stream_poll_drains_ready_burst Context.running summingHandler
    ⟨.new oneTwoThree, (0, ())⟩ 3 hmsg hnw⟩

/-! ## The lifecycle -/

section Lifecycle

variable (cx : Context C) (h : Handler A C M R T)

end Lifecycle

end ActorMessageStreamItem

end Actix
