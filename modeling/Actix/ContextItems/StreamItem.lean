import Actix.Handler

/-! # The message-stream item

`ActorMessageStreamItem::poll` is a `loop` over `poll_next`: a `Ready(Some msg)` is handed
to the handler and the loop goes round again unless the context is now waiting; a
`Ready(None)` returns `Ready`, a `Pending` returns `Pending`. Nothing else bounds the
loop, so `poll` below runs it for at most `fuel` passes and answers `none` when they are
used up: a call of the Rust `poll` returns `r` exactly when some fuel gives `some r`.

`pass_eq` says once what a pass does. `Drained` is what the item is for: the stream's
messages handed to the handler once each, in order; every pass is one step of it.
Everything after reads the loop as a chain of passes that went round again
(`Continues`) closed by one pass that returned.
-/

namespace Actix

variable {A C M R T : Type}

structure ActorMessageStreamItem (M : Type) where
  stream : Stream M

def ActorMessageStreamItem.new (st : Stream M) : ActorMessageStreamItem M := ⟨st⟩

namespace ActorMessageStreamItem

@[simp] theorem new_stream (st : Stream M) : (new st).stream = st := rfl

/-- One pass of the `loop` in `poll`: `some r` is `return r`, `none` goes round again. -/
def pass (cx : Context C) (h : Handler A C M R T) (σ : Polled (ActorMessageStreamItem M) A C) :
    Option (Poll Unit) × Polled (ActorMessageStreamItem M) A C :=
  let (next, stream) := σ.item.stream.pollNext
  match next with
  | .ready (some msg) =>
      let w := h.dispatch σ.world msg
      (if cx.waiting w.2 then some .pending else none, ⟨⟨stream⟩, w⟩)
  | .ready none => (some (.ready ()), ⟨⟨stream⟩, σ.world⟩)
  | .pending => (some .pending, ⟨⟨stream⟩, σ.world⟩)

/-- `ActorMessageStreamItem::poll` with its `loop` given at most `fuel` passes. -/
def poll (cx : Context C) (h : Handler A C M R T) :
    Nat → Polled (ActorMessageStreamItem M) A C →
      Option (Poll Unit × Polled (ActorMessageStreamItem M) A C)
  | 0, _ => none
  | fuel + 1, σ =>
      match pass cx h σ with
      | (some r, σ') => some (r, σ')
      | (none, σ') => poll cx h fuel σ'

/-! ## One pass -/

/-- Whether a pass that read `next` and left the context `ctx` returns, and what. -/
def exitOf (cx : Context C) : Poll (Option M) → C → Option (Poll Unit)
  | .ready (some _), ctx => if cx.waiting ctx then some .pending else none
  | .ready none, _ => some (.ready ())
  | .pending, _ => some .pending

section Pass

variable (cx : Context C) (h : Handler A C M R T) (σ : Polled (ActorMessageStreamItem M) A C)

/-- A pass reads one answer, delivers its message, and returns as `exitOf` says. -/
theorem pass_eq :
    pass cx h σ =
      (exitOf cx (σ.item.stream.answer σ.item.stream.polled)
          (h.deliver σ.world (σ.item.stream.answer σ.item.stream.polled).message).2,
        ⟨⟨σ.item.stream.pollNext.2⟩,
          h.deliver σ.world (σ.item.stream.answer σ.item.stream.polled).message⟩) := by
  obtain ⟨⟨s⟩, w⟩ := σ
  simp only [pass, Stream.pollNext]
  rcases s.answer s.polled with (_ | m) | _ <;> rfl

@[simp] theorem pass_stream : (pass cx h σ).2.item.stream = σ.item.stream.pollNext.2 := by
  rw [pass_eq]

@[simp] theorem pass_world :
    (pass cx h σ).2.world =
      h.deliver σ.world (σ.item.stream.answer σ.item.stream.polled).message := by
  rw [pass_eq]

end Pass

section Exit

variable {cx : Context C} {next : Poll (Option M)} {ctx : C}

theorem exitOf_eq_none :
    exitOf cx next ctx = none ↔ (∃ m, next = .ready (some m)) ∧ cx.waiting ctx = false := by
  rcases next with (_ | m) | _ <;> simp [exitOf]

theorem exitOf_eq_ready : exitOf cx next ctx = some (.ready ()) ↔ next = .ready none := by
  rcases next with (_ | m) | _ <;> simp [exitOf]

theorem exitOf_eq_pending :
    exitOf cx next ctx = some .pending ↔
      next = .pending ∨ (∃ m, next = .ready (some m)) ∧ cx.waiting ctx = true := by
  rcases next with (_ | m) | _ <;> simp [exitOf]

theorem exitOf_ne_none : exitOf cx next ctx ≠ none ↔ next.message = [] ∨ cx.waiting ctx = true := by
  rcases next with (_ | m) | _ <;> simp [exitOf]

end Exit

/-! ## The drain -/

/-- What the item is for: each message handed out since `s₀` delivered once, in order. -/
structure Drained (h : Handler A C M R T) (s₀ : Stream M) (w₀ : A × C)
    (σ : Polled (ActorMessageStreamItem M) A C) : Prop where
  answer_eq : σ.item.stream.answer = s₀.answer
  start_le : s₀.polled ≤ σ.item.stream.polled
  world_eq : σ.world = h.deliver w₀ (s₀.yielded (σ.item.stream.polled - s₀.polled))

section Drain

variable {cx : Context C} {h : Handler A C M R T} {s₀ : Stream M} {w₀ : A × C}
  {σ σ' : Polled (ActorMessageStreamItem M) A C}

theorem Drained.refl (σ : Polled (ActorMessageStreamItem M) A C) :
    Drained h σ.item.stream σ.world σ :=
  ⟨rfl, Nat.le_refl _, by simp⟩

theorem Drained.after_pass (hd : Drained h s₀ w₀ σ) : Drained h s₀ w₀ (pass cx h σ).2 := by
  obtain ⟨hans, hle, hw⟩ := hd
  refine ⟨by simp [hans], by simpa using Nat.le_succ_of_le hle, ?_⟩
  simp only [pass_world, pass_stream, Stream.pollNext_polled, hw, ← Handler.deliver_append]
  rw [Nat.succ_sub hle, Stream.yielded_succ, Nat.add_sub_cancel' hle, hans]

theorem Drained.trans (hd : Drained h s₀ w₀ σ) (hd' : Drained h σ.item.stream σ.world σ') :
    Drained h s₀ w₀ σ' := by
  obtain ⟨hans, hle, hw⟩ := hd
  obtain ⟨hans', hle', hw'⟩ := hd'
  refine ⟨hans'.trans hans, Nat.le_trans hle hle', ?_⟩
  rw [hw', hw, ← Handler.deliver_append, Stream.yielded_sub_append hans hle hle']

end Drain

/-! ## Passes that go round again -/

/-- The loop goes round again: the pass from `σ` did not return and left `σ'`. -/
def Continues (cx : Context C) (h : Handler A C M R T)
    (σ σ' : Polled (ActorMessageStreamItem M) A C) : Prop :=
  pass cx h σ = (none, σ')

section Chain

variable {cx : Context C} {h : Handler A C M R T} {σ σ' : Polled (ActorMessageStreamItem M) A C}

theorem pass_cases (cx : Context C) (h : Handler A C M R T)
    (σ : Polled (ActorMessageStreamItem M) A C) :
    (∃ r, pass cx h σ = (some r, (pass cx h σ).2)) ∨ Continues cx h σ (pass cx h σ).2 := by
  rcases hp : (pass cx h σ).1 with _ | r
  · exact .inr (Prod.ext hp rfl)
  · exact .inl ⟨r, Prod.ext hp rfl⟩

/-- A pass goes round again exactly on a handled message and a context left not waiting. -/
theorem continues_iff :
    Continues cx h σ σ' ↔
      (∃ m, σ.item.stream.answer σ.item.stream.polled = .ready (some m)) ∧
        cx.waiting σ'.world.2 = false ∧ σ' = (pass cx h σ).2 := by
  rw [Continues, Prod.ext_iff, pass_eq]
  simp only [exitOf_eq_none]
  constructor
  · rintro ⟨⟨hm, hw⟩, rfl⟩
    exact ⟨hm, hw, rfl⟩
  · rintro ⟨hm, hw, rfl⟩
    exact ⟨⟨hm, hw⟩, rfl⟩

theorem Continues.not_waiting (hc : Continues cx h σ σ') : cx.waiting σ'.world.2 = false :=
  (continues_iff.mp hc).2.1

/-- Passes that went round again drain the stream, and every answer they read was a message. -/
theorem chain_spec (chain : Relation.ReflTransGen (Continues cx h) σ σ') :
    Drained h σ.item.stream σ.world σ' ∧
      ∀ i, σ.item.stream.polled ≤ i → i < σ'.item.stream.polled →
        ∃ m, σ.item.stream.answer i = .ready (some m) := by
  induction chain with
  | refl => exact ⟨.refl σ, fun i h₁ h₂ => absurd h₂ (Nat.not_lt.mpr h₁)⟩
  | tail _ hc ih =>
      obtain ⟨hd, hmsg⟩ := ih
      obtain ⟨⟨m, hm⟩, -, rfl⟩ := continues_iff.mp hc
      refine ⟨hd.after_pass, fun i h₁ h₂ => ?_⟩
      rcases Nat.lt_succ_iff_lt_or_eq.mp (by simpa using h₂) with h₂ | rfl
      · exact hmsg i h₁ h₂
      · exact ⟨m, hd.answer_eq ▸ hm⟩

end Chain

/-! ## Fuel -/

section Fuel

variable {cx : Context C} {h : Handler A C M R T} {r : Poll Unit}
  {σ σ' : Polled (ActorMessageStreamItem M) A C}

theorem poll_succ_of_continues (fuel : Nat) (hc : Continues cx h σ σ') :
    poll cx h (fuel + 1) σ = poll cx h fuel σ' := by
  rw [poll, show pass cx h σ = (none, σ') from hc]

theorem poll_succ_of_exit (fuel : Nat) (he : pass cx h σ = (some r, σ')) :
    poll cx h (fuel + 1) σ = some (r, σ') := by
  rw [poll, he]

theorem poll_sound {fuel : Nat} (hpoll : poll cx h fuel σ = some (r, σ')) :
    ∃ σl, Relation.ReflTransGen (Continues cx h) σ σl ∧ pass cx h σl = (some r, σ') := by
  induction fuel generalizing σ with
  | zero => cases hpoll
  | succ fuel ih =>
      rcases pass_cases cx h σ with ⟨r', he⟩ | hc
      · rw [poll_succ_of_exit fuel he] at hpoll
        cases hpoll
        exact ⟨σ, .refl, he⟩
      · rw [poll_succ_of_continues fuel hc] at hpoll
        obtain ⟨σl, chain, he⟩ := ih hpoll
        exact ⟨σl, .head hc chain, he⟩

theorem poll_complete {σl : Polled (ActorMessageStreamItem M) A C}
    (chain : Relation.ReflTransGen (Continues cx h) σ σl) (he : pass cx h σl = (some r, σ')) :
    ∃ fuel, poll cx h fuel σ = some (r, σ') := by
  induction chain using Relation.ReflTransGen.head_induction_on with
  | refl => exact ⟨1, poll_succ_of_exit 0 he⟩
  | head hc _ ih =>
      obtain ⟨fuel, hf⟩ := ih
      exact ⟨fuel + 1, (poll_succ_of_continues fuel hc).trans hf⟩

theorem poll_add {fuel : Nat} (hpoll : poll cx h fuel σ = some (r, σ')) (extra : Nat) :
    poll cx h (fuel + extra) σ = some (r, σ') := by
  induction fuel generalizing σ with
  | zero => cases hpoll
  | succ fuel ih =>
      rw [Nat.add_right_comm]
      rcases pass_cases cx h σ with ⟨r', he⟩ | hc
      · rwa [poll_succ_of_exit _ he, ← poll_succ_of_exit fuel he]
      · rw [poll_succ_of_continues _ hc]
        exact ih (by rwa [← poll_succ_of_continues fuel hc])

end Fuel

/-- The call `poll` from `σ` returns `r` and leaves `σ'`. -/
def Returns (cx : Context C) (h : Handler A C M R T) (σ : Polled (ActorMessageStreamItem M) A C)
    (r : Poll Unit) (σ' : Polled (ActorMessageStreamItem M) A C) : Prop :=
  ∃ fuel, poll cx h fuel σ = some (r, σ')

section Calls

variable {cx : Context C} {h : Handler A C M R T} {r r' : Poll Unit}
  {σ σ' σ'' : Polled (ActorMessageStreamItem M) A C}

theorem returns_iff :
    Returns cx h σ r σ' ↔
      ∃ σl, Relation.ReflTransGen (Continues cx h) σ σl ∧ pass cx h σl = (some r, σ') :=
  ⟨fun ⟨_, hp⟩ => poll_sound hp, fun ⟨_, chain, he⟩ => poll_complete chain he⟩

theorem Returns.determ (h₁ : Returns cx h σ r σ') (h₂ : Returns cx h σ r' σ'') :
    r = r' ∧ σ' = σ'' := by
  obtain ⟨f₁, hf₁⟩ := h₁
  obtain ⟨f₂, hf₂⟩ := h₂
  have := (poll_add hf₁ f₂).symm.trans (Nat.add_comm f₁ f₂ ▸ poll_add hf₂ f₁)
  simpa using this

theorem Returns.of_continues (hc : Continues cx h σ σ') (hr : Returns cx h σ' r σ'') :
    Returns cx h σ r σ'' :=
  let ⟨σl, chain, he⟩ := returns_iff.mp hr
  returns_iff.mpr ⟨σl, .head hc chain, he⟩

end Calls

end ActorMessageStreamItem

end Actix
