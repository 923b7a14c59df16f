import Actix.Future

/-! # Actors, contexts and message dispatch

The items call into an actor through `Handler::handle`, the returned
`MessageResponse::handle`, and the context's `waiting()` and `state()`, all arbitrary here.
Every message item ends in `Handler::handle` then `fut.handle(ctx, None)`: that pair is
`Handler.dispatch`, and a run of deliveries is a left fold of it.
-/

namespace Actix

/-- Modelled from the spec: `ActorState` of `crate::actor`, which is not under `src/`. -/
inductive ActorState where
  | started
  | running
  | stopping
  | stopped
  deriving Repr, DecidableEq

/-- Modelled from the spec: `alive()` holds in Started, Running and Stopping. -/
def ActorState.alive : ActorState → Bool
  | .stopped => false
  | _ => true

@[simp] theorem ActorState.alive_eq_true {s : ActorState} : s.alive = true ↔ s ≠ .stopped := by
  cases s <;> simp [ActorState.alive]

@[simp] theorem ActorState.alive_eq_false {s : ActorState} : s.alive = false ↔ s = .stopped := by
  cases s <;> simp [ActorState.alive]

/-- `AsyncContext::waiting` and `ActorContext::state` of a context `C`. -/
structure Context (C : Type) where
  waiting : C → Bool
  state : C → ActorState

/-- `MessageResponse::handle(self, ctx, tx)` of a response `R`, with reply sink `T`. -/
structure MessageResponse (C R T : Type) where
  handle : R → C → Option T → C

/-- `impl Handler<M> for A` with context `C`: `Handler::handle`, answering a `Result` `R`. -/
structure Handler (A C M R T : Type) where
  handle : A → M → C → A × C × R
  result : MessageResponse C R T

variable {A C M R T : Type}

/-- `let fut = Handler::handle(act, msg, ctx); fut.handle(ctx, None);`. -/
def Handler.dispatch (h : Handler A C M R T) (w : A × C) (msg : M) : A × C :=
  let r := h.handle w.1 msg w.2
  (r.1, h.result.handle r.2.2 r.2.1 none)

/-! ## Messages carried by a stream -/

def Poll.message : Poll (Option M) → List M
  | .ready (some m) => [m]
  | _ => []

@[simp] theorem Poll.message_ready_some (m : M) : (Poll.ready (some m)).message = [m] := rfl

@[simp] theorem Poll.message_ready_none : (Poll.ready none : Poll (Option M)).message = [] := rfl

@[simp] theorem Poll.message_pending : (Poll.pending : Poll (Option M)).message = [] := rfl

/-- The messages carried by the next `n` answers of `s`, in the order they come. -/
def Stream.yielded (s : Stream M) : Nat → List M
  | 0 => []
  | n + 1 => s.yielded n ++ (s.answer (s.polled + n)).message

@[simp] theorem Stream.yielded_zero (s : Stream M) : s.yielded 0 = [] := rfl

theorem Stream.yielded_succ (s : Stream M) (n : Nat) :
    s.yielded (n + 1) = s.yielded n ++ (s.answer (s.polled + n)).message := rfl

theorem Stream.yielded_add {s s' : Stream M} (hans : s'.answer = s.answer) (m n : Nat)
    (hpol : s'.polled = s.polled + m) : s.yielded (m + n) = s.yielded m ++ s'.yielded n := by
  induction n with
  | zero => simp
  | succ n ih =>
      rw [← Nat.add_assoc, Stream.yielded_succ, ih, Stream.yielded_succ, List.append_assoc, hans,
        hpol, Nat.add_assoc]

theorem Stream.yielded_sub_append {s₀ s : Stream M} (hans : s.answer = s₀.answer)
    (hle : s₀.polled ≤ s.polled) {p : Nat} (hp : s.polled ≤ p) :
    s₀.yielded (s.polled - s₀.polled) ++ s.yielded (p - s.polled) = s₀.yielded (p - s₀.polled) := by
  rw [← Stream.yielded_add hans _ _ (Nat.add_sub_cancel' hle).symm]
  congr 1
  omega

theorem Stream.yielded_succ_head (s : Stream M) (n : Nat) :
    s.yielded (n + 1) = (s.answer s.polled).message ++ s.pollNext.2.yielded n := by
  rw [Nat.add_comm, @Stream.yielded_add _ s s.pollNext.2 rfl 1 n rfl]
  rfl

/-- The actor and context after delivering `msgs` one by one from `w`. -/
def Handler.deliver (h : Handler A C M R T) (w : A × C) (msgs : List M) : A × C :=
  msgs.foldl h.dispatch w

@[simp] theorem Handler.deliver_nil (h : Handler A C M R T) (w : A × C) :
    h.deliver w [] = w := rfl

@[simp] theorem Handler.deliver_append (h : Handler A C M R T) (w : A × C) (xs ys : List M) :
    h.deliver w (xs ++ ys) = h.deliver (h.deliver w xs) ys := List.foldl_append _ _ _ _

@[simp] theorem Handler.deliver_cons (h : Handler A C M R T) (w : A × C) (m : M)
    (msgs : List M) : h.deliver w (m :: msgs) = h.deliver (h.dispatch w m) msgs := rfl

/-! ## Fixtures: handlers answering `()` on a context that never waits -/

def Handler.ofUpdate (f : A → M → C → A × C) : Handler A C M Unit T :=
  ⟨fun a m c => ((f a m c).1, (f a m c).2, ()), ⟨fun _ c _ => c⟩⟩

def Context.running : Context C := ⟨fun _ => false, fun _ => .running⟩

def countingHandler : Handler Nat C M Unit Unit := .ofUpdate fun a _ c => (a + 1, c)

def summingHandler : Handler Nat C Nat Unit Unit := .ofUpdate fun a m c => (a + m, c)

end Actix
