import Mathlib.Logic.Relation

/-! # Poll answers, streams, timers and actor futures

The streams, timers and futures the context items poll live outside the repository. A
stream or a timer is the sequence of answers its `poll` gives, with a cursor counting the
calls made, so a statement over all sequences covers every waker schedule. An actor future
is an arbitrary state machine over itself, the actor and the context.
-/

namespace Actix

/-- `std::task::Poll`. -/
inductive Poll (α : Type) where
  | ready (value : α)
  | pending
  deriving Repr, DecidableEq

/-- A `Stream<Item = M>`: `answer i` is the `i`-th `poll_next`, `polled` the calls made. -/
structure Stream (M : Type) where
  answer : Nat → Poll (Option M)
  polled : Nat

def Stream.pollNext {M : Type} (s : Stream M) : Poll (Option M) × Stream M :=
  (s.answer s.polled, { s with polled := s.polled + 1 })

@[simp] theorem Stream.pollNext_fst {M : Type} (s : Stream M) :
    s.pollNext.1 = s.answer s.polled := rfl

@[simp] theorem Stream.pollNext_answer {M : Type} (s : Stream M) :
    s.pollNext.2.answer = s.answer := rfl

@[simp] theorem Stream.pollNext_polled {M : Type} (s : Stream M) :
    s.pollNext.2.polled = s.polled + 1 := rfl

/-- The timer `actix_rt::time::Sleep`: `answer i` is what its `i`-th `poll` returns. -/
structure Sleep where
  answer : Nat → Poll Unit
  polled : Nat

def Sleep.poll (t : Sleep) : Poll Unit × Sleep :=
  (t.answer t.polled, { t with polled := t.polled + 1 })

@[simp] theorem Sleep.poll_fst (t : Sleep) : t.poll.1 = t.answer t.polled := rfl

@[simp] theorem Sleep.poll_answer (t : Sleep) : t.poll.2.answer = t.answer := rfl

@[simp] theorem Sleep.poll_polled (t : Sleep) : t.poll.2.polled = t.polled + 1 := rfl

structure Polled (I A C : Type) where
  item : I
  world : A × C

/-- The `ActorFuture` trait with state `F`: a poll updates the future, actor and context. -/
structure ActorFuture (F A C O : Type) where
  poll : F → A × C → Poll O × F × (A × C)

/-! ## Runs of successive polls -/

section Runs

variable {σ α : Type} (poll : σ → Poll α → σ → Prop)

/-- Successive polls of one item that each answered `Pending`. -/
def PendingRun : σ → σ → Prop :=
  Relation.ReflTransGen fun s s' => poll s .pending s'

variable {poll}

theorem PendingRun.invariant {I : σ → Prop} {s₀ s : σ} (run : PendingRun poll s₀ s)
    (start : I s₀) (step : ∀ s s', I s → poll s .pending s' → I s') : I s := by
  induction run with
  | refl => exact start
  | tail _ hpoll ih => exact step _ _ ih hpoll

theorem pending_calls_le {I : σ → Prop} (μ : σ → Nat)
    (step : ∀ s s', I s → poll s .pending s' → I s' ∧ μ s' < μ s) {f : Nat → σ} {n : Nat}
    (start : I (f 0)) (calls : ∀ k, k < n → poll (f k) .pending (f (k + 1))) :
    n ≤ μ (f 0) := by
  have reach : ∀ k, k ≤ n → I (f k) ∧ μ (f k) + k ≤ μ (f 0) := by
    intro k
    induction k with
    | zero => exact fun _ => ⟨start, Nat.le_refl _⟩
    | succ k ih =>
        intro hk
        obtain ⟨hinv, hle⟩ := ih (Nat.le_of_succ_le hk)
        obtain ⟨hinv', hlt⟩ := step _ _ hinv (calls k hk)
        exact ⟨hinv', by omega⟩
  have := (reach n (Nat.le_refl n)).2
  omega

/-- Progress, and a measure every `Pending` poll lowers, bound the `Pending` polls in a row. -/
theorem PendingRun.terminates {I : σ → Prop} (μ : σ → Nat)
    (progress : ∀ s, I s → ∃ r s', poll s r s' ∧ (r = .pending → I s' ∧ μ s' < μ s))
    {s : σ} (hs : I s) :
    ∃ n, ∃ f : Nat → σ, n ≤ μ s ∧ f 0 = s ∧ (∀ k, k < n → poll (f k) .pending (f (k + 1))) ∧
      I (f n) ∧ ∃ r, r ≠ .pending ∧ poll (f n) r (f (n + 1)) := by
  generalize hμ : μ s = d
  induction d using Nat.strongRecOn generalizing s with
  | _ d ih =>
      obtain ⟨r, s', hp, hnext⟩ := progress s hs
      cases r with
      | ready v =>
          exact ⟨0, fun | 0 => s | _ + 1 => s', Nat.zero_le _, rfl,
            fun _ hk => absurd hk (Nat.not_lt_zero _), hs, .ready v, Poll.noConfusion, hp⟩
      | pending =>
          obtain ⟨hs', hlt⟩ := hnext rfl
          obtain ⟨n, f, hn, h0, calls, hinv, hlast⟩ := ih (μ s') (hμ ▸ hlt) hs' rfl
          subst hμ
          refine ⟨n + 1, fun | 0 => s | k + 1 => f k, by omega, rfl, fun k hk => ?_, hinv, hlast⟩
          match k, hk with
          | 0, _ => exact show poll s .pending (f 0) from h0 ▸ hp
          | k + 1, hk => exact calls k (by omega)

variable (poll)

/-- Successive polls that did not panic, whatever they answered, after `Ready` as well. -/
def Run : σ → σ → Prop :=
  Relation.ReflTransGen fun s s' => ∃ r, poll s r s'

end Runs

end Actix
