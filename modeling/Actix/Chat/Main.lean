import Actix.ContextItems.StreamRun

/-! # The chat example's accept loop

`main` starts `Server` with `ctx.add_message_stream(WtfStream { listener })`. The listener
is its accept answers, `WtfStream` the stream of its `poll_next` answers
(`pollNext_toStream`), and the run theory of the stream item applies to it. An accept error
other than `WouldBlock` ends the item and reaches no handler.
-/

namespace Actix

namespace Chat

variable {E S Addr : Type}

structure TcpConnect (S Addr : Type) where
  stream : S
  addr : Addr

/-- `tokio::net::TcpListener`: `accept i` is the `i`-th `poll_accept`'s `io::Result`. -/
structure TcpListener (E S Addr : Type) where
  accept : Nat → Poll (Except E (S × Addr))
  polled : Nat

/-- `TcpListener::poll_accept`. -/
def TcpListener.pollAccept (l : TcpListener E S Addr) :
    Poll (Except E (S × Addr)) × TcpListener E S Addr :=
  (l.accept l.polled, { l with polled := l.polled + 1 })

structure WtfStream (E S Addr : Type) where
  listener : TcpListener E S Addr

/-- `WtfStream::poll_next`, with `wouldBlock e` for
`e.kind() == std::io::ErrorKind::WouldBlock`. -/
def WtfStream.pollNext (wouldBlock : E → Bool) (s : WtfStream E S Addr) :
    Poll (Option (TcpConnect S Addr)) × WtfStream E S Addr :=
  match s.listener.pollAccept with
  | (.ready (.ok (st, addr)), listener) => (.ready (some ⟨st, addr⟩), ⟨listener⟩)
  | (.ready (.error e), listener) => (if wouldBlock e then .pending else .ready none, ⟨listener⟩)
  | (.pending, listener) => (.pending, ⟨listener⟩)

/-- `WtfStream` as the item sees it: answer `i` is `poll_next` with accept answer `i` next. -/
def WtfStream.toStream (wouldBlock : E → Bool) (s : WtfStream E S Addr) :
    Stream (TcpConnect S Addr) :=
  ⟨fun i => (WtfStream.pollNext wouldBlock ⟨{ s.listener with polled := i }⟩).1,
    s.listener.polled⟩

def TcpListener.acceptedAt (l : TcpListener E S Addr) (i : Nat) : List (TcpConnect S Addr) :=
  match l.accept i with
  | .ready (.ok (st, addr)) => [⟨st, addr⟩]
  | _ => []

def TcpListener.accepted (l : TcpListener E S Addr) : Nat → List (TcpConnect S Addr)
  | 0 => []
  | n + 1 => l.accepted n ++ l.acceptedAt (l.polled + n)

namespace WtfStream

variable (wouldBlock : E → Bool) (s : WtfStream E S Addr)

theorem pollNext_listener : (s.pollNext wouldBlock).2.listener = s.listener.pollAccept.2 := by
  unfold pollNext
  split <;> simp [*]

/-- `poll_next` of `WtfStream` is `pollNext` of the stream `toStream`. -/
theorem pollNext_toStream :
    (s.toStream wouldBlock).pollNext =
      ((s.pollNext wouldBlock).1, (s.pollNext wouldBlock).2.toStream wouldBlock) := by
  simp only [toStream, Stream.pollNext, pollNext_listener, TcpListener.pollAccept]

section Answers

variable {wouldBlock s} {i : Nat}

theorem toStream_answer_of_ok {st : S} {addr : Addr}
    (hacc : s.listener.accept i = .ready (.ok (st, addr))) :
    (s.toStream wouldBlock).answer i = .ready (some ⟨st, addr⟩) := by
  simp [toStream, pollNext, TcpListener.pollAccept, hacc]

theorem toStream_answer_of_error {e : E} (hacc : s.listener.accept i = .ready (.error e)) :
    (s.toStream wouldBlock).answer i = if wouldBlock e then .pending else .ready none := by
  simp [toStream, pollNext, TcpListener.pollAccept, hacc]

theorem toStream_answer_of_pending (hacc : s.listener.accept i = .pending) :
    (s.toStream wouldBlock).answer i = .pending := by
  simp [toStream, pollNext, TcpListener.pollAccept, hacc]

theorem toStream_answer_message :
    ((s.toStream wouldBlock).answer i).message = s.listener.acceptedAt i := by
  rcases hacc : s.listener.accept i with (e | ⟨st, addr⟩) | _
  · rw [toStream_answer_of_error hacc, TcpListener.acceptedAt, hacc]
    split <;> rfl
  · rw [toStream_answer_of_ok hacc, TcpListener.acceptedAt, hacc]
    rfl
  · rw [toStream_answer_of_pending hacc, TcpListener.acceptedAt, hacc]
    rfl

theorem toStream_answer_eq_none :
    (s.toStream wouldBlock).answer i = .ready none ↔
      ∃ e, s.listener.accept i = .ready (.error e) ∧ wouldBlock e = false := by
  rcases hacc : s.listener.accept i with (e | ⟨st, addr⟩) | _
  · rw [toStream_answer_of_error hacc]
    cases hb : wouldBlock e <;> simp [hb]
  · simp [toStream_answer_of_ok hacc]
  · simp [toStream_answer_of_pending hacc]

end Answers

theorem yielded_toStream (n : Nat) :
    (s.toStream wouldBlock).yielded n = s.listener.accepted n := by
  induction n with
  | zero => rfl
  | succ n ih => rw [Stream.yielded_succ, ih, toStream_answer_message]; rfl

end WtfStream

/-- The server's accept item hands over each accepted connection once, and ends at an error. -/
theorem server_handles_each_accepted_connection {A C R T : Type} (wouldBlock : E → Bool)
    (cx : Context C) (h : Handler A C (TcpConnect S Addr) R T) (listener : TcpListener E S Addr)
    (w₀ : A × C) {σ : Polled (ActorMessageStreamItem (TcpConnect S Addr)) A C}
    (run : PendingRun (ActorMessageStreamItem.Returns cx h)
      ⟨.new (WtfStream.toStream wouldBlock ⟨listener⟩), w₀⟩ σ) :
    σ.world = h.deliver w₀ (listener.accepted (σ.item.stream.polled - listener.polled)) ∧
      (∀ i, listener.polled ≤ i → i < σ.item.stream.polled →
        ∀ e, listener.accept i = .ready (.error e) → wouldBlock e = true) ∧
      (∀ r σ', ActorMessageStreamItem.Returns cx h σ r σ' →
        σ'.world = h.deliver w₀ (listener.accepted (σ'.item.stream.polled - listener.polled)) ∧
          (∀ i, listener.polled ≤ i → i + 1 < σ'.item.stream.polled →
            ∀ e, listener.accept i = .ready (.error e) → wouldBlock e = true) ∧
          (r = .ready () ↔ ∃ e, listener.accept (σ'.item.stream.polled - 1) = .ready (.error e) ∧
            wouldBlock e = false)) ∧
      ∀ σl, Relation.ReflTransGen (ActorMessageStreamItem.Continues cx h) σ σl →
        (∀ e, listener.accept σl.item.stream.polled = .ready (.error e) →
          ActorMessageStreamItem.Returns cx h σ (if wouldBlock e then .pending else .ready ())
            ⟨⟨σl.item.stream.pollNext.2⟩, σl.world⟩) ∧
        (listener.accept σl.item.stream.polled = .pending →
          ActorMessageStreamItem.Returns cx h σ .pending
            ⟨⟨σl.item.stream.pollNext.2⟩, σl.world⟩) := by
  have inv := ActorMessageStreamItem.Draining.of_run run
  have no_end : ∀ i, (WtfStream.toStream wouldBlock ⟨listener⟩).answer i ≠ .ready none →
      ∀ e, listener.accept i = .ready (.error e) → wouldBlock e = true :=
    fun i hne e hacc => by
      simpa using fun hb => hne (WtfStream.toStream_answer_eq_none.mpr ⟨e, hacc, hb⟩)
  refine ⟨?_, fun i h₁ h₂ => no_end i (inv.not_ended i h₁ h₂), fun r σ' hr => ⟨?_,
    fun i h₁ h₂ => no_end i (inv.not_ended_before hr i h₁ h₂), ?_⟩, fun σl chain => ?_⟩
  · rw [inv.world_eq, WtfStream.yielded_toStream]
    rfl
  · rw [(inv.trans (ActorMessageStreamItem.returns_spec hr).drained).world_eq,
      WtfStream.yielded_toStream]
    rfl
  · rw [(ActorMessageStreamItem.returns_ready_iff hr).1, inv.answer_eq]
    exact WtfStream.toStream_answer_eq_none
  · have hans : σl.item.stream.answer = (WtfStream.toStream wouldBlock ⟨listener⟩).answer :=
      (ActorMessageStreamItem.chain_spec chain).1.answer_eq.trans inv.answer_eq
    refine ⟨fun e hacc => ?_, fun hacc => ActorMessageStreamItem.returns_of_chain_pending chain
      (hans ▸ WtfStream.toStream_answer_of_pending hacc)⟩
    have herr : σl.item.stream.answer σl.item.stream.polled =
        if wouldBlock e then .pending else .ready none :=
      hans ▸ WtfStream.toStream_answer_of_error hacc
    cases hb : wouldBlock e
    · exact ActorMessageStreamItem.returns_of_chain_end chain (by simpa [hb] using herr)
    · exact ActorMessageStreamItem.returns_of_chain_pending chain (by simpa [hb] using herr)

/-- Accepts `0`, fails with `WouldBlock` (`true`), accepts `2`, then fails for good. -/
def acceptingListener : TcpListener Bool Nat Unit :=
  ⟨fun i => if i = 1 then .ready (.error true)
    else if i < 3 then .ready (.ok (i, ())) else .ready (.error false), 0⟩

theorem server_handles_each_accepted_connection_past_would_block :
    PendingRun (ActorMessageStreamItem.Returns Context.running countingHandler)
        ⟨.new (WtfStream.toStream id ⟨acceptingListener⟩), (0, ())⟩
        ⟨⟨{ WtfStream.toStream id ⟨acceptingListener⟩ with polled := 2 }⟩, (1, ())⟩ ∧
      (1, ()) = countingHandler.deliver (0, ())
        (acceptingListener.accepted (2 - acceptingListener.polled)) ∧
      (∀ i, acceptingListener.polled ≤ i → i < 2 →
        ∀ e, acceptingListener.accept i = .ready (.error e) → id e = true) ∧
      (∀ r σ', ActorMessageStreamItem.Returns Context.running countingHandler
          ⟨⟨{ WtfStream.toStream id ⟨acceptingListener⟩ with polled := 2 }⟩, (1, ())⟩ r σ' →
        σ'.world = countingHandler.deliver (0, ())
            (acceptingListener.accepted (σ'.item.stream.polled - acceptingListener.polled)) ∧
          (∀ i, acceptingListener.polled ≤ i → i + 1 < σ'.item.stream.polled →
            ∀ e, acceptingListener.accept i = .ready (.error e) → id e = true) ∧
          (r = .ready () ↔ ∃ e, acceptingListener.accept (σ'.item.stream.polled - 1) =
            .ready (.error e) ∧ id e = false)) ∧
      ∀ σl, Relation.ReflTransGen (ActorMessageStreamItem.Continues Context.running countingHandler)
          ⟨⟨{ WtfStream.toStream id ⟨acceptingListener⟩ with polled := 2 }⟩, (1, ())⟩ σl →
        (∀ e, acceptingListener.accept σl.item.stream.polled = .ready (.error e) →
          ActorMessageStreamItem.Returns Context.running countingHandler
            ⟨⟨{ WtfStream.toStream id ⟨acceptingListener⟩ with polled := 2 }⟩, (1, ())⟩
            (if id e then .pending else .ready ()) ⟨⟨σl.item.stream.pollNext.2⟩, σl.world⟩) ∧
        (acceptingListener.accept σl.item.stream.polled = .pending →
          ActorMessageStreamItem.Returns Context.running countingHandler
            ⟨⟨{ WtfStream.toStream id ⟨acceptingListener⟩ with polled := 2 }⟩, (1, ())⟩
            .pending ⟨⟨σl.item.stream.pollNext.2⟩, σl.world⟩) := by
  have run : PendingRun (ActorMessageStreamItem.Returns Context.running countingHandler)
      ⟨.new (WtfStream.toStream id ⟨acceptingListener⟩), (0, ())⟩
      ⟨⟨{ WtfStream.toStream id ⟨acceptingListener⟩ with polled := 2 }⟩, (1, ())⟩ :=
    .single ⟨2, rfl⟩
  exact ⟨run, server_handles_each_accepted_connection id Context.running countingHandler
    acceptingListener (0, ()) run⟩

end Chat

end Actix
