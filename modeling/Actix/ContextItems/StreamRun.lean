import Actix.ContextItems.StreamLoop

/-! # Runs of the stream item

A fresh item on `s₀`, called again and again against `w₀` until its first `Ready`: after
every call `w₀` has had the stream's messages so far once each, in order (`Drained`), and
with the stream's end ahead the calls get there.
-/

namespace Actix

namespace ActorMessageStreamItem

variable {A C M R T : Type}

section Calls

variable {cx : Context C} {h : Handler A C M R T} {r : Poll Unit}
  {σ σl σ' : Polled (ActorMessageStreamItem M) A C}

/-- A call answers `Ready` exactly when its last answer was `Ready(None)`, and only that. -/
theorem returns_ready_iff (hr : Returns cx h σ r σ') :
    (r = .ready () ↔ σ.item.stream.answer (σ'.item.stream.polled - 1) = .ready none) ∧
      ∀ i, σ.item.stream.polled ≤ i → i + 1 < σ'.item.stream.polled →
        σ.item.stream.answer i ≠ .ready none := by
  have spec := returns_spec hr
  refine ⟨⟨fun hr => exitOf_eq_ready.mp (hr ▸ spec.exit_eq),
    fun hn => by simpa [hn, exitOf, eq_comm] using spec.exit_eq⟩, fun i h₁ h₂ => ?_⟩
  obtain ⟨m, hm⟩ := spec.messages_before i h₁ h₂
  simp [hm]

theorem returns_of_chain_end (chain : Relation.ReflTransGen (Continues cx h) σ σl)
    (hend : σl.item.stream.answer σl.item.stream.polled = .ready none) :
    Returns cx h σ (.ready ()) ⟨⟨σl.item.stream.pollNext.2⟩, σl.world⟩ :=
  returns_iff.mpr ⟨σl, chain, by simp [pass_eq, hend, exitOf]⟩

theorem returns_of_chain_pending (chain : Relation.ReflTransGen (Continues cx h) σ σl)
    (hp : σl.item.stream.answer σl.item.stream.polled = .pending) :
    Returns cx h σ .pending ⟨⟨σl.item.stream.pollNext.2⟩, σl.world⟩ :=
  returns_iff.mpr ⟨σl, chain, by simp [pass_eq, hp, exitOf]⟩

theorem returns_of_exitsAt_end {j : Nat} (hle : σ.item.stream.polled ≤ j)
    (hend : σ.item.stream.answer j = .ready none) : ∃ r σ', Returns cx h σ r σ' := by
  have he : ExitsAt cx h σ (j - σ.item.stream.polled) :=
    .inl (by rw [Nat.add_sub_cancel' hle, hend]; rfl)
  obtain ⟨r, σ', hp⟩ := returns_of_exitsAt he
  exact ⟨r, σ', _, hp⟩

end Calls

/-- Along a run of `Pending` polls: drained, and the stream has not ended. -/
structure Draining (h : Handler A C M R T) (s₀ : Stream M) (w₀ : A × C)
    (σ : Polled (ActorMessageStreamItem M) A C) extends Drained h s₀ w₀ σ : Prop where
  not_ended : ∀ i, s₀.polled ≤ i → i < σ.item.stream.polled → s₀.answer i ≠ .ready none

section Run

variable {cx : Context C} {h : Handler A C M R T} {s₀ : Stream M} {w₀ : A × C}
  {σ σ' : Polled (ActorMessageStreamItem M) A C} {r : Poll Unit}

theorem Draining.start : Draining h s₀ w₀ ⟨.new s₀, w₀⟩ :=
  ⟨.refl ⟨.new s₀, w₀⟩, fun _ h₁ h₂ => absurd h₂ (Nat.not_lt.mpr h₁)⟩

theorem Draining.not_ended_before (hd : Draining h s₀ w₀ σ) (hr : Returns cx h σ r σ') :
    ∀ i, s₀.polled ≤ i → i + 1 < σ'.item.stream.polled → s₀.answer i ≠ .ready none := by
  intro i h₁ h₂
  rcases Nat.lt_or_ge i σ.item.stream.polled with hi | hi
  · exact hd.not_ended i h₁ hi
  · exact hd.answer_eq ▸ (returns_ready_iff hr).2 i hi h₂

theorem Draining.after_pending (hd : Draining h s₀ w₀ σ) (hr : Returns cx h σ .pending σ') :
    Draining h s₀ w₀ σ' := by
  refine ⟨hd.trans (returns_spec hr).drained, fun i h₁ h₂ => ?_⟩
  rcases Nat.lt_or_ge (i + 1) σ'.item.stream.polled with hi | hi
  · exact hd.not_ended_before hr i h₁ hi
  · rw [show i = σ'.item.stream.polled - 1 by omega, ← hd.answer_eq]
    exact fun hn => Poll.noConfusion ((returns_ready_iff hr).1.mpr hn)

theorem Draining.of_run (run : PendingRun (Returns cx h) ⟨.new s₀, w₀⟩ σ) :
    Draining h s₀ w₀ σ :=
  run.invariant Draining.start fun _ _ hd hr => hd.after_pending hr

end Run

/-- Along `Pending` calls from a fresh item each message is delivered once, in order. -/
theorem stream_item_delivers_each_once (cx : Context C) (h : Handler A C M R T) (s₀ : Stream M)
    (w₀ : A × C) {σ : Polled (ActorMessageStreamItem M) A C}
    (run : PendingRun (Returns cx h) ⟨.new s₀, w₀⟩ σ) :
    Drained h s₀ w₀ σ ∧
      (∀ i, s₀.polled ≤ i → i < σ.item.stream.polled → s₀.answer i ≠ .ready none) ∧
      (∀ r σ', Returns cx h σ r σ' →
        Drained h s₀ w₀ σ' ∧
          (∀ i, s₀.polled ≤ i → i + 1 < σ'.item.stream.polled → s₀.answer i ≠ .ready none) ∧
          (r = .ready () ↔ s₀.answer (σ'.item.stream.polled - 1) = .ready none)) ∧
      ∀ σl, Relation.ReflTransGen (Continues cx h) σ σl →
        s₀.answer σl.item.stream.polled = .ready none →
        Returns cx h σ (.ready ()) ⟨⟨σl.item.stream.pollNext.2⟩, σl.world⟩ := by
  have inv := Draining.of_run run
  refine ⟨inv.toDrained, inv.not_ended, fun r σ' hr => ?_, fun σl chain hend => ?_⟩
  · exact ⟨inv.trans (returns_spec hr).drained, inv.not_ended_before hr,
      inv.answer_eq ▸ (returns_ready_iff hr).1⟩
  · have hans : σl.item.stream.answer = s₀.answer :=
      (chain_spec chain).1.answer_eq.trans inv.answer_eq
    exact returns_of_chain_end chain (hans ▸ hend)

/-- The stream `1`, then `Pending`, then `3, 4` and its end. -/
def pausing : Stream Nat :=
  ⟨fun i => if i = 1 then .pending else if i < 4 then .ready (some (i + 1)) else .ready none, 0⟩

theorem stream_item_delivers_each_once_past_a_pause :
    PendingRun (Returns Context.running summingHandler) ⟨.new pausing, (0, ())⟩
        ⟨⟨{ pausing with polled := 2 }⟩, (1, ())⟩ ∧
      Drained summingHandler pausing (0, ()) ⟨⟨{ pausing with polled := 2 }⟩, (1, ())⟩ ∧
      (∀ i, pausing.polled ≤ i → i < 2 → pausing.answer i ≠ .ready none) ∧
      (∀ r σ', Returns Context.running summingHandler ⟨⟨{ pausing with polled := 2 }⟩, (1, ())⟩
          r σ' →
        Drained summingHandler pausing (0, ()) σ' ∧
          (∀ i, pausing.polled ≤ i → i + 1 < σ'.item.stream.polled →
            pausing.answer i ≠ .ready none) ∧
          (r = .ready () ↔ pausing.answer (σ'.item.stream.polled - 1) = .ready none)) ∧
      ∀ σl, Relation.ReflTransGen (Continues Context.running summingHandler)
          ⟨⟨{ pausing with polled := 2 }⟩, (1, ())⟩ σl →
        pausing.answer σl.item.stream.polled = .ready none →
        Returns Context.running summingHandler ⟨⟨{ pausing with polled := 2 }⟩, (1, ())⟩
          (.ready ()) ⟨⟨σl.item.stream.pollNext.2⟩, σl.world⟩ := by
  have run : PendingRun (Returns Context.running summingHandler) ⟨.new pausing, (0, ())⟩
      ⟨⟨{ pausing with polled := 2 }⟩, (1, ())⟩ := .single ⟨2, rfl⟩
  exact ⟨run, stream_item_delivers_each_once Context.running summingHandler pausing (0, ()) run⟩

section End

variable {cx : Context C} {h : Handler A C M R T} {s₀ : Stream M} {w₀ : A × C} {j : Nat}
  (hj : s₀.polled ≤ j) (hend : s₀.answer j = .ready none)

include hj hend

theorem Draining.polled_le {σ : Polled (ActorMessageStreamItem M) A C}
    (hd : Draining h s₀ w₀ σ) : σ.item.stream.polled ≤ j :=
  Nat.le_of_not_lt fun hlt => hd.not_ended j hj hlt hend

theorem Draining.pending_step {σ σ' : Polled (ActorMessageStreamItem M) A C}
    (hd : Draining h s₀ w₀ σ) (hr : Returns cx h σ .pending σ') :
    Draining h s₀ w₀ σ' ∧ j - σ'.item.stream.polled < j - σ.item.stream.polled := by
  have hd' := hd.after_pending hr
  have hlt := (returns_spec hr).polled_lt
  have := hd'.polled_le hj hend
  exact ⟨hd', by omega⟩

theorem Draining.progress {σ : Polled (ActorMessageStreamItem M) A C}
    (hd : Draining h s₀ w₀ σ) :
    ∃ r σ', Returns cx h σ r σ' ∧
      (r = .pending →
        Draining h s₀ w₀ σ' ∧ j - σ'.item.stream.polled < j - σ.item.stream.polled) := by
  obtain ⟨r, σ', hr⟩ : ∃ r σ', Returns cx h σ r σ' :=
    returns_of_exitsAt_end (hd.polled_le hj hend) (hd.answer_eq ▸ hend)
  exact ⟨r, σ', hr, fun hp => hd.pending_step hj hend (hp ▸ hr)⟩

end End

section Waiting

variable {cx : Context C} {h : Handler A C M R T}
  (hkeep : ∀ w m, cx.waiting w.2 = true → cx.waiting (h.dispatch w m).2 = true)

include hkeep

theorem waiting_deliver {w : A × C} (hw : cx.waiting w.2 = true) (msgs : List M) :
    cx.waiting (h.deliver w msgs).2 = true := by
  induction msgs generalizing w with
  | nil => exact hw
  | cons m msgs ih => exact ih (hkeep w m hw)

theorem returns_pass_of_waiting {σ : Polled (ActorMessageStreamItem M) A C}
    (hw : cx.waiting σ.world.2 = true) : ∃ r, Returns cx h σ r (pass cx h σ).2 := by
  rcases pass_cases cx h σ with ⟨r, he⟩ | hc
  · exact ⟨r, returns_iff.mpr ⟨σ, .refl, he⟩⟩
  · have hnw := hc.not_waiting
    rw [pass_world, waiting_deliver hkeep hw] at hnw
    cases hnw

end Waiting

/-- On a context that stays waiting, each call reads one answer and delivers its message. -/
theorem stream_item_reads_one_answer_per_call (cx : Context C) (h : Handler A C M R T)
    (hkeep : ∀ w m, cx.waiting w.2 = true → cx.waiting (h.dispatch w m).2 = true)
    (f : Nat → Polled (ActorMessageStreamItem M) A C) (N : Nat)
    (hw : cx.waiting (f 0).world.2 = true)
    (calls : ∀ n, n < N → ∃ r, Returns cx h (f n) r (f (n + 1))) :
    (f N).item.stream.polled = (f 0).item.stream.polled + N ∧
      Drained h (f 0).item.stream (f 0).world (f N) ∧
      ∃ r, Returns cx h (f N) r (pass cx h (f N)).2 := by
  have reach : ∀ n, n ≤ N → (f n).item.stream.polled = (f 0).item.stream.polled + n ∧
      Drained h (f 0).item.stream (f 0).world (f n) ∧ cx.waiting (f n).world.2 = true := by
    intro n
    induction n with
    | zero => exact fun _ => ⟨rfl, .refl (f 0), hw⟩
    | succ n ih =>
        intro hn
        obtain ⟨hpol, hd, hwn⟩ := ih (Nat.le_of_succ_le hn)
        obtain ⟨r, hr⟩ := calls n hn
        obtain ⟨r', hr'⟩ := returns_pass_of_waiting hkeep hwn
        obtain ⟨-, heq⟩ := hr.determ hr'
        rw [heq, pass_stream, Stream.pollNext_polled, hpol, pass_world]
        exact ⟨rfl, hd.after_pass, waiting_deliver hkeep hwn _⟩
  obtain ⟨hpol, hd, hwN⟩ := reach N (Nat.le_refl N)
  exact ⟨hpol, hd, returns_pass_of_waiting hkeep hwN⟩

/-- A context that waits exactly when it is `true`. -/
def waitingContext : Context Bool := ⟨id, fun _ => .running⟩

def oneTwoThreeWaiting (n : Nat) : Polled (ActorMessageStreamItem Nat) Nat Bool :=
  ⟨⟨{ oneTwoThree with polled := n }⟩, (n * (n + 1) / 2, true)⟩

theorem stream_item_reads_one_answer_per_call_on_one_two_three :
    (∀ w m, waitingContext.waiting w.2 = true →
      waitingContext.waiting (summingHandler.dispatch w m).2 = true) ∧
      waitingContext.waiting (oneTwoThreeWaiting 0).world.2 = true ∧
      (∀ n, n < 2 → ∃ r, Returns waitingContext summingHandler (oneTwoThreeWaiting n) r
        (oneTwoThreeWaiting (n + 1))) ∧
      (oneTwoThreeWaiting 2).item.stream.polled = (oneTwoThreeWaiting 0).item.stream.polled + 2 ∧
      Drained summingHandler (oneTwoThreeWaiting 0).item.stream (oneTwoThreeWaiting 0).world
        (oneTwoThreeWaiting 2) ∧
      ∃ r, Returns waitingContext summingHandler (oneTwoThreeWaiting 2) r
        (pass waitingContext summingHandler (oneTwoThreeWaiting 2)).2 := by
  have hkeep : ∀ w m, waitingContext.waiting w.2 = true →
      waitingContext.waiting ((summingHandler : Handler Nat Bool Nat Unit Unit).dispatch w m).2 =
        true := fun _ _ hw => hw
  have calls : ∀ n, n < 2 → ∃ r, Returns waitingContext summingHandler (oneTwoThreeWaiting n) r
      (oneTwoThreeWaiting (n + 1)) := by
    intro n hn
    rcases n with _ | _ | n
    · exact ⟨.pending, 1, rfl⟩
    · exact ⟨.pending, 1, rfl⟩
    · omega
  exact ⟨hkeep, rfl, calls, stream_item_reads_one_answer_per_call waitingContext summingHandler
    hkeep oneTwoThreeWaiting 2 rfl calls⟩

end ActorMessageStreamItem

end Actix
