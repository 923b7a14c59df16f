import Actix.ContextItems.StreamRun

/-! # Two message streams on one actor

Each `add_message_stream` spawns its own item, and the context calls its items in an order
of its own, against the one actor they share. The per-call drain (`returns_spec`), composed
along any schedule, gives an interleaving of the two streams.
-/

namespace Actix

namespace ActorMessageStreamItem

variable {A C M₁ M₂ R₁ R₂ T₁ T₂ : Type}

/-- Two message-stream items spawned on one context, and the actor and context they share. -/
structure TwoStreams (A C M₁ M₂ : Type) where
  first : ActorMessageStreamItem M₁
  second : ActorMessageStreamItem M₂
  world : A × C

/-- The context calls `poll` on one of its two items, and the call returns. -/
inductive TwoStreams.Step (cx : Context C) (h₁ : Handler A C M₁ R₁ T₁)
    (h₂ : Handler A C M₂ R₂ T₂) : TwoStreams A C M₁ M₂ → TwoStreams A C M₁ M₂ → Prop
  | first {s : TwoStreams A C M₁ M₂} {r : Poll Unit}
      {σ' : Polled (ActorMessageStreamItem M₁) A C} :
      Returns cx h₁ ⟨s.first, s.world⟩ r σ' → Step cx h₁ h₂ s ⟨σ'.item, s.second, σ'.world⟩
  | second {s : TwoStreams A C M₁ M₂} {r : Poll Unit}
      {σ' : Polled (ActorMessageStreamItem M₂) A C} :
      Returns cx h₂ ⟨s.second, s.world⟩ r σ' → Step cx h₁ h₂ s ⟨s.first, σ'.item, σ'.world⟩

def dispatchEither (h₁ : Handler A C M₁ R₁ T₁) (h₂ : Handler A C M₂ R₂ T₂) (w : A × C) :
    M₁ ⊕ M₂ → A × C
  | .inl m => h₁.dispatch w m
  | .inr m => h₂.dispatch w m

section Deliver

variable (h₁ : Handler A C M₁ R₁ T₁) (h₂ : Handler A C M₂ R₂ T₂) (w : A × C)
  (L : List (M₁ ⊕ M₂))

theorem foldl_dispatchEither_inl (msgs : List M₁) :
    (L ++ msgs.map Sum.inl).foldl (dispatchEither h₁ h₂) w =
      h₁.deliver (L.foldl (dispatchEither h₁ h₂) w) msgs := by
  rw [List.foldl_append, List.foldl_map]
  rfl

theorem foldl_dispatchEither_inr (msgs : List M₂) :
    (L ++ msgs.map Sum.inr).foldl (dispatchEither h₁ h₂) w =
      h₂.deliver (L.foldl (dispatchEither h₁ h₂) w) msgs := by
  rw [List.foldl_append, List.foldl_map]
  rfl

theorem filterMap_left_map_inl (msgs : List M₁) :
    (msgs.map (Sum.inl : M₁ → M₁ ⊕ M₂)).filterMap Sum.getLeft? = msgs := by
  simp [Function.comp_def]

theorem filterMap_right_map_inl (msgs : List M₁) :
    (msgs.map (Sum.inl : M₁ → M₁ ⊕ M₂)).filterMap Sum.getRight? = [] := by
  simp [Function.comp_def]

theorem filterMap_left_map_inr (msgs : List M₂) :
    (msgs.map (Sum.inr : M₂ → M₁ ⊕ M₂)).filterMap Sum.getLeft? = [] := by
  simp [Function.comp_def]

theorem filterMap_right_map_inr (msgs : List M₂) :
    (msgs.map (Sum.inr : M₂ → M₁ ⊕ M₂)).filterMap Sum.getRight? = msgs := by
  simp [Function.comp_def]

end Deliver

/-- What a schedule of calls from fresh items on `s₁` and `s₂` against `w₀` has done. -/
structure Interleaved (h₁ : Handler A C M₁ R₁ T₁) (h₂ : Handler A C M₂ R₂ T₂)
    (s₁ : Stream M₁) (s₂ : Stream M₂) (w₀ : A × C) (σ : TwoStreams A C M₁ M₂) : Prop where
  first_answer : σ.first.stream.answer = s₁.answer
  first_le : s₁.polled ≤ σ.first.stream.polled
  second_answer : σ.second.stream.answer = s₂.answer
  second_le : s₂.polled ≤ σ.second.stream.polled
  interleaving : ∃ L : List (M₁ ⊕ M₂),
    L.filterMap Sum.getLeft? = s₁.yielded (σ.first.stream.polled - s₁.polled) ∧
      L.filterMap Sum.getRight? = s₂.yielded (σ.second.stream.polled - s₂.polled) ∧
      σ.world = L.foldl (dispatchEither h₁ h₂) w₀

section Schedule

variable {cx : Context C} {h₁ : Handler A C M₁ R₁ T₁} {h₂ : Handler A C M₂ R₂ T₂} {s₁ : Stream M₁}
  {s₂ : Stream M₂} {w₀ : A × C} {σ σ' : TwoStreams A C M₁ M₂}

theorem Interleaved.call_first (hi : Interleaved h₁ h₂ s₁ s₂ w₀ σ) {r : Poll Unit}
    {τ : Polled (ActorMessageStreamItem M₁) A C} (hr : Returns cx h₁ ⟨σ.first, σ.world⟩ r τ) :
    Interleaved h₁ h₂ s₁ s₂ w₀ ⟨τ.item, σ.second, τ.world⟩ := by
  obtain ⟨hans, hle, hw⟩ := (returns_spec hr).drained
  obtain ⟨L, hl, hr', hwL⟩ := hi.interleaving
  refine ⟨hans.trans hi.first_answer, Nat.le_trans hi.first_le hle, hi.second_answer,
    hi.second_le, L ++ (σ.first.stream.yielded (τ.item.stream.polled - σ.first.stream.polled)).map
      Sum.inl, ?_, ?_, ?_⟩
  · rw [List.filterMap_append, filterMap_left_map_inl, hl]
    exact Stream.yielded_sub_append hi.first_answer hi.first_le hle
  · rw [List.filterMap_append, filterMap_right_map_inl, List.append_nil, hr']
  · rw [hw, hwL, foldl_dispatchEither_inl]

theorem Interleaved.call_second (hi : Interleaved h₁ h₂ s₁ s₂ w₀ σ) {r : Poll Unit}
    {τ : Polled (ActorMessageStreamItem M₂) A C} (hr : Returns cx h₂ ⟨σ.second, σ.world⟩ r τ) :
    Interleaved h₁ h₂ s₁ s₂ w₀ ⟨σ.first, τ.item, τ.world⟩ := by
  obtain ⟨hans, hle, hw⟩ := (returns_spec hr).drained
  obtain ⟨L, hl, hr', hwL⟩ := hi.interleaving
  refine ⟨hi.first_answer, hi.first_le, hans.trans hi.second_answer,
    Nat.le_trans hi.second_le hle, L ++ (σ.second.stream.yielded
      (τ.item.stream.polled - σ.second.stream.polled)).map Sum.inr, ?_, ?_, ?_⟩
  · rw [List.filterMap_append, filterMap_left_map_inr, List.append_nil, hl]
  · rw [List.filterMap_append, filterMap_right_map_inr, hr']
    exact Stream.yielded_sub_append hi.second_answer hi.second_le hle
  · rw [hw, hwL, foldl_dispatchEither_inr]

theorem Interleaved.step (hi : Interleaved h₁ h₂ s₁ s₂ w₀ σ)
    (hs : TwoStreams.Step cx h₁ h₂ σ σ') : Interleaved h₁ h₂ s₁ s₂ w₀ σ' := by
  cases hs with
  | first hr => exact hi.call_first hr
  | second hr => exact hi.call_second hr

end Schedule

/-- Over every schedule of calls of two stream items, the actor sees an interleaving of both. -/
theorem two_streams_deliver_interleaved (cx : Context C) (h₁ : Handler A C M₁ R₁ T₁)
    (h₂ : Handler A C M₂ R₂ T₂) (s₁ : Stream M₁) (s₂ : Stream M₂) (w₀ : A × C)
    {σ : TwoStreams A C M₁ M₂}
    (run : Relation.ReflTransGen (TwoStreams.Step cx h₁ h₂) ⟨.new s₁, .new s₂, w₀⟩ σ) :
    ∃ L : List (M₁ ⊕ M₂),
      L.filterMap Sum.getLeft? = s₁.yielded (σ.first.stream.polled - s₁.polled) ∧
        L.filterMap Sum.getRight? = s₂.yielded (σ.second.stream.polled - s₂.polled) ∧
        σ.world = L.foldl (dispatchEither h₁ h₂) w₀ := by
  suffices hi : Interleaved h₁ h₂ s₁ s₂ w₀ σ from hi.interleaving
  induction run with
  | refl => exact ⟨rfl, Nat.le_refl _, rfl, Nat.le_refl _, [], by simp, by simp, rfl⟩
  | tail _ hs ih => exact ih.step hs

theorem two_streams_deliver_interleaved_over_a_b_a :
    Relation.ReflTransGen (TwoStreams.Step Context.running summingHandler summingHandler)
        ⟨.new pausing, .new oneTwoThree, (0, ())⟩
        ⟨⟨{ pausing with polled := 5 }⟩, ⟨{ oneTwoThree with polled := 4 }⟩, (14, ())⟩ ∧
      ∃ L : List (Nat ⊕ Nat),
        L.filterMap Sum.getLeft? = pausing.yielded (5 - pausing.polled) ∧
          L.filterMap Sum.getRight? = oneTwoThree.yielded (4 - oneTwoThree.polled) ∧
          (14, ()) = L.foldl (dispatchEither summingHandler summingHandler) (0, ()) := by
  have a₁ : Returns Context.running summingHandler ⟨.new pausing, (0, ())⟩ .pending
      ⟨⟨{ pausing with polled := 2 }⟩, (1, ())⟩ := ⟨2, rfl⟩
  have b : Returns Context.running summingHandler ⟨.new oneTwoThree, (1, ())⟩ (.ready ())
      ⟨⟨{ oneTwoThree with polled := 4 }⟩, (7, ())⟩ := ⟨4, rfl⟩
  have a₂ : Returns Context.running summingHandler ⟨⟨{ pausing with polled := 2 }⟩, (7, ())⟩
      (.ready ()) ⟨⟨{ pausing with polled := 5 }⟩, (14, ())⟩ := ⟨3, rfl⟩
  have run : Relation.ReflTransGen (TwoStreams.Step Context.running summingHandler
      summingHandler) ⟨.new pausing, .new oneTwoThree, (0, ())⟩
      ⟨⟨{ pausing with polled := 5 }⟩, ⟨{ oneTwoThree with polled := 4 }⟩, (14, ())⟩ :=
    ((Relation.ReflTransGen.single (.first a₁)).tail (.second b)).tail (.first a₂)
  exact ⟨run, two_streams_deliver_interleaved Context.running summingHandler summingHandler
    pausing oneTwoThree (0, ()) run⟩

end ActorMessageStreamItem

end Actix
