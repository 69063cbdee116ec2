import Cobalt.Proof.Receive
import Cobalt.Proof.Tick

/-!
# Runs of the loop

`Steps s s'`: the loop goes from `s` to `s'` by passes of the receive loop and ticks, none of
which panics. `Reach s`: `s` is such a state of a run of `Server::bind` from its start. Neither
looks at `closed`, so they also hold the states of runs that would have stopped at a shutdown;
every state `loop` passes through is one of them (`Steps.loop`), and a panic of `loop` is a panic
of a step from such a state (`loop_holds`, `bind_holds`). An invariant kept by both kinds of step
holds along `Steps` (`Steps.preserves`).
-/

namespace Cobalt.Server

variable {C H : Type} (ops : ConnectionOps C H) (hs : HandlerOps C H)

/-- The loop goes from `s` to `s'` without a panic. -/
inductive Steps (s : State C H) : State C H → Prop
  | refl : Steps s s
  | receive {s₁ s₂ : State C H} {addr : SocketAddr} {packet : Packet} :
      Steps s s₁ → receivePacket ops s₁ addr packet = .ok s₂ → Steps s s₂
  | tick {s₁ s₂ : State C H} : Steps s s₁ → tick ops hs s₁ = .ok s₂ → Steps s s₂

/-- `s` is a state of a run of `Server::bind`: the loop reaches it from `start`. -/
def Reach (s : State C H) : Prop :=
  ∃ server handler address, server.config.sendRate ≠ 0 ∧
    Steps ops hs (start hs server handler address) s

namespace Steps

variable {ops hs}

theorem trans {s s₁ s₂ : State C H} (h₁ : Steps ops hs s s₁) (h₂ : Steps ops hs s₁ s₂) :
    Steps ops hs s s₂ := by
  induction h₂ with
  | refl => exact h₁
  | receive _ hr ih => exact .receive ih hr
  | tick _ ht ih => exact .tick ih ht

/-- An invariant kept by the receive pass and by the tick holds along a run. -/
theorem preserves {Inv : State C H → Prop}
    (hr : ∀ s a p s', Inv s → receivePacket ops s a p = .ok s' → Inv s')
    (ht : ∀ s s', Inv s → Server.tick ops hs s = .ok s' → Inv s') {s s' : State C H}
    (h : Steps ops hs s s') (hi : Inv s) : Inv s' := by
  induction h with
  | refl => exact hi
  | receive _ h ih => exact hr _ _ _ _ ih h
  | tick _ h ih => exact ht _ _ ih h

theorem receiveAll {s s' : State C H} :
    ∀ {batch : List (SocketAddr × Packet)},
      batch.foldlM (fun s d => receivePacket ops s d.1 d.2) s = .ok s' → Steps ops hs s s' :=
  fun h => (Holds.foldlM (P := Steps ops hs s) (Q := fun _ => True)
    (fun d _ s₁ h₁ => by
      cases hr : receivePacket ops s₁ d.1 d.2 with
      | error e => trivial
      | ok s₂ => exact .receive h₁ hr) .refl).of_ok h

theorem iteration {s s' : State C H} {batch : List (SocketAddr × Packet)}
    (h : iteration ops hs s batch = .ok s') : Steps ops hs s s' := by
  obtain ⟨s₁, h₁, h₂⟩ := bind_eq_ok.1 h
  exact .tick (receiveAll h₁) h₂

theorem loop : ∀ {s s' : State C H} {batches : List (List (SocketAddr × Packet))},
    Server.loop ops hs s batches = .ok s' → Steps ops hs s s'
  | _, _, [], h => by cases h; exact .refl
  | s, _, _ :: _, h => by
    unfold Server.loop at h
    split at h
    · cases h; exact .refl
    · obtain ⟨s₁, h₁, h₂⟩ := bind_eq_ok.1 h
      exact (iteration h₁).trans (loop h₂)

end Steps

/-! ## Panics of a run -/

section
variable {Q : Panic → Prop} {s₀ : State C H}
  (hr : ∀ s a p, Steps ops hs s₀ s → Holds (fun _ => True) Q (receivePacket ops s a p))
  (ht : ∀ s, Steps ops hs s₀ s → Holds (fun _ => True) Q (tick ops hs s))
include hr ht

theorem iteration_holds {s : State C H} (hs₀ : Steps ops hs s₀ s)
    (batch : List (SocketAddr × Packet)) :
    Holds (Steps ops hs s₀) Q (iteration ops hs s batch) := by
  refine (Holds.foldlM (P := Steps ops hs s₀) (fun d _ s₁ h₁ => ?_) hs₀).bind fun s₁ h₁ => ?_
  · cases h : receivePacket ops s₁ d.1 d.2 with
    | error e => exact (hr s₁ _ _ h₁).of_error h
    | ok s₂ => exact .receive h₁ h
  · cases h : tick ops hs s₁ with
    | error e => exact (ht s₁ h₁).of_error h
    | ok s₂ => exact .tick h₁ h

/-- A run of `loop` from `s₀` whose steps raise only panics in `Q` panics only in `Q`. -/
theorem loop_holds : ∀ (batches : List (List (SocketAddr × Packet))) {s : State C H},
    Steps ops hs s₀ s → Holds (Steps ops hs s₀) Q (loop ops hs s batches)
  | [], _, h => h
  | _ :: rest, s, h => by
    unfold loop
    split
    · exact h
    · exact (iteration_holds ops hs hr ht h _).bind fun s₁ h₁ => loop_holds rest h₁

end

/-- `bind` panics only in `Q` when a zero send rate does and every step of every run does. -/
theorem bind_holds {ε : Type} {Q : Panic → Prop} (hz : Q .divideByZero)
    (hr : ∀ s a p, Reach ops hs s → Holds (fun _ => True) Q (receivePacket ops s a p))
    (ht : ∀ s, Reach ops hs s → Holds (fun _ => True) Q (tick ops hs s))
    (server : Server) (handler : H) (bound : Except ε SocketAddr)
    (batches : List (List (SocketAddr × Packet))) :
    Holds (fun _ => True) Q (bind ops hs server handler bound batches) := by
  unfold bind
  split
  · exact hz
  · rename_i hrate
    cases bound with
    | error err => trivial
    | ok address =>
      have hreach : ∀ s, Steps ops hs (start hs server handler address) s → Reach ops hs s :=
        fun s h => ⟨server, handler, address, hrate, h⟩
      exact (loop_holds ops hs (fun s a p h => hr s a p (hreach s h))
        (fun s h => ht s (hreach s h)) batches .refl).bind fun _ _ => trivial

end Cobalt.Server
