import Cobalt.Proof.Unwrap
import Cobalt.Proof.Congestion

/-!
# `Server::bind` does not panic

Past the socket, `bind` can panic in four ways: the division `1000 / send_rate` (line 46), the
remainder by the congestion divider (line 121), the five `unwrap`s of the loop, and the overflow of
`tick += 1` (line 149, in a debug build). The `unwrap` of the socket's reader (line 57) is the
socket's, which is not modelled. A receive pass panics only at an `unwrap` (`receivePacket_holds`),
a tick only at one of the last three (`tick_error`). Along a run of `bind` with a nonzero send rate
the state is `Synced`, when the `tick_connections` hook adds no key, and `Counted`; from such a
state, with a nonzero divider, neither step panics (`tick_never_panics`), so `bind` returns
(`bind_never_panics`).

With a zero divider the remainder of line 121 is still taken only for a congested connection, `||`
not evaluating it for the others (`visit_remainder`). From every reachable state a tick then panics
exactly when the hook leaves a congested connection in the map (`tick_panics_iff`).

The hypothesis that the hook adds no key cannot be dropped: a connection it inserts under a key
the receive loop never stored an address for makes the tick panic at the `unwrap` of line 125 as
soon as its gate is open (`tick_panics_on_inserted_key`).
-/

namespace Cobalt.Server

variable {C H : Type} (ops : ConnectionOps C H) (hs : HandlerOps C H)

/-- From a synced and counted state, under a nonzero send rate and divider, a tick does not
panic. -/
theorem tick_never_panics (hk : AddsNoKey hs) {cfg : Config} (hsr : cfg.sendRate ≠ 0)
    (hN : cfg.congestionDivider ≠ 0) {s : State C H} (hsync : Synced s) (hc : Counted cfg s) :
    Holds (fun _ => True) (fun _ => False) (tick ops hs s) := by
  cases h : tick ops hs s with
  | ok _ => trivial
  | error e =>
    rcases (tick_error ops hs s).of_error h with ⟨-, hz⟩ | ⟨line, rfl⟩ | ⟨rfl, -⟩
    · exact hN (hc.config ▸ hz)
    · exact (tick_synced ops hs hk hsync).of_error h line rfl
    · exact tick_no_overflow ops hs hsr hc h

/-- With a nonzero send rate and congestion divider, and a `tick_connections` hook that adds no
key, `Server::bind` does not panic: on every input it returns. -/
theorem bind_never_panics (hk : AddsNoKey hs) {ε : Type} (server : Server) (handler : H)
    (bound : Except ε SocketAddr) (batches : List (List (SocketAddr × Packet)))
    (hsr : server.config.sendRate ≠ 0) (hN : server.config.congestionDivider ≠ 0) :
    ∃ r, bind ops hs server handler bound batches = .ok r := by
  unfold bind
  rw [if_neg hsr]
  cases bound with
  | error err => exact ⟨_, rfl⟩
  | ok address =>
    dsimp only
    have hinv : ∀ s, Steps ops hs (start hs server handler address) s →
        Synced s ∧ Counted server.config s := fun s h =>
      h.preserves
        (fun _ _ _ _ (hi : Synced _ ∧ Counted server.config _) h =>
          ⟨(receivePacket_synced ops hi.1 _ _).of_ok h,
          receivePacket_counted ops hi.2 h⟩)
        (fun _ _ hi h => ⟨(tick_synced ops hs hk hi.1).of_ok h, tick_counted ops hs hsr hi.2 h⟩)
        ⟨synced_start hs server handler address, counted_start hs server handler address⟩
    have hl := loop_holds ops hs (Q := fun _ => False)
      (fun s a p h => (receivePacket_synced ops (hinv s h).1 a p).mono (fun _ _ => trivial)
        fun _ h => h)
      (fun s h => tick_never_panics ops hs hk hsr hN (hinv s h).1 (hinv s h).2) batches .refl
    cases h : loop ops hs (start hs server handler address) batches with
    | error e => rw [h] at hl; exact hl.elim
    | ok s => exact ⟨_, rfl⟩

theorem bind_never_panics_peerOnly :
    AddsNoKey (HandlerOps.noop SocketAddr) ∧ (Server.new ⟨30, 2⟩).config.sendRate ≠ 0 ∧
      (Server.new ⟨30, 2⟩).config.congestionDivider ≠ 0 ∧
      ∃ r, bind (ConnectionOps.peerOnly true) (HandlerOps.noop SocketAddr) (Server.new ⟨30, 2⟩) ()
        (.ok ⟨[127, 0, 0, 1], 4000⟩ : Except Unit SocketAddr)
        [[(⟨[10, 0, 0, 1], 5000⟩, [7])], []] = .ok r :=
  ⟨noop_addsNoKey, by decide, by decide,
    bind_never_panics _ _ noop_addsNoKey _ _ _ _ (by decide) (by decide)⟩

/-! ## The remainder of line 121 -/

/-- A pass of the send loop panics at the remainder only for a congested connection. -/
theorem visit_remainder {s : State C H} {id : ConnectionID} {conn : C}
    (h : visit ops s id conn = .error .remainderByZero) : ops.congested conn = true := by
  cases hc : ops.congested conn
  · cases hget : s.addresses.get id <;> simp [visit, hc, sendGate_false, unwrap, hget] at h
  · rfl

theorem sendAll_remainder (s : State C H) :
    Holds (fun _ => True)
      (fun e => e = .remainderByZero → ∃ x ∈ s.connections.entries, ops.congested x.2 = true)
      (sendAll ops s) :=
  Holds.foldlM (fun x hx s' _ => by
    cases h : visit ops s' x.1 x.2 with
    | ok _ => trivial
    | error e => exact fun he => ⟨x, hx, visit_remainder ops (he ▸ h)⟩) trivial

/-- A tick panics at the remainder only when the hook leaves a congested connection in the map. -/
theorem tick_remainder (s : State C H) :
    Holds (fun _ => True) (fun e => e = .remainderByZero →
      ∃ x ∈ (tickHandler hs s).connections.entries, ops.congested x.2 = true)
      (tick ops hs s) := by
  unfold tick
  refine (sendAll_remainder ops _).bind fun s₁ _ => ?_
  refine ((removeAll_error s₁).mono (fun _ h => h) fun e ⟨_, he⟩ h => ?_).bind fun s₂ _ => ?_
  · refine ((nextTick_error _ _).mono (fun _ h => h) fun e he h => ?_).bind fun _ _ => trivial
    cases he.1.symm.trans h
  · cases he.symm.trans h

/-- From every reachable state, when the `tick_connections` hook adds no key, a tick panics
exactly when the congestion divider is 0 and the hook leaves a congested connection in the map,
and then at the remainder of line 121. -/
theorem tick_panics_iff (hk : AddsNoKey hs) {s : State C H} (hr : Reach ops hs s) (e : Panic) :
    tick ops hs s = .error e ↔ e = .remainderByZero ∧ s.server.config.congestionDivider = 0 ∧
      ∃ j c, (tickHandler hs s).connections.get j = some c ∧ ops.congested c = true := by
  obtain ⟨hsr, hc⟩ := hr.counted
  have hto : ∀ e, tick ops hs s = .error e → e = .remainderByZero ∧
      s.server.config.congestionDivider = 0 ∧
      ∃ j c, (tickHandler hs s).connections.get j = some c ∧ ops.congested c = true := by
    intro e h
    rcases (tick_error ops hs s).of_error h with ⟨rfl, hN⟩ | ⟨line, rfl⟩ | ⟨rfl, -⟩
    · obtain ⟨x, hx, hcong⟩ := (tick_remainder ops hs s).of_error h rfl
      exact ⟨rfl, hN, x.1, x.2, AList.mem_lookup_iff.2 hx, hcong⟩
    · exact ((tick_synced ops hs hk (hr.synced ops hs hk)).of_error h line rfl).elim
    · exact (tick_no_overflow ops hs hsr hc h).elim
  refine ⟨hto e, fun ⟨he, hN, j, c, hget, hcong⟩ => ?_⟩
  cases ht : tick ops hs s with
  | error e' => rw [he, (hto e' ht).1]
  | ok s' =>
    obtain ⟨s₁, -, -, h₁, -⟩ := tick_eq_ok ops hs ht
    obtain ⟨g, hg, -⟩ := sendAll_gates ops h₁ hget
    simp [sendGate, hcong, hN] at hg

theorem tick_panics_iff_peerOnly :
    ∃ s : State SocketAddr Unit,
      Reach (ConnectionOps.peerOnly true) (HandlerOps.noop SocketAddr) s ∧
      tick (ConnectionOps.peerOnly true) (HandlerOps.noop SocketAddr) s = .error .remainderByZero :=
  let hr : Reach (ConnectionOps.peerOnly true) (HandlerOps.noop SocketAddr) _ :=
    ⟨Server.new ⟨30, 0⟩, (), ⟨[127, 0, 0, 1], 4000⟩, by decide,
      @Steps.receive _ _ _ _ _ _ _ ⟨[10, 0, 0, 1], 5000⟩ [7] .refl rfl⟩
  ⟨_, hr, (tick_panics_iff _ _ noop_addsNoKey hr _).2
    ⟨rfl, rfl, ⟨7⟩, ⟨[10, 0, 0, 1], 5000⟩, rfl, rfl⟩⟩

/-! ## A key the hook inserts -/

/-- A connection that the `tick_connections` hook inserts under a key without an address makes the
tick panic at the `unwrap` of line 125 when its gate is open, whatever the order of the map. -/
theorem tick_panics_on_inserted_key {s : State C H} {j : ConnectionID} {c : C}
    (hN : s.server.config.congestionDivider ≠ 0)
    (hc : (tickHandler hs s).connections.get j = some c) (ha : j ∉ s.addresses)
    (hgate : ops.congested c = false ∨ s.tick % s.server.config.congestionDivider = 0) :
    tick ops hs s = .error (.unwrapNone 125) := by
  have hsend : sendAll ops (tickHandler hs s) = .error (.unwrapNone 125) := by
    cases h₁ : sendAll ops (tickHandler hs s) with
    | error e =>
      rcases (sendAll_holds ops _).of_error h₁ with ⟨-, hz⟩ | ⟨rfl, -⟩
      · exact absurd (by simpa using hz) hN
      · rfl
    | ok s₁ =>
      obtain ⟨g, hg, hmem⟩ := sendAll_gates ops h₁ hc
      simp only [tickHandler_config, tickHandler_tick] at hg
      have hopen : g = true := by
        rw [sendGate_eq_ok hg]
        rcases hgate with h | h <;> simp [h]
      exact absurd (by simpa using hmem hopen) ha
  simp only [tick, hsend, error_bind]

theorem tick_panics_on_inserted_key_inserting :
    ∃ s : State SocketAddr Unit,
      Reach (ConnectionOps.peerOnly false)
        (HandlerOps.inserting ⟨9⟩ ⟨[10, 0, 0, 9], 5000⟩) s ∧
      tick (ConnectionOps.peerOnly false) (HandlerOps.inserting ⟨9⟩ ⟨[10, 0, 0, 9], 5000⟩) s =
        .error (.unwrapNone 125) :=
  let hr : Reach (ConnectionOps.peerOnly false)
      (HandlerOps.inserting ⟨9⟩ ⟨[10, 0, 0, 9], 5000⟩) _ :=
    ⟨Server.new ⟨30, 2⟩, (), ⟨[127, 0, 0, 1], 4000⟩, by decide, .refl⟩
  ⟨_, hr, tick_panics_on_inserted_key _ _ (j := ⟨9⟩) (c := ⟨[10, 0, 0, 9], 5000⟩) (by decide) rfl
    (by decide) (.inl rfl)⟩

end Cobalt.Server
