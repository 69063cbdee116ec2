import Cobalt.Proof.Reach

/-!
# No `unwrap` of `Server::bind` panics

The loop keeps two maps over the same keys, `connections` and `addresses`, and unwraps lookups in
one after finding the key in the other (lines 95, 98, 125, 141, 142). `Synced`: every key of
`connections` is a key of `addresses`, and `dropped` is empty between steps. It holds at the start,
and it is kept

* by a pass of the receive loop (`receivePacket_synced`): a new key goes into both maps;
* by a tick (`tick_synced`) when the `tick_connections` hook adds no key (`AddsNoKey`): the hook
  can only take keys out of `connections`, the send loop keeps the keys and pushes each key at
  most once on `dropped` (`sendAll_dropped`), and the removal loop takes each of them out of both
  maps.

From a `Synced` state no step reaches a failed `unwrap`; so no run of `bind` does
(`bind_unwrap_never_panics`). The remainder by a zero congestion divider and the tick counter's
overflow are other panics, not excluded here.
-/

namespace Cobalt.Server

variable {C H : Type} (ops : ConnectionOps C H) (hs : HandlerOps C H)

/-- Every key of `connections` is a key of `addresses`, and `dropped` is empty. -/
structure Synced (s : State C H) : Prop where
  keys : ∀ i ∈ s.connections, i ∈ s.addresses
  dropped : s.dropped = []

/-- The `tick_connections` hook never inserts a connection under a key absent from the map.

The claims assume this of the calls one run makes; asking it of every input loses no run. A
handler that inserts no key on the calls of a run makes that run exactly as the handler that
agrees with it on those calls and hands back the map it is given on every other call, and that
handler satisfies `AddsNoKey`. -/
def AddsNoKey (hs : HandlerOps C H) : Prop :=
  ∀ srv h m, ∀ i ∈ (hs.tickConnections srv h m).result, i ∈ m

theorem synced_start (server : Server) (handler : H) (address : SocketAddr) :
    Synced (start hs server handler address) :=
  ⟨by simp [start], rfl⟩

theorem receivePacket_synced {s : State C H} (hsync : Synced s) (addr : SocketAddr)
    (p : Packet) : Holds Synced (fun _ => False) (receivePacket ops s addr p) := by
  cases h : ops.idFromPacket p with
  | none => rw [receivePacket_none ops h]; exact ⟨hsync.keys, hsync.dropped⟩
  | some id =>
    refine (receivePacket_holds ops h).mono (fun s' hr => ⟨fun j hj => ?_, ?_⟩) ?_
    · rw [HashMap.mem_iff_get, hr.connections] at hj
      rw [HashMap.mem_iff_get, hr.addresses]
      by_cases hji : j = id
      · subst hji
        simp only [if_true]
        split
        · rename_i hc; exact HashMap.mem_iff_get.1 (hsync.keys j hc.1)
        · rfl
      · simp only [hji, if_false] at hj ⊢
        exact HashMap.mem_iff_get.1 (hsync.keys j (HashMap.mem_iff_get.2 hj))
    · rw [hr.dropped, hsync.dropped]
    · rintro _ ⟨-, hc, ha⟩
      exact ha (hsync.keys id hc)

/-- At the start of the removal loop, `dropped` holds keys of both maps, each once, and every key
of `connections` is a key of `addresses`. -/
theorem sendAll_dropped {s s₁ : State C H} (hsync : Synced s) (hk : AddsNoKey hs)
    (h : sendAll ops (tickHandler hs s) = .ok s₁) :
    s₁.dropped.Nodup ∧ (∀ i ∈ s₁.dropped, i ∈ s₁.connections ∧ i ∈ s₁.addresses) ∧
      ∀ i ∈ s₁.connections, i ∈ s₁.addresses := by
  have ha := (sendAll_holds ops _).of_ok h
  have hkeys : ∀ i ∈ s₁.connections, i ∈ s₁.addresses := fun i hi => by
    rw [ha.mem, tickHandler_connections] at hi
    rw [ha.addresses, tickHandler_addresses]
    exact hsync.keys i (hk _ _ _ i hi)
  obtain ⟨d, hd, hd'⟩ := ha.dropped_keys
  rw [tickHandler_dropped, hsync.dropped, List.nil_append] at hd'
  refine ⟨hd' ▸ hd.nodup (AList.keys_nodup _), fun i hi => ?_, hkeys⟩
  have hi' : i ∈ s₁.connections := (ha.mem i).2 (AList.mem_keys.2 (hd.subset (hd' ▸ hi)))
  exact ⟨hi', hkeys i hi'⟩

theorem tick_synced (hk : AddsNoKey hs) {s : State C H} (hsync : Synced s) :
    Holds Synced Panic.NotUnwrap (tick ops hs s) := by
  unfold tick
  cases h₁ : sendAll ops (tickHandler hs s) with
  | error e =>
    rcases (sendAll_holds ops _).of_error h₁ with ⟨rfl, -⟩ | ⟨-, j, hj, hna⟩
    · exact fun _ h => Panic.noConfusion h
    · exact absurd (hsync.keys j (hk _ _ _ j (by simpa using hj))) (by simpa using hna)
  | ok s₁ =>
    obtain ⟨hnd, hmem, hkeys⟩ := sendAll_dropped ops hs hsync hk h₁
    refine ((removeAll_holds s₁).mono (fun _ h => h) fun _ h => (h ⟨hnd, hmem⟩).elim).bind
      fun s₂ h₂ => ((nextTick_error _ _).mono (fun _ h => h)
        fun _ h _ he => Panic.noConfusion (h.1.symm.trans he)).bind fun t _ => ⟨fun j hj => ?_, rfl⟩
    rw [HashMap.mem_iff_get, h₂.connections] at hj
    rw [HashMap.mem_iff_get, h₂.addresses]
    split at hj
    · simp at hj
    · simp only [if_neg ‹_›]
      exact HashMap.mem_iff_get.1 (hkeys j (HashMap.mem_iff_get.2 hj))

/-- When the `tick_connections` hook adds no key, every reachable state is synced. -/
theorem Reach.synced (hk : AddsNoKey hs) {s : State C H} (h : Reach ops hs s) : Synced s :=
  let ⟨server, handler, address, _, h⟩ := h
  h.preserves (fun _ _ _ _ hi h => (receivePacket_synced ops hi _ _).of_ok h)
    (fun _ _ hi h => (tick_synced ops hs hk hi).of_ok h) (synced_start hs server handler address)

/-- If the `tick_connections` hook adds no key, then along every run every key of
`connections` is a key of `addresses`, at the start of the removal loop `dropped` holds keys of
both maps, each once, and no `unwrap` of `Server::bind` panics. -/
theorem bind_unwrap_never_panics (hk : AddsNoKey hs) :
    (∀ s, Reach ops hs s → ∀ i ∈ s.connections, i ∈ s.addresses) ∧
    (∀ s s₁, Reach ops hs s → sendAll ops (tickHandler hs s) = .ok s₁ →
      s₁.dropped.Nodup ∧ ∀ i ∈ s₁.dropped, i ∈ s₁.connections ∧ i ∈ s₁.addresses) ∧
    ∀ {ε : Type} (server : Server) (handler : H) (bound : Except ε SocketAddr)
      (batches : List (List (SocketAddr × Packet))) (line : Nat),
      bind ops hs server handler bound batches ≠ .error (.unwrapNone line) := by
  have hreach : ∀ s, Reach ops hs s → Synced s := fun s ⟨server, handler, address, _, h⟩ =>
    h.preserves (fun _ _ _ _ hi h => (receivePacket_synced ops hi _ _).of_ok h)
      (fun _ _ hi h => (tick_synced ops hs hk hi).of_ok h) (synced_start hs server handler address)
  refine ⟨fun s h => (hreach s h).keys, fun s s₁ h h₁ => ?_,
    fun server handler bound batches line h => ?_⟩
  · obtain ⟨hnd, hmem, -⟩ := sendAll_dropped ops hs (hreach s h) hk h₁
    exact ⟨hnd, hmem⟩
  · have := (bind_holds ops hs (Q := Panic.NotUnwrap) (fun _ h => Panic.noConfusion h)
      (fun s a p h => (receivePacket_synced ops (hreach s h) a p).mono (fun _ _ => trivial)
        fun _ h => h.elim)
      (fun s h => (tick_synced ops hs hk (hreach s h)).mono (fun _ _ => trivial) fun _ h => h)
      server handler bound batches).of_error h
    exact this line rfl

theorem noop_addsNoKey : AddsNoKey (HandlerOps.noop C) := fun _ _ _ _ h => h

theorem bind_unwrap_never_panics_noop :
    AddsNoKey (HandlerOps.noop SocketAddr) ∧ ∀ line,
      bind (ConnectionOps.peerOnly true) (HandlerOps.noop SocketAddr) (Server.new ⟨30, 2⟩) ()
        (.ok ⟨[127, 0, 0, 1], 4000⟩ : Except Unit SocketAddr)
        [[(⟨[10, 0, 0, 1], 5000⟩, [7])], []] ≠ .error (.unwrapNone line) :=
  ⟨noop_addsNoKey, fun line => (bind_unwrap_never_panics _ _ noop_addsNoKey).2.2 _ _ _ _ line⟩

end Cobalt.Server
