import Cobalt.Proof.Reach

/-!
# Addresses follow the latest datagram

The server keeps a connection's peer address twice: in the connection (`peer_addr`) and in
`addresses`, and the two are updated together when a datagram comes from a new address
(lines 96–100). `Routed`: both maps have the same keys, `addresses[i]` is the peer address of
`connections[i]` and the source of the latest datagram that carried `i` (`lastSource`), and every
`send` so far was given that address (`SendsRouted`). It holds at the start and is kept by the
receive pass (`receivePacket_routed`) and the tick (`tick_routed`) when the connection and its
hooks keep peer addresses as `PeerAddrKept` says; so it holds along every run
(`addresses_follow_latest_source`).
-/

namespace Cobalt.Server

variable {C H : Type} (ops : ConnectionOps C H) (hs : HandlerOps C H)

/-! ## The latest source -/

/-- The latest source of `i` after the event `e`, `last` the one before it. -/
def sourceAfter (i : ConnectionID) (last : Option SocketAddr) : Event → Option SocketAddr
  | .recv a p => if ops.idFromPacket p = some i then some a else last
  | _ => last

/-- The source address of the latest datagram in `events` that carried the id `i`. -/
def lastSource (events : List Event) (i : ConnectionID) : Option SocketAddr :=
  events.foldl (sourceAfter ops i) none

theorem lastSource_append (l l' : List Event) (i : ConnectionID) :
    lastSource ops (l ++ l') i = l'.foldl (sourceAfter ops i) (lastSource ops l i) :=
  List.foldl_append ..

@[simp] theorem lastSource_concat_send (l : List Event) (i j : ConnectionID) (a : SocketAddr) :
    lastSource ops (l ++ [.send j a]) i = lastSource ops l i := by
  simp [lastSource_append, sourceAfter]

@[simp] theorem lastSource_concat_tick (l : List Event) (i : ConnectionID) :
    lastSource ops (l ++ [.tick]) i = lastSource ops l i := by
  simp [lastSource_append, sourceAfter]

theorem lastSource_append_sends {Δ : List Event} (hΔ : ∀ e ∈ Δ, ∃ j a, e = .send j a)
    (l : List Event) (i : ConnectionID) : lastSource ops (l ++ Δ) i = lastSource ops l i := by
  induction Δ using List.reverseRecOn with
  | nil => simp
  | append_singleton Δ e ih =>
    obtain ⟨j, a, rfl⟩ := hΔ e (by simp)
    rw [← List.append_assoc, lastSource_concat_send, ih fun e he => hΔ e (by simp [he])]

/-- Every `send` in `events` is given the source of the latest datagram before it that carried
its connection's id. -/
def SendsRouted (events : List Event) : Prop :=
  ∀ n i a, events[n]? = some (.send i a) → lastSource ops (events.take n) i = some a

theorem SendsRouted.nil : SendsRouted ops [] := by simp [SendsRouted]

theorem SendsRouted.concat {l : List Event} {e : Event} (h : SendsRouted ops l)
    (he : ∀ i a, e = .send i a → lastSource ops l i = some a) : SendsRouted ops (l ++ [e]) := by
  intro n i a hn
  rcases Nat.lt_trichotomy n l.length with hlt | rfl | hgt
  · rw [List.getElem?_append_left hlt] at hn
    rw [List.take_append_of_le_length hlt.le]
    exact h n i a hn
  · simp only [List.getElem?_concat_length, Option.some.injEq] at hn
    simpa using he i a hn
  · rw [List.getElem?_eq_none (by simp; omega)] at hn
    cases hn

theorem SendsRouted.append_sends {l Δ : List Event} (h : SendsRouted ops l)
    (hΔ : ∀ e ∈ Δ, ∃ j a, e = .send j a ∧ lastSource ops l j = some a) :
    SendsRouted ops (l ++ Δ) := by
  induction Δ using List.reverseRecOn with
  | nil => simpa using h
  | append_singleton Δ e ih =>
    rw [← List.append_assoc]
    refine (ih fun e he => hΔ e (by simp [he])).concat ops fun i a he => ?_
    obtain ⟨j, b, rfl, hb⟩ := hΔ e (by simp)
    cases he
    rw [lastSource_append_sends ops (fun e he => ?_)]
    · exact hb
    · obtain ⟨j, a, h, -⟩ := hΔ e (by simp [he]); exact ⟨j, a, h⟩

/-! ## The invariant -/

/-- What `Connection` and the hooks are assumed to do with peer addresses: a new connection has
the address it is made with, `peer_addr` reads back the last `set_peer_addr`, and neither
`receive`, `send` (with the hooks they run) nor `tick_connections` changes a peer address or the
set of keys.

The first two are facts of `Connection` itself. The last three are asked of every input where the
claim asks them of the calls a run makes, and that loses no run: a run whose calls keep peer
addresses and keys is the same run of the parameters that agree with it on those calls and, on
every other call, hand back the connection or the map they are given. -/
structure PeerAddrKept : Prop where
  new : ∀ a, ops.peerAddr (ops.new a) = a
  set : ∀ c a, ops.peerAddr (ops.setPeerAddr c a) = a
  receive : ∀ c p srv h, ops.peerAddr (ops.receive c p srv h).result = ops.peerAddr c
  send : ∀ c a srv h, ops.peerAddr (ops.send c a srv h).result = ops.peerAddr c
  tick : ∀ srv h m i,
    ((hs.tickConnections srv h m).result.get i).map ops.peerAddr = (m.get i).map ops.peerAddr

/-- The address map and the connections agree, and follow the latest datagrams. -/
structure Routed (s : State C H) : Prop where
  peer : ∀ i, s.addresses.get i = (s.connections.get i).map ops.peerAddr
  latest : ∀ i a, s.addresses.get i = some a → lastSource ops s.events i = some a
  sends : SendsRouted ops s.events
  dropped : s.dropped = []

theorem routed_start (server : Server) (handler : H) (address : SocketAddr) :
    Routed ops (start hs server handler address) :=
  ⟨by simp [start], by simp [start], by simpa [start] using SendsRouted.nil ops, rfl⟩

section
variable {ops hs} (hp : PeerAddrKept ops hs)
include hp

theorem peerAddr_target (s : State C H) (id : ConnectionID) (addr : SocketAddr) :
    ops.peerAddr (target ops s id addr) = addr := by
  dsimp only [target]
  split
  · exact hp.set _ _
  · rename_i h; exact (not_not.1 h).symm

theorem receivePacket_routed {s s' : State C H} {addr : SocketAddr} {p : Packet}
    (hr : Routed ops s) (h : receivePacket ops s addr p = .ok s') : Routed ops s' := by
  cases hid : ops.idFromPacket p with
  | none =>
    rw [receivePacket_none ops hid, Except.ok.injEq] at h
    subst h
    refine ⟨hr.peer, fun i a ha => ?_, hr.sends.concat ops (by simp), hr.dropped⟩
    simpa [lastSource_append, sourceAfter, hid] using hr.latest i a ha
  | some id =>
    have hd := (receivePacket_holds ops hid).of_ok h
    have hself : s'.addresses.get id = some addr := by
      rw [hd.addresses, if_pos rfl]
      split
      · rename_i hc
        obtain ⟨c, hc'⟩ := Option.isSome_iff_exists.1 (HashMap.mem_iff_get.1 hc.1)
        simpa [hr.peer, hc'] using hc.2.symm
      · rfl
    have hsrc : ∀ j, lastSource ops s'.events j =
        if j = id then some addr else lastSource ops s.events j := fun j => by
      by_cases hj : j = id
      · subst hj; simp [hd.events, lastSource_append, sourceAfter, hid]
      · simp [hd.events, lastSource_append, sourceAfter, hid, hj, Ne.symm hj]
    refine ⟨fun j => ?_, fun j a ha => ?_, ?_, by rw [hd.dropped, hr.dropped]⟩
    · by_cases hj : j = id
      · subst hj; simp [hself, hd.connections, hp.receive, peerAddr_target hp]
      · rw [hd.addresses, hd.connections, if_neg hj, if_neg hj, hr.peer]
    · rw [hsrc]
      by_cases hj : j = id
      · subst hj; rw [hself] at ha; simpa using ha
      · rw [if_neg hj]; rw [hd.addresses, if_neg hj] at ha; exact hr.latest j a ha
    · rw [hd.events, show [Event.recv addr p, .receive id p] = [.recv addr p] ++ [.receive id p]
        from rfl, ← List.append_assoc]
      exact (hr.sends.concat ops (by simp)).concat ops (by simp)

/-- The send loop keeps the peer address stored under every key. -/
theorem SentAll.peer {s s' : State C H} (ha : SentAll ops s s' s.connections.entries)
    (j : ConnectionID) :
    (s'.connections.get j).map ops.peerAddr = (s.connections.get j).map ops.peerAddr := by
  by_cases hj : j ∈ s.connections.entries.keys
  · obtain ⟨c, hc⟩ := List.mem_keys.1 hj
    have hget : s.connections.get j = some c := AList.mem_lookup_iff.2 hc
    obtain ⟨c', g, hc', hsent, -⟩ := ha.visited _ hc
    rw [hget, hc']
    rcases hsent.result with rfl | ⟨a, srv, h, rfl⟩
    · rfl
    · simp [hp.send]
  · rw [(ha.untouched j hj).1]

theorem tick_routed {s s' : State C H} (hr : Routed ops s) (h : tick ops hs s = .ok s') :
    Routed ops s' := by
  obtain ⟨s₁, s₂, t, h₁, h₂, -, rfl⟩ := tick_eq_ok ops hs h
  have ha := (sendAll_holds ops _).of_ok h₁
  have hrm := (removeAll_holds s₁).of_ok h₂
  obtain ⟨Δ, hΔ, hsends⟩ := ha.events
  have hsrc : ∀ j, lastSource ops s₂.events j = lastSource ops s.events j := fun j => by
    rw [hrm.events, hΔ, lastSource_append_sends ops (fun e he => ?_)]
    · simp
    · obtain ⟨j, a, he, -⟩ := hsends e he; exact ⟨j, a, he⟩
  refine ⟨fun j => ?_, fun j a hj => ?_, ?_, rfl⟩
  · simp only [hrm.addresses, hrm.connections, ha.addresses, tickHandler_addresses]
    split
    · rfl
    · rw [ha.peer hp, tickHandler_connections, hp.tick, hr.peer]
  · simp only [hrm.addresses, ha.addresses, tickHandler_addresses] at hj
    split at hj
    · cases hj
    · rw [hsrc]; exact hr.latest j a hj
  · rw [hrm.events, hΔ, tickHandler_events]
    refine (hr.sends.concat ops (by simp)).append_sends ops fun e he => ?_
    obtain ⟨j, a, rfl, hja⟩ := hsends e he
    exact ⟨j, a, rfl, by simpa using hr.latest j a (by simpa using hja)⟩

/-- When the connection and the hooks keep peer addresses, along every run of `Server::bind`
the two maps have the same keys, `addresses[i]` is `connections[i].peer_addr()` and the source of
the latest datagram that carried `i`, and every `send` was given that source. -/
theorem addresses_follow_latest_source {s : State C H} (h : Reach ops hs s) :
    (∀ i, i ∈ s.connections ↔ i ∈ s.addresses) ∧
    (∀ i ∈ s.connections, s.addresses.get i = (s.connections.get i).map ops.peerAddr ∧
      s.addresses.get i = lastSource ops s.events i) ∧
    ∀ n i a, s.events[n]? = some (.send i a) → lastSource ops (s.events.take n) i = some a := by
  obtain ⟨server, handler, address, -, hs₀⟩ := h
  have hr : Routed ops s := hs₀.preserves (fun _ _ _ _ hi h => receivePacket_routed hp hi h)
    (fun _ _ hi h => tick_routed hp hi h) (routed_start ops hs server handler address)
  have hkeys : ∀ i, i ∈ s.connections ↔ i ∈ s.addresses := fun i => by
    simp [HashMap.mem_iff_get, hr.peer]
  refine ⟨hkeys, fun i hi => ⟨hr.peer i, ?_⟩, hr.sends⟩
  obtain ⟨a, ha⟩ := Option.isSome_iff_exists.1 (HashMap.mem_iff_get.1 ((hkeys i).1 hi))
  rw [ha, hr.latest i a ha]

end

theorem peerOnly_peerAddrKept :
    PeerAddrKept (ConnectionOps.peerOnly false) (HandlerOps.noop SocketAddr) :=
  ⟨fun _ => rfl, fun _ _ => rfl, fun _ _ _ _ => rfl, fun _ _ _ _ => rfl, fun _ _ _ _ => rfl⟩

theorem addresses_follow_latest_source_peerOnly :
    PeerAddrKept (ConnectionOps.peerOnly false) (HandlerOps.noop SocketAddr) ∧
    ∃ s : State SocketAddr Unit,
      loop (ConnectionOps.peerOnly false) (HandlerOps.noop SocketAddr)
        (start (HandlerOps.noop SocketAddr) (Server.new ⟨30, 2⟩) () ⟨[127, 0, 0, 1], 4000⟩)
        [[(⟨[10, 0, 0, 1], 5000⟩, [7]), (⟨[10, 0, 0, 1], 5001⟩, [7])]] = .ok s ∧
      s.addresses.get ⟨7⟩ = some ⟨[10, 0, 0, 1], 5001⟩ ∧
      s.events.getLast? = some (.send ⟨7⟩ ⟨[10, 0, 0, 1], 5001⟩) ∧
      s.addresses.get ⟨7⟩ =
        (s.connections.get ⟨7⟩).map (ConnectionOps.peerOnly false).peerAddr ∧
      s.addresses.get ⟨7⟩ = lastSource (ConnectionOps.peerOnly false) s.events ⟨7⟩ ∧
      ∀ n i a, s.events[n]? = some (.send i a) →
        lastSource (ConnectionOps.peerOnly false) (s.events.take n) i = some a :=
  let h : loop (ConnectionOps.peerOnly false) (HandlerOps.noop SocketAddr)
      (start (HandlerOps.noop SocketAddr) (Server.new ⟨30, 2⟩) () ⟨[127, 0, 0, 1], 4000⟩)
      [[(⟨[10, 0, 0, 1], 5000⟩, [7]), (⟨[10, 0, 0, 1], 5001⟩, [7])]] = .ok _ := rfl
  let hc := addresses_follow_latest_source peerOnly_peerAddrKept
    ⟨Server.new ⟨30, 2⟩, (), ⟨[127, 0, 0, 1], 4000⟩, by decide, Steps.loop h⟩
  ⟨peerOnly_peerAddrKept, _, h, by decide, by decide, (hc.2.1 ⟨7⟩ (by decide)).1,
    (hc.2.1 ⟨7⟩ (by decide)).2, hc.2.2⟩

end Cobalt.Server
