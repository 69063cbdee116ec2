import Cobalt.Proof.Unwrap

/-!
# Sends go only to peers that were heard from

`Server::bind` learns addresses only from the datagrams it receives: a key's entry in `addresses`
is written at lines 89 and 99, both times with the source of the datagram being handled, whose id
is that key, and no call of a connection or of the handler can reach the map. `HeardFrom events
i a`: a datagram from `a` carrying the id `i` arrived in `events`. `Sourced`: every stored address
was heard from for its key, and every `send` so far was given an address heard from for its key
before the call (`SendsHeard`). It holds at the start and is kept by a receive pass
(`receivePacket_sourced`) and by a tick (`tick_sourced`), whatever the connections and the handler
do. A tick gives `send` the address stored under the key when it starts (`tick_events`); so along
every run `bind` sends only to peers that contacted the connection, at the address stored for it
(`sends_only_to_heard_peers`).
-/

namespace Cobalt.Server

variable {C H : Type} (ops : ConnectionOps C H) (hs : HandlerOps C H)

/-- A datagram from `a` carrying the connection id `i` arrived in `events`. -/
def HeardFrom (events : List Event) (i : ConnectionID) (a : SocketAddr) : Prop :=
  ∃ p, Event.recv a p ∈ events ∧ ops.idFromPacket p = some i

theorem HeardFrom.append {l : List Event} {i : ConnectionID} {a : SocketAddr}
    (h : HeardFrom ops l i a) (l' : List Event) : HeardFrom ops (l ++ l') i a :=
  let ⟨p, hp, hi⟩ := h
  ⟨p, List.mem_append_left _ hp, hi⟩

/-- Every `send` in `events` is given an address heard from for its key before the call. -/
def SendsHeard (events : List Event) : Prop :=
  ∀ n i a, events[n]? = some (.send i a) → HeardFrom ops (events.take n) i a

/-- Appending events keeps `SendsHeard` when every `send` among them is given an address heard
from before them. -/
theorem SendsHeard.append {l Δ : List Event} (h : SendsHeard ops l)
    (hΔ : ∀ i a, Event.send i a ∈ Δ → HeardFrom ops l i a) : SendsHeard ops (l ++ Δ) := by
  intro n i a hn
  by_cases hlt : n < l.length
  · rw [List.getElem?_append_left hlt] at hn
    rw [List.take_append_of_le_length hlt.le]
    exact h n i a hn
  · rw [List.getElem?_append_right (by omega)] at hn
    rw [List.take_append_eq_append_take, List.take_of_length_le (by omega)]
    exact (hΔ i a (List.getElem?_mem hn)).append ops _

/-- Every address stored in the map, and every address `send` was given, was heard from for its
key. -/
structure Sourced (s : State C H) : Prop where
  addresses : ∀ i a, s.addresses.get i = some a → HeardFrom ops s.events i a
  sends : SendsHeard ops s.events

theorem sourced_start (server : Server) (handler : H) (address : SocketAddr) :
    Sourced ops (start hs server handler address) :=
  ⟨by simp [start], by simp [start, SendsHeard]⟩

theorem receivePacket_sourced {s s' : State C H} {addr : SocketAddr} {p : Packet}
    (hsrc : Sourced ops s) (h : receivePacket ops s addr p = .ok s') : Sourced ops s' := by
  have hev := receivePacket_events ops h
  refine ⟨fun i a ha => ?_, hev ▸ hsrc.sends.append ops fun i a he => ?_⟩
  · rw [hev]
    cases hid : ops.idFromPacket p with
    | none =>
      rw [receivePacket_none ops hid, Except.ok.injEq] at h
      subst h
      exact (hsrc.addresses i a (by simpa using ha)).append ops _
    | some id =>
      rw [((receivePacket_holds ops hid).of_ok h).addresses] at ha
      split_ifs at ha with hi
      · subst hi
        exact (hsrc.addresses _ a ha).append ops _
      · cases ha
        subst hi
        exact ⟨p, by simp, hid⟩
      · exact (hsrc.addresses i a ha).append ops _
  · cases hid : ops.idFromPacket p <;> simp [hid] at he

/-- A tick only takes addresses out of the map, and gives `send` addresses from the map. -/
theorem tick_sourced {s s' : State C H} (hsrc : Sourced ops s) (h : tick ops hs s = .ok s') :
    Sourced ops s' := by
  obtain ⟨Δ, hΔ, hsends⟩ := tick_events ops hs h
  refine ⟨fun i a ha => ?_, hΔ ▸ hsrc.sends.append ops fun i a he => ?_⟩
  · obtain ⟨s₁, s₂, t, h₁, h₂, -, rfl⟩ := tick_eq_ok ops hs h
    have hget : s₂.addresses.get i = some a := ha
    rw [((removeAll_holds s₁).of_ok h₂).addresses, ((sendAll_holds ops _).of_ok h₁).addresses,
      tickHandler_addresses] at hget
    split at hget
    · cases hget
    · exact hΔ ▸ (hsrc.addresses i a hget).append ops _
  · obtain ⟨j, b, he, hb⟩ := hsends _ ((List.mem_cons.1 he).resolve_left Event.noConfusion)
    cases he
    exact hsrc.addresses i a hb

/-- Whatever the connections and the handler do, along every run `Server::bind` stores for a key
only the source of a datagram that carried that key; the tick from any state of the run calls
`send` on a connection with the address stored under its key when the tick starts, so only with
such an address, heard from before the call. When the `tick_connections` hook adds no key, every
connection in the map was made for an id that some datagram carried. -/
theorem sends_only_to_heard_peers {s : State C H} (h : Reach ops hs s) :
    (∀ i a, s.addresses.get i = some a → HeardFrom ops s.events i a) ∧
    (∀ n i a, s.events[n]? = some (.send i a) → HeardFrom ops (s.events.take n) i a) ∧
    (∀ s', tick ops hs s = .ok s' → ∃ Δ, s'.events = s.events ++ .tick :: Δ ∧
      ∀ i a, Event.send i a ∈ Δ → s.addresses.get i = some a) ∧
    (AddsNoKey hs → ∀ i ∈ s.connections, ∃ a, HeardFrom ops s.events i a) := by
  have hsrc : Sourced ops s :=
    let ⟨server, handler, address, _, hrun⟩ := h
    hrun.preserves (fun _ _ _ _ hi h => receivePacket_sourced ops hi h)
      (fun _ _ hi h => tick_sourced ops hs hi h) (sourced_start ops hs server handler address)
  refine ⟨hsrc.addresses, hsrc.sends, fun s' ht => ?_, fun hk i hi => ?_⟩
  · obtain ⟨Δ, hΔ, hsends⟩ := tick_events ops hs ht
    refine ⟨Δ, hΔ, fun i a he => ?_⟩
    obtain ⟨j, b, ⟨⟩, hb⟩ := hsends _ he
    exact hb
  obtain ⟨a, ha⟩ :=
    Option.isSome_iff_exists.1 (HashMap.mem_iff_get.1 ((h.synced ops hs hk).keys i hi))
  exact ⟨a, hsrc.addresses i a ha⟩

theorem sends_only_to_heard_peers_peerOnly :
    ∃ s s' : State SocketAddr Unit,
      Reach (ConnectionOps.peerOnly false) (HandlerOps.noop SocketAddr) s ∧
      s.addresses.get ⟨7⟩ = some ⟨[10, 0, 0, 1], 5001⟩ ∧
      tick (ConnectionOps.peerOnly false) (HandlerOps.noop SocketAddr) s = .ok s' ∧
      (∃ Δ, s'.events = s.events ++ .tick :: Δ ∧
        ∀ i a, Event.send i a ∈ Δ → s.addresses.get i = some a) ∧
      s'.events.getLast? = some (.send ⟨7⟩ ⟨[10, 0, 0, 1], 5001⟩) :=
  let hr : Reach (ConnectionOps.peerOnly false) (HandlerOps.noop SocketAddr) _ :=
    ⟨Server.new ⟨30, 2⟩, (), ⟨[127, 0, 0, 1], 4000⟩, by decide,
      @Steps.receive _ _ _ _ _ _ _ ⟨[10, 0, 0, 1], 5001⟩ [7]
        (@Steps.receive _ _ _ _ _ _ _ ⟨[10, 0, 0, 1], 5000⟩ [7] .refl rfl) rfl⟩
  ⟨_, _, hr, by decide, rfl, (sends_only_to_heard_peers _ _ hr).2.2.1 _ rfl, by decide⟩

end Cobalt.Server
