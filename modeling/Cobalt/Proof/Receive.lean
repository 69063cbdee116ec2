import Cobalt.Server.Bind
import Cobalt.Proof.Holds

/-!
# The receive loop

One lemma for each outcome of `receivePacket`: a datagram without a connection id only leaves
its arrival in `events` (`receivePacket_none`); a datagram for `id` is handed to `target` (the
stored connection, or a new one when `id` has none, its peer address moved to the datagram's
source), whose result is stored back under `id`, with the address map following the source
(`receivePacket_holds`, `Received`). The only panic is the `unwrap` at line 98, when `id` has a
connection but no address. Either way the pass records the arrival and the call of `receive`
(`receivePacket_events`).
-/

namespace Cobalt.Server

variable {C H : Type} (ops : ConnectionOps C H)

theorem receivePacket_none {s : State C H} {addr : SocketAddr} {p : Packet}
    (h : ops.idFromPacket p = none) :
    receivePacket ops s addr p = .ok (s.emit (.recv addr p)) := by
  simp [receivePacket, h]

/-- The connection a datagram from `addr` for `id` is handed to: the one stored under `id`, or a
new one for `addr` when there is none, its peer address moved to `addr` if it differs. -/
def target (s : State C H) (id : ConnectionID) (addr : SocketAddr) : C :=
  let c := (s.connections.get id).getD (ops.new addr)
  if addr ≠ ops.peerAddr c then ops.setPeerAddr c addr else c

/-- What a pass of the receive loop for a datagram `p` from `addr` with id `id` does. -/
structure Received (s s' : State C H) (addr : SocketAddr) (p : Packet) (id : ConnectionID) :
    Prop where
  connections : ∀ j, s'.connections.get j =
    if j = id then some (ops.receive (target ops s id addr) p s.server s.handler).result
    else s.connections.get j
  addresses : ∀ j, s'.addresses.get j =
    if j = id then
      (if id ∈ s.connections ∧ addr = ops.peerAddr ((s.connections.get id).getD (ops.new addr))
        then s.addresses.get id else some addr)
    else s.addresses.get j
  events : s'.events = s.events ++ [.recv addr p, .receive id p]
  tick : s'.tick = s.tick
  dropped : s'.dropped = s.dropped
  config : s'.server.config = s.server.config

/-- The receive pass on a valid datagram: it does what `Received` says, or panics at line 98,
when the key has a connection but no address. -/
theorem receivePacket_holds {s : State C H} {addr : SocketAddr} {p : Packet} {id : ConnectionID}
    (h : ops.idFromPacket p = some id) :
    Holds (Received ops s · addr p id)
      (fun e => e = .unwrapNone 98 ∧ id ∈ s.connections ∧ id ∉ s.addresses)
      (receivePacket ops s addr p) := by
  simp only [receivePacket, h]
  by_cases hmem : id ∈ s.connections
  · obtain ⟨c, hc⟩ : ∃ c, s.connections.get id = some c :=
      Option.isSome_iff_exists.1 (HashMap.mem_iff_get.1 hmem)
    simp only [State.emit_connections, HashMap.containsKey_iff, hmem, if_true, hc, unwrap, ok_bind]
    by_cases hpeer : addr = ops.peerAddr c
    · simp only [hpeer, ne_eq, not_true_eq_false, if_false, pure_eq_ok, ok_bind, Holds.ok_iff]
      refine ⟨fun j => ?_, fun j => ?_, by simp, rfl, rfl, by simp⟩
      · simp [HashMap.get_set, target, hc, hmem]
      · by_cases hj : j = id <;> simp [hj, hmem, hc]
    · cases ha : s.addresses.get id with
      | none =>
        simp [hpeer, ha, HashMap.get_eq_none.1 ha, hmem]
      | some a =>
        simp only [hpeer, ne_eq, not_false_eq_true, if_true, State.emit_addresses,
          HashMap.remove_fst, ha, pure_eq_ok, ok_bind, Holds.ok_iff]
        refine ⟨fun j => ?_, fun j => ?_, by simp, rfl, rfl, by simp⟩
        · simp [HashMap.get_set, target, hc, hmem, hpeer]
        · by_cases hj : j = id <;>
            simp [hj, HashMap.get_insert, HashMap.get_remove, hmem, hc, hpeer]
  · simp only [State.emit_connections, HashMap.containsKey_iff, hmem, if_false,
      HashMap.get_insert, if_true, unwrap, ok_bind]
    have ht : target ops s id addr =
        if addr ≠ ops.peerAddr (ops.new addr) then ops.setPeerAddr (ops.new addr) addr
        else ops.new addr := by
      simp [target, HashMap.get_eq_none.2 hmem]
    by_cases hpeer : addr = ops.peerAddr (ops.new addr)
    · simp only [← hpeer, ne_eq, not_true_eq_false, if_false, pure_eq_ok, ok_bind, Holds.ok_iff]
      refine ⟨fun j => ?_, fun j => ?_, by simp, rfl, rfl, by simp⟩
      · by_cases hj : j = id <;> simp [hj, HashMap.get_set, HashMap.get_insert, ht, ← hpeer]
      · by_cases hj : j = id <;> simp [hj, HashMap.get_insert, hmem]
    · simp only [hpeer, ne_eq, not_false_eq_true, if_true, HashMap.remove_fst, HashMap.get_insert,
        pure_eq_ok, ok_bind, Holds.ok_iff]
      refine ⟨fun j => ?_, fun j => ?_, by simp, rfl, rfl, by simp⟩
      · by_cases hj : j = id <;> simp [hj, HashMap.get_set, HashMap.get_insert, ht, hpeer]
      · by_cases hj : j = id <;> simp [hj, HashMap.get_insert, HashMap.get_remove, hmem]

/-- A receive pass records the datagram's arrival and, when it carries an id, the call of
`receive`. -/
theorem receivePacket_events {s s' : State C H} {addr : SocketAddr} {p : Packet}
    (h : receivePacket ops s addr p = .ok s') :
    s'.events = s.events ++ .recv addr p :: ((ops.idFromPacket p).map (.receive · p)).toList := by
  cases hid : ops.idFromPacket p with
  | none => rw [receivePacket_none ops hid, Except.ok.injEq] at h; subst h; rfl
  | some id => rw [((receivePacket_holds ops hid).of_ok h).events]; rfl

end Cobalt.Server
