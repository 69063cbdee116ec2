import Cobalt.Server.Bind
import Cobalt.Proof.Holds

/-!
# The send loop

Specs of the send loop of a tick (lines 116–137), in the `Holds` form:

* `sendGate_holds`: the congestion gate panics only on a zero divider.
* `visit_holds`: one pass over `id` with connection `conn` (`Visited`): the gate decides whether
  `send` is called, with the address stored under the key; the connection is written back and
  its key pushed on `dropped` when it is no longer open. It panics at line 125 only for a key
  without an address.
* `sendAll_holds`: the whole loop (`SentAll`), by induction over the map's entries: keys and
  addresses unchanged; every connection visited once, its gate deciding one call of `send` or
  none (`Sent`); `dropped` grown by exactly the keys whose connection is no longer open, in the
  order of the entries.
-/

namespace Cobalt

/-- `e` is a call of `send` on the connection under `i`. -/
def Event.isSendTo (i : ConnectionID) : Event → Bool
  | .send j _ => j == i
  | _ => false

namespace Server

variable {C H : Type} (ops : ConnectionOps C H)

/-! ## The gate -/

@[simp] theorem sendGate_false (config : Config) (tick : UInt32) :
    sendGate config tick false = .ok true := rfl

theorem sendGate_true {config : Config} (tick : UInt32) (h : config.congestionDivider ≠ 0) :
    sendGate config tick true = .ok (tick % config.congestionDivider == 0) := by
  simp [sendGate, h]

theorem sendGate_holds (config : Config) (tick : UInt32) (c : Bool) :
    Holds (fun _ => True) (fun e => e = .remainderByZero ∧ config.congestionDivider = 0)
      (sendGate config tick c) := by
  unfold sendGate
  split
  · trivial
  · split
    · exact ⟨rfl, ‹_›⟩
    · trivial

/-- A gate that does not panic is the source's `!conn.congested() || tick % divider == 0`. -/
theorem sendGate_eq_ok {config : Config} {tick : UInt32} {c g : Bool}
    (h : sendGate config tick c = .ok g) : g = (!c || tick % config.congestionDivider == 0) := by
  unfold sendGate at h
  split_ifs at h <;> cases h <;> simp_all

/-- What the send loop makes of the connection `conn` under `id`, under `config` at the counter
`tick` with the address map `addresses`, when the gate gives `g`: `conn` itself when the gate is
shut, what `send` returns, given the address stored under `id`, when it is open. -/
def Sent (config : Config) (tick : UInt32) (addresses : HashMap ConnectionID SocketAddr)
    (id : ConnectionID) (conn c : C) : Bool → Prop
  | false => sendGate config tick (ops.congested conn) = .ok false ∧ c = conn
  | true => sendGate config tick (ops.congested conn) = .ok true ∧
      ∃ a srv h, addresses.get id = some a ∧ c = (ops.send conn a srv h).result

section
variable {ops} {config : Config} {tick : UInt32} {addresses : HashMap ConnectionID SocketAddr}
  {id : ConnectionID} {conn c : C} {g : Bool}

theorem Sent.gate (h : Sent ops config tick addresses id conn c g) :
    sendGate config tick (ops.congested conn) = .ok g := by
  cases g <;> exact h.1

theorem Sent.result (h : Sent ops config tick addresses id conn c g) :
    c = conn ∨ ∃ a srv h, c = (ops.send conn a srv h).result := by
  cases g with
  | false => exact .inl h.2
  | true => obtain ⟨-, a, srv, h, -, rfl⟩ := h; exact .inr ⟨a, srv, h, rfl⟩

end

/-! ## One connection -/

/-- What a pass of the send loop over `id` with connection `conn` does; `conn'` is the connection
it writes back. -/
structure Visited (s s' : State C H) (id : ConnectionID) (conn conn' : C) : Prop where
  connections : s'.connections = s.connections.set id conn'
  addresses : s'.addresses = s.addresses
  dropped : s'.dropped = s.dropped ++ if ops.isOpen conn' = false then [id] else []
  tick : s'.tick = s.tick
  config : s'.server.config = s.server.config
  sent : (sendGate s.server.config s.tick (ops.congested conn) = .ok false ∧ conn' = conn ∧
      s'.events = s.events) ∨
    (sendGate s.server.config s.tick (ops.congested conn) = .ok true ∧
      ∃ a, s.addresses.get id = some a ∧ conn' = (ops.send conn a s.server s.handler).result ∧
        s'.events = s.events ++ [.send id a])

theorem visit_holds (s : State C H) (id : ConnectionID) (conn : C) :
    Holds (fun s' => ∃ conn', Visited ops s s' id conn conn')
      (fun e => (e = .remainderByZero ∧ s.server.config.congestionDivider = 0) ∨
        (e = .unwrapNone 125 ∧ id ∉ s.addresses))
      (visit ops s id conn) := by
  unfold visit
  cases hg : sendGate s.server.config s.tick (ops.congested conn) with
  | error e => exact .inl ((sendGate_holds _ _ _).of_error hg)
  | ok g =>
    cases g with
    | false =>
      simp only [ok_bind, Bool.false_eq_true, if_false, pure_eq_ok, Holds.ok_iff]
      cases ho : ops.isOpen conn <;>
        refine ⟨conn, ?_, ?_, ?_, ?_, ?_, .inl ⟨hg, rfl, ?_⟩⟩ <;> simp [ho]
    | true =>
      cases ha : s.addresses.get id with
      | none => exact .inr ⟨rfl, HashMap.get_eq_none.1 ha⟩
      | some a =>
        simp only [ok_bind, if_true, unwrap, pure_eq_ok, Holds.ok_iff]
        cases ho : ops.isOpen (ops.send conn a s.server s.handler).result <;>
          refine ⟨_, ?_, ?_, ?_, ?_, ?_, .inr ⟨hg, a, ha, rfl, ?_⟩⟩ <;> simp [ho]

/-! ## The send loop -/

/-- What the send loop over the entries `l` does, from `s` to `s'`. -/
structure SentAll (s s' : State C H) (l : List (Sigma fun _ : ConnectionID => C)) : Prop where
  mem : ∀ j, j ∈ s'.connections ↔ j ∈ s.connections
  addresses : s'.addresses = s.addresses
  tick : s'.tick = s.tick
  config : s'.server.config = s.server.config
  dropped : s'.dropped =
    s.dropped ++ l.keys.filter fun j => (s'.connections.get j).any fun c => !ops.isOpen c
  events : ∃ Δ, s'.events = s.events ++ Δ ∧
    ∀ e ∈ Δ, ∃ j a, e = .send j a ∧ s.addresses.get j = some a
  visited : ∀ e ∈ l, ∃ c g, s'.connections.get e.1 = some c ∧
    Sent ops s.server.config s.tick s.addresses e.1 e.2 c g ∧
    s'.events.countP (Event.isSendTo e.1) = s.events.countP (Event.isSendTo e.1) + g.toNat
  untouched : ∀ j ∉ l.keys, s'.connections.get j = s.connections.get j ∧
    s'.events.countP (Event.isSendTo j) = s.events.countP (Event.isSendTo j)

theorem SentAll.nil (s : State C H) : SentAll ops s s [] :=
  ⟨fun _ => .rfl, rfl, rfl, rfl, by simp, ⟨[], by simp, by simp⟩, by simp,
    fun _ _ => ⟨rfl, rfl⟩⟩

theorem countP_isSendTo_send {i j : ConnectionID} (a : SocketAddr) (h : j ≠ i) :
    [Event.send j a].countP (Event.isSendTo i) = 0 := by
  simp [Event.isSendTo, h]

theorem SentAll.cons {s s₁ s' : State C H} {id : ConnectionID} {conn conn' : C}
    {l : List (Sigma fun _ : ConnectionID => C)} (hv : Visited ops s s₁ id conn conn')
    (ha : SentAll ops s₁ s' l) (hid : id ∉ l.keys) (hget : s.connections.get id = some conn) :
    SentAll ops s s' (⟨id, conn⟩ :: l) := by
  have hmem : id ∈ s.connections := HashMap.mem_iff_get.2 (by simp [hget])
  have hcount : ∀ j ≠ id, s₁.events.countP (Event.isSendTo j) =
      s.events.countP (Event.isSendTo j) := by
    intro j hj
    rcases hv.sent with ⟨-, -, he⟩ | ⟨-, a, -, -, he⟩
    · rw [he]
    · simp [he, countP_isSendTo_send a (Ne.symm hj)]
  have hgetj : ∀ j ≠ id, s₁.connections.get j = s.connections.get j := fun j hj => by
    simp [hv.connections, HashMap.get_set, hj]
  have hget' : s'.connections.get id = some conn' := by
    rw [(ha.untouched id hid).1, hv.connections, HashMap.get_set]; simp [hmem]
  refine ⟨fun j => (ha.mem j).trans (by simp [hv.connections]), ha.addresses.trans hv.addresses,
    ha.tick.trans hv.tick, ha.config.trans hv.config, ?_, ?_, ?_, ?_⟩
  · rw [ha.dropped, hv.dropped, List.keys_cons, List.filter_cons, hget', List.append_assoc]
    cases ho : ops.isOpen conn' <;> simp [ho]
  · obtain ⟨Δ, hΔ, hall⟩ := ha.events
    rw [hv.addresses] at hall
    rcases hv.sent with ⟨-, -, he⟩ | ⟨-, a, hga, -, he⟩
    · exact ⟨Δ, by rw [hΔ, he], hall⟩
    · refine ⟨.send id a :: Δ, by rw [hΔ, he]; simp, ?_⟩
      rintro e (_ | ⟨_, he'⟩)
      · exact ⟨id, a, rfl, hga⟩
      · exact hall e he'
  · rintro e (_ | ⟨_, he⟩)
    · rw [(ha.untouched id hid).2]
      rcases hv.sent with ⟨hg, rfl, he⟩ | ⟨hg, a, hga, rfl, he⟩
      · exact ⟨_, false, hget', ⟨hg, rfl⟩, by rw [he]; rfl⟩
      · exact ⟨_, true, hget', ⟨hg, a, _, _, hga, rfl⟩, by simp [he, Event.isSendTo]⟩
    · obtain ⟨c, g, hc, hsent, hn⟩ := ha.visited e he
      have hne : e.1 ≠ id := fun h => hid (h ▸ List.mem_keys_of_mem he)
      rw [hv.config, hv.tick, hv.addresses] at hsent
      exact ⟨c, g, hc, hsent, by rw [hn, hcount e.1 hne]⟩
  · intro j hj
    simp only [List.keys_cons, List.mem_cons, not_or] at hj
    rw [(ha.untouched j hj.2).1, (ha.untouched j hj.2).2, hgetj j hj.1, hcount j hj.1]
    exact ⟨rfl, rfl⟩

theorem sendAll_holds_aux : ∀ (l : List (Sigma fun _ : ConnectionID => C)) (s : State C H),
    l.keys.Nodup → (∀ e ∈ l, s.connections.get e.1 = some e.2) →
    Holds (SentAll ops s · l)
      (fun e => (e = .remainderByZero ∧ s.server.config.congestionDivider = 0) ∨
        (e = .unwrapNone 125 ∧ ∃ j ∈ l.keys, j ∉ s.addresses))
      (l.foldlM (fun s e => visit ops s e.1 e.2) s)
  | [], s, _, _ => SentAll.nil ops s
  | ⟨id, conn⟩ :: l, s, hnd, hget => by
    rw [List.keys_cons, List.nodup_cons] at hnd
    rw [List.foldlM_cons]
    refine ((visit_holds ops s id conn).mono (fun _ h => h) fun e he => ?_).bind
      fun s₁ ⟨conn', hv⟩ => ?_
    · rcases he with he | ⟨he, hna⟩
      · exact .inl he
      · exact .inr ⟨he, id, by simp, hna⟩
    · have hget₁ : ∀ e ∈ l, s₁.connections.get e.1 = some e.2 := fun e he => by
        have hne : e.1 ≠ id := fun h => hnd.1 (h ▸ List.mem_keys.2 ⟨e.2, he⟩)
        rw [hv.connections, HashMap.get_set, if_neg fun h => hne h.1]
        exact hget e (.tail _ he)
      refine (sendAll_holds_aux l s₁ hnd.2 hget₁).mono
        (fun s' ha => ha.cons ops hv hnd.1 (hget _ (.head _))) fun e he => ?_
      rcases he with he | ⟨he, j, hj, hna⟩
      · exact .inl (hv.config ▸ he)
      · exact .inr ⟨he, j, by simp [hj], by rwa [hv.addresses] at hna⟩

/-- The send loop visits every connection once; it panics only on a zero divider or at line 125,
for a connection without an address. -/
theorem sendAll_holds (s : State C H) :
    Holds (SentAll ops s · s.connections.entries)
      (fun e => (e = .remainderByZero ∧ s.server.config.congestionDivider = 0) ∨
        (e = .unwrapNone 125 ∧ ∃ j ∈ s.connections, j ∉ s.addresses))
      (sendAll ops s) :=
  sendAll_holds_aux ops _ s s.connections.keys_nodup (fun _ he => AList.mem_lookup_iff.2 he)

/-- The keys the send loop pushes on `dropped` are distinct keys of the map. -/
theorem SentAll.dropped_keys {s s' : State C H} (ha : SentAll ops s s' s.connections.entries) :
    ∃ d, d.Sublist s.connections.keys ∧ s'.dropped = s.dropped ++ d :=
  ⟨_, List.filter_sublist _, ha.dropped⟩

/-- A send loop that does not panic took the gate of every connection of the map, and found an
address for each one whose gate was open. -/
theorem sendAll_gates {s s' : State C H} (h : sendAll ops s = .ok s') {j : ConnectionID} {c : C}
    (hc : s.connections.get j = some c) : ∃ g,
      sendGate s.server.config s.tick (ops.congested c) = .ok g ∧ (g = true → j ∈ s.addresses) := by
  obtain ⟨_, g, -, hsent, -⟩ :=
    ((sendAll_holds ops _).of_ok h).visited ⟨j, c⟩ (AList.mem_lookup_iff.1 hc)
  refine ⟨g, hsent.gate, fun hg => ?_⟩
  subst hg
  obtain ⟨-, a, -, -, hget, -⟩ := hsent
  exact HashMap.mem_iff_get.2 (by rw [hget]; rfl)

end Server

end Cobalt
