import Cobalt.Proof.Congestion
import Cobalt.Proof.Demux
import Cobalt.Proof.Unwrap

/-!
# The send rate of a connection

Each tick offers every connection in the map one call of `send`; the gate of lines 120–121 lets
it through unless the connection is congested and the counter is not a multiple of the congestion
divider. `PresentRun i s flags s'`: the loop goes from `s` to `s'`, with the connection under `i`
in the map at the check of each tick, congested as `flags` says. A tick that finds it calls `send`
on it once or not at all, as the gate says (`tick_sends_present`); along the whole run the calls
are counted by `gateTicks`, the counter of iteration `k` being `k % send_rate` (`Counted`),
so `send` is called once an iteration while the connection is not congested
(`sends_follow_gate`). A connection congested throughout one cycle of the counter, `send_rate`
iterations wherever they start, is sent to `⌈send_rate / congestion_divider⌉` times
(`congested_sends_per_cycle`).

A key out of the map gets no call of `send`. When the `tick_connections` hook adds no key it stays
out until a datagram carrying it arrives: a tick leaves it out (`tick_absent`), and so does a
datagram for another id. Since any state, either such a datagram has arrived or the key is still
out and silent (`SilentSince`), so a connection removed at a tick is not sent to again before a
datagram speaks for its id (`absent_until_heard`).
-/

namespace Cobalt.Server

variable {C H : Type} (ops : ConnectionOps C H) (hs : HandlerOps C H)

/-- The number of open gates among iterations `k, k + 1, …` for a connection congested at each
as `flags` says. -/
def gateTicks (config : Config) (k : Nat) : List Bool → Nat
  | [] => 0
  | c :: cs =>
    (if c = false ∨ k % config.sendRate.toNat % config.congestionDivider.toNat = 0 then 1
      else 0) + gateTicks config (k + 1) cs

theorem gateTicks_of_uncongested (config : Config) :
    ∀ (flags : List Bool) (k : Nat), (∀ c ∈ flags, c = false) →
      gateTicks config k flags = flags.length
  | [], _, _ => rfl
  | c :: flags, k, h => by
    rw [gateTicks, if_pos (.inl (h c (.head _))),
      gateTicks_of_uncongested config flags (k + 1) fun c hc => h c (.tail _ hc),
      List.length_cons, Nat.add_comm]

/-- An open gate counts one: the connection is not congested, or the counter is a multiple of the
divider. -/
theorem sendGate_toNat {config : Config} {t : UInt32} {b g : Bool}
    (h : sendGate config t b = .ok g) :
    g.toNat = if b = false ∨ t.toNat % config.congestionDivider.toNat = 0 then 1 else 0 := by
  rw [sendGate_eq_ok h]
  by_cases h0 : t % config.congestionDivider = 0 <;> cases b <;>
    simp [h0, (mod_eq_zero_iff_toNat _ _).symm]

/-- A tick that finds the connection under `i` in the map calls `send` on it once when it is not
congested or the counter is a multiple of the divider, and not at all otherwise. -/
theorem tick_sends_present {s s' : State C H} {i : ConnectionID} {c : C}
    (hc : (tickHandler hs s).connections.get i = some c) (h : tick ops hs s = .ok s') :
    s'.events.countP (Event.isSendTo i) = s.events.countP (Event.isSendTo i) +
      if ops.congested c = false ∨
        s.tick.toNat % s.server.config.congestionDivider.toNat = 0 then 1 else 0 := by
  obtain ⟨s₁, s₂, t, h₁, h₂, -, rfl⟩ := tick_eq_ok ops hs h
  obtain ⟨_, g, -, hsent, hn⟩ :=
    ((sendAll_holds ops _).of_ok h₁).visited ⟨i, c⟩ (AList.mem_lookup_iff.1 hc)
  have hg := hsent.gate
  simp only [tickHandler_config, tickHandler_tick] at hg
  rw [((removeAll_holds s₁).of_ok h₂).events, hn, ← sendGate_toNat hg]
  simp [Event.isSendTo]

/-- `PresentRun i s flags s'`: the loop goes from `s` to `s'`, and at the check of each of its
ticks the connection stored under `i` is in the map, congested as `flags` says, in order. The run
is taken first step first, as `gateTicks` reads the flags. -/
inductive PresentRun (i : ConnectionID) : State C H → List Bool → State C H → Prop
  | refl {s : State C H} : PresentRun i s [] s
  | receive {s s₁ s' : State C H} {flags : List Bool} {addr : SocketAddr} {packet : Packet} :
      receivePacket ops s addr packet = .ok s₁ → PresentRun i s₁ flags s' →
      PresentRun i s flags s'
  | tick {s s₁ s' : State C H} {flags : List Bool} {c : C} :
      (tickHandler hs s).connections.get i = some c → tick ops hs s = .ok s₁ →
      PresentRun i s₁ flags s' → PresentRun i s (ops.congested c :: flags) s'

/-- From a counted state at iteration `k`, `send` is called on the connection once for every open
gate among the iterations of the run. -/
theorem presentRun_sends {cfg : Config} (hsr : cfg.sendRate ≠ 0) {i : ConnectionID}
    {s s' : State C H} {flags : List Bool} (h : PresentRun ops hs i s flags s')
    (hc : Counted cfg s) :
    s'.events.countP (Event.isSendTo i) =
      s.events.countP (Event.isSendTo i) + gateTicks cfg (s.events.count .tick) flags := by
  induction h with
  | refl => rfl
  | receive hr _ ih =>
    obtain ⟨-, -, hcount, hsend⟩ := receivePacket_counts ops hr
    rw [ih (receivePacket_counted ops hc hr), hsend, hcount]
  | tick hget ht _ ih =>
    rw [ih (tick_counted ops hs hsr hc ht), tick_sends_present ops hs hget ht,
      (tick_counts ops hs ht).2.2, gateTicks, Nat.add_assoc, hc.tick, hc.config]

/-- The send rate: along every run in which the connection under `i` is in the map at each tick,
`send` is called on it once for every iteration `k` at which it is not congested or
`(k % send_rate) % congestion_divider = 0`, and at no other time; so once an iteration while it is
not congested. -/
theorem sends_follow_gate {s s' : State C H} {i : ConnectionID} {flags : List Bool}
    (hr : Reach ops hs s) (h : PresentRun ops hs i s flags s') :
    s'.events.countP (Event.isSendTo i) = s.events.countP (Event.isSendTo i) +
      gateTicks s.server.config (s.events.count .tick) flags ∧
    ((∀ c ∈ flags, c = false) →
      s'.events.countP (Event.isSendTo i) = s.events.countP (Event.isSendTo i) + flags.length) := by
  obtain ⟨hsr, hc⟩ := hr.counted
  have hsend := presentRun_sends ops hs hsr h hc
  exact ⟨hsend, fun hf => by rw [hsend, gateTicks_of_uncongested _ _ _ hf]⟩

theorem sends_follow_gate_peerOnly :
    ∃ s' : State SocketAddr Unit,
      Reach (ConnectionOps.peerOnly false) (HandlerOps.noop SocketAddr)
        (start (HandlerOps.noop SocketAddr) (Server.new ⟨30, 2⟩) () ⟨[127, 0, 0, 1], 4000⟩) ∧
      PresentRun (ConnectionOps.peerOnly false) (HandlerOps.noop SocketAddr) ⟨7⟩
        (start (HandlerOps.noop SocketAddr) (Server.new ⟨30, 2⟩) () ⟨[127, 0, 0, 1], 4000⟩)
        [false, false] s' ∧
      s'.events.countP (Event.isSendTo ⟨7⟩) = 2 :=
  let hr : Reach (ConnectionOps.peerOnly false) (HandlerOps.noop SocketAddr)
      (start (HandlerOps.noop SocketAddr) (Server.new ⟨30, 2⟩) () ⟨[127, 0, 0, 1], 4000⟩) :=
    ⟨Server.new ⟨30, 2⟩, (), ⟨[127, 0, 0, 1], 4000⟩, by decide, .refl⟩
  let hp : PresentRun (ConnectionOps.peerOnly false) (HandlerOps.noop SocketAddr) ⟨7⟩
      (start (HandlerOps.noop SocketAddr) (Server.new ⟨30, 2⟩) () ⟨[127, 0, 0, 1], 4000⟩)
      [false, false] _ :=
    @PresentRun.receive _ _ _ _ _ _ _ _ _ ⟨[10, 0, 0, 1], 5000⟩ [7] rfl
      (.tick rfl rfl (.tick rfl rfl .refl))
  ⟨_, hr, hp, (sends_follow_gate _ _ hr hp).2 (by decide)⟩

/-- Per cycle of the counter: over any `send_rate` consecutive iterations, wherever they fall
against its reset, a connection congested at every check is sent to exactly
`⌈send_rate / congestion_divider⌉` times. -/
theorem congested_sends_per_cycle {s s' : State C H} {i : ConnectionID} (hr : Reach ops hs s)
    (hN : s.server.config.congestionDivider ≠ 0)
    (h : CongestedRun ops hs i s s.server.config.sendRate.toNat s') :
    s'.events.countP (Event.isSendTo i) = s.events.countP (Event.isSendTo i) +
      (s.server.config.sendRate.toNat + s.server.config.congestionDivider.toNat - 1) /
        s.server.config.congestionDivider.toNat := by
  obtain ⟨hsr, hc⟩ := hr.counted
  rw [(congestedRun_sends ops hs hsr hN hc h).2.2, openTicks_cycle, openTicks_zero_cycle hN]

theorem congested_sends_per_cycle_peerOnly :
    ∃ s' : State SocketAddr Unit,
      CongestedRun (ConnectionOps.peerOnly true) (HandlerOps.noop SocketAddr) ⟨7⟩
        (start (HandlerOps.noop SocketAddr) (Server.new ⟨3, 2⟩) () ⟨[127, 0, 0, 1], 4000⟩) 3 s' ∧
      s'.events.countP (Event.isSendTo ⟨7⟩) = 2 :=
  let hr : Reach (ConnectionOps.peerOnly true) (HandlerOps.noop SocketAddr)
      (start (HandlerOps.noop SocketAddr) (Server.new ⟨3, 2⟩) () ⟨[127, 0, 0, 1], 4000⟩) :=
    ⟨Server.new ⟨3, 2⟩, (), ⟨[127, 0, 0, 1], 4000⟩, by decide, .refl⟩
  let h : CongestedRun (ConnectionOps.peerOnly true) (HandlerOps.noop SocketAddr) ⟨7⟩
      (start (HandlerOps.noop SocketAddr) (Server.new ⟨3, 2⟩) () ⟨[127, 0, 0, 1], 4000⟩) 3 _ :=
    .tick (.tick (.tick (@CongestedRun.receive _ _ _ _ _ _ _ _ _ ⟨[10, 0, 0, 1], 5000⟩ [7]
      .refl rfl) rfl rfl rfl) rfl rfl rfl) rfl rfl rfl
  ⟨_, h, congested_sends_per_cycle _ _ hr (by decide) h⟩

/-! ## Keys out of the map -/

/-- A key that the `tick_connections` hook leaves out of the map gets no call of `send` at the tick
and is out of the map after it. -/
theorem tick_absent {s s' : State C H} {j : ConnectionID}
    (hj : j ∉ (tickHandler hs s).connections) (h : tick ops hs s = .ok s') :
    j ∉ s'.connections ∧
      s'.events.countP (Event.isSendTo j) = s.events.countP (Event.isSendTo j) := by
  obtain ⟨s₁, s₂, t, h₁, h₂, -, rfl⟩ := tick_eq_ok ops hs h
  have hu := ((sendAll_holds ops _).of_ok h₁).untouched j fun h => hj (AList.mem_keys.1 h)
  have hr := (removeAll_holds s₁).of_ok h₂
  have hget : s₂.connections.get j = none := by
    rw [hr.connections, hu.1]
    split_ifs
    · rfl
    · exact HashMap.get_eq_none.2 hj
  exact ⟨HashMap.get_eq_none.1 hget, by simpa [hr.events] using hu.2⟩

/-- A datagram that does not carry `i` leaves the entry of `i` in `connections` as it was. -/
theorem receivePacket_get_other {s s' : State C H} {addr : SocketAddr} {p : Packet}
    {i : ConnectionID} (hp : ops.idFromPacket p ≠ some i)
    (h : receivePacket ops s addr p = .ok s') : s'.connections.get i = s.connections.get i := by
  cases hid : ops.idFromPacket p with
  | none =>
    rw [receivePacket_none ops hid, Except.ok.injEq] at h
    subst h
    rfl
  | some id =>
    rw [((receivePacket_holds ops hid).of_ok h).connections,
      if_neg fun he => hp (by rw [hid, he])]

/-- Since `s₀`, either a datagram carrying `i` has arrived, or `i` is still out of the map and has
had no call of `send`. -/
def SilentSince (i : ConnectionID) (s₀ s : State C H) : Prop :=
  ∃ Δ, s.events = s₀.events ++ Δ ∧ (i ∈ (arrivals ops Δ).map Prod.fst ∨
    i ∉ s.connections ∧
      s.events.countP (Event.isSendTo i) = s₀.events.countP (Event.isSendTo i))

theorem receivePacket_silentSince {i : ConnectionID} {s₀ s s' : State C H} {addr : SocketAddr}
    {p : Packet} (hsil : SilentSince ops i s₀ s) (h : receivePacket ops s addr p = .ok s') :
    SilentSince ops i s₀ s' := by
  obtain ⟨Δ, hΔ, hor⟩ := hsil
  refine ⟨_, by rw [receivePacket_events ops h, hΔ, List.append_assoc], ?_⟩
  rw [arrivals, List.filterMap_append, List.map_append, List.mem_append]
  by_cases hp : ops.idFromPacket p = some i
  · exact .inl (.inr (List.mem_map_of_mem Prod.fst
      (List.mem_filterMap.2 ⟨_, .head _, by rw [arrival, hp]; rfl⟩)))
  · refine hor.imp .inl fun ⟨hi, hn⟩ => ⟨?_, ?_⟩
    · rw [← HashMap.get_eq_none, receivePacket_get_other ops hp h]
      exact HashMap.get_eq_none.2 hi
    · rw [(receivePacket_counts ops h).2.2.2, hn]

theorem tick_silentSince (hk : AddsNoKey hs) {i : ConnectionID} {s₀ s s' : State C H}
    (hsil : SilentSince ops i s₀ s) (h : tick ops hs s = .ok s') : SilentSince ops i s₀ s' := by
  obtain ⟨Δ, hΔ, hor⟩ := hsil
  obtain ⟨Δ', hΔ', hf⟩ := tick_adds_sends ops hs h
  refine ⟨Δ ++ Δ', by rw [hΔ', hΔ, List.append_assoc], ?_⟩
  rw [arrivals, List.filterMap_append, hf _ rfl fun _ _ => rfl, List.append_nil]
  refine hor.imp id fun ⟨hi, hn⟩ => ?_
  have := tick_absent ops hs (fun hj => hi (hk _ _ _ _ hj)) h
  exact ⟨this.1, this.2.trans hn⟩

/-- When the `tick_connections` hook adds no key, a key out of the map stays out of it, and gets
no call of `send`, over every stretch of a run in which no datagram carrying it arrives: a
connection removed at a tick is not sent to again before a datagram speaks for its id. -/
theorem absent_until_heard (hk : AddsNoKey hs) {s s' : State C H} {i : ConnectionID}
    (h : Steps ops hs s s') (hi : i ∉ s.connections)
    (hq : i ∉ (arrivals ops (s'.events.drop s.events.length)).map Prod.fst) :
    i ∉ s'.connections ∧
      s'.events.countP (Event.isSendTo i) = s.events.countP (Event.isSendTo i) := by
  have h₀ : SilentSince ops i s s := ⟨[], (List.append_nil _).symm, .inr ⟨hi, rfl⟩⟩
  obtain ⟨Δ, hΔ, hor⟩ := h.preserves (fun _ _ _ _ hsil h => receivePacket_silentSince ops hsil h)
    (fun _ _ hsil h => tick_silentSince ops hs hk hsil h) h₀
  rw [hΔ, List.drop_left] at hq
  exact hor.resolve_left hq

theorem absent_until_heard_oneShot :
    ∃ s s' : State (SocketAddr × Bool) Unit,
      loop ConnectionOps.oneShot (HandlerOps.noop _)
        (start (HandlerOps.noop _) (Server.new ⟨30, 2⟩) () ⟨[127, 0, 0, 1], 4000⟩)
        [[(⟨[10, 0, 0, 1], 5000⟩, [7])]] = .ok s ∧
      s.events.countP (Event.isSendTo ⟨7⟩) = 1 ∧ ⟨7⟩ ∉ s.connections ∧
      loop ConnectionOps.oneShot (HandlerOps.noop _) s [[(⟨[10, 0, 0, 2], 6000⟩, [8])]] = .ok s' ∧
      s'.events.countP (Event.isSendTo ⟨8⟩) = 1 ∧ ⟨7⟩ ∉ s'.connections ∧
      s'.events.countP (Event.isSendTo ⟨7⟩) = s.events.countP (Event.isSendTo ⟨7⟩) :=
  ⟨_, _, rfl, by decide, by decide, rfl, by decide,
    absent_until_heard ConnectionOps.oneShot _ noop_addsNoKey
      (@Steps.loop _ _ _ _ _ _ [[(⟨[10, 0, 0, 2], 6000⟩, [8])]] rfl) (by decide) (by decide)⟩

end Cobalt.Server
