import Cobalt.Proof.Reach
import Mathlib.Data.Nat.ModEq

/-!
# The tick counter and the congestion gate

`tick` counts the loop's iterations and goes back to `0` at the send rate (lines 149–153); a
congested connection is sent to only when `tick % congestion_divider == 0` (line 121).

* `Counted`: under a fixed configuration, the counter is the number of iterations done (the
  `tick` events) modulo the send rate. It holds at the start and is kept by both steps
  (`receivePacket_counted`, `tick_counted`); below the send rate the increment cannot overflow
  (`tick_no_overflow`).
* `CongestedRun i s n s'`: `n` iterations from `s` to `s'`, the connection under `i` congested
  at each of their checks. Over such a run `send` is called on it once for every iteration `k`
  with `(k % send_rate) % N = 0` (`congestedRun_sends`, `openTicks`).
* `openTicks`: every `N` consecutive iterations hold at least one such `k`
  (`openTicks_pos`), exactly one when `N` divides the send rate (`openTicks_eq_one`), and two
  when they straddle the counter's reset with a send rate of `3` and `N = 2`
  (`congested_window_sends_twice`). Every `send_rate` consecutive iterations hold
  `⌈send_rate / N⌉` of them, wherever they start (`openTicks_cycle`, `openTicks_zero_cycle`).
-/

namespace Cobalt.Server

variable {C H : Type} (ops : ConnectionOps C H) (hs : HandlerOps C H)

/-! ## The gate over a window of iterations -/

/-- The iterations `k, …, k + n - 1` at which the gate is open for a congested connection. -/
def openTicks (config : Config) (k n : Nat) : Nat :=
  (List.range n).countP fun j =>
    (k + j) % config.sendRate.toNat % config.congestionDivider.toNat = 0

theorem openTicks_succ (config : Config) (k n : Nat) :
    openTicks config k (n + 1) = openTicks config k n +
      if (k + n) % config.sendRate.toNat % config.congestionDivider.toNat = 0 then 1 else 0 := by
  simp [openTicks, List.range_succ, List.countP_append, List.countP_cons]

theorem exists_add_mod_eq_zero (t : Nat) {N : Nat} (hN : 0 < N) : ∃ j < N, (t + j) % N = 0 := by
  by_cases h : t % N = 0
  · exact ⟨0, hN, by simpa using h⟩
  · have := Nat.mod_lt t hN
    refine ⟨N - t % N, by omega, ?_⟩
    rw [Nat.add_mod, Nat.mod_eq_of_lt (by omega : N - t % N < N), Nat.add_sub_cancel' this.le,
      Nat.mod_self]

theorem add_mod_eq_zero_unique {N k j j' : Nat} (hj : j < N) (hj' : j' < N)
    (h : (k + j) % N = 0) (h' : (k + j') % N = 0) : j = j' := by
  have : j % N = j' % N := Nat.ModEq.add_left_cancel' k (h.trans h'.symm)
  rwa [Nat.mod_eq_of_lt hj, Nat.mod_eq_of_lt hj'] at this

/-- Among `N` consecutive iterations one opens the gate: the one where the counter is back at
`0`, or, when there is none, a multiple of `N` below the send rate. -/
theorem window_has_open {sr N : Nat} (hsr : 0 < sr) (hN : 0 < N) (k : Nat) :
    ∃ j < N, (k + j) % sr % N = 0 := by
  have hk := Nat.mod_add_div k sr
  have ht := Nat.mod_lt k hsr
  by_cases hw : sr - k % sr < N
  · refine ⟨sr - k % sr, hw, ?_⟩
    have : k + (sr - k % sr) = sr * (k / sr + 1) := by
      rw [Nat.mul_succ]; generalize sr * (k / sr) = m at hk; omega
    rw [this, Nat.mul_mod_right, Nat.zero_mod]
  · obtain ⟨j, hj, hj0⟩ := exists_add_mod_eq_zero (k % sr) hN
    have hlt : k % sr + j < sr := by omega
    have hmod : (k + j) % sr = k % sr + j := by
      rw [Nat.add_mod, Nat.mod_eq_of_lt (show j < sr by omega), Nat.mod_eq_of_lt hlt]
    exact ⟨j, hj, by rw [hmod, hj0]⟩

theorem toNat_pos {n : UInt32} (h : n ≠ 0) : 0 < n.toNat :=
  Nat.pos_of_ne_zero fun h' => h (UInt32.toNat.inj (by simpa using h'))

theorem openTicks_pos {config : Config} (hsr : config.sendRate ≠ 0)
    (hN : config.congestionDivider ≠ 0) (k : Nat) :
    0 < openTicks config k config.congestionDivider.toNat := by
  obtain ⟨j, hj, hj0⟩ := window_has_open (toNat_pos hsr) (toNat_pos hN) k
  exact List.countP_pos_iff.2 ⟨j, List.mem_range.2 hj, by simpa using hj0⟩

theorem openTicks_eq_one {config : Config} (hN : config.congestionDivider ≠ 0)
    (hdvd : config.congestionDivider.toNat ∣ config.sendRate.toNat) (k : Nat) :
    openTicks config k config.congestionDivider.toNat = 1 := by
  obtain ⟨j, hj, hj0⟩ := exists_add_mod_eq_zero k (toNat_pos hN)
  unfold openTicks
  simp only [Nat.mod_mod_of_dvd _ hdvd]
  rw [List.countP_congr (q := fun x => x == j) fun x hx => by
      simpa using ⟨fun h => add_mod_eq_zero_unique (List.mem_range.1 hx) hj h hj0,
        fun h => h ▸ hj0⟩, ← List.count]
  exact List.count_eq_one_of_mem (List.nodup_range _) (List.mem_range.2 hj)

/-- The gate of the first of `n + 1` iterations, then those of the `n` after it. -/
theorem openTicks_succ_left (config : Config) (k n : Nat) :
    openTicks config k (n + 1) =
      (if k % config.sendRate.toNat % config.congestionDivider.toNat = 0 then 1 else 0) +
        openTicks config (k + 1) n := by
  simp only [openTicks, List.range_succ_eq_map, List.countP_cons, List.countP_map]
  simp [Function.comp_def, Nat.add_assoc, Nat.add_comm 1, Nat.add_comm (List.countP _ _)]

/-- A window of `send_rate` iterations holds every value of the counter once, so its count does
not depend on where it starts. -/
theorem openTicks_cycle (config : Config) :
    ∀ k, openTicks config k config.sendRate.toNat = openTicks config 0 config.sendRate.toNat
  | 0 => rfl
  | k + 1 => by
    have h₁ := openTicks_succ config k config.sendRate.toNat
    have h₂ := openTicks_succ_left config k config.sendRate.toNat
    rw [Nat.add_mod_right] at h₁
    rw [← openTicks_cycle config k]
    omega

theorem countP_range_mod_eq_zero {N : Nat} (hN : 0 < N) :
    ∀ n, (List.range n).countP (fun j => j % N = 0) = (n + N - 1) / N
  | 0 => by simp [Nat.div_eq_of_lt (by omega : N - 1 < N)]
  | n + 1 => by
    rw [List.range_succ, List.countP_append, countP_range_mod_eq_zero hN n,
      show n + 1 + N - 1 = n + N - 1 + 1 by omega, Nat.succ_div,
      show n + N - 1 + 1 = n + N by omega]
    by_cases h : n % N = 0 <;> simp [Nat.dvd_iff_mod_eq_zero, h]

theorem openTicks_zero_cycle {config : Config} (hN : config.congestionDivider ≠ 0) :
    openTicks config 0 config.sendRate.toNat =
      (config.sendRate.toNat + config.congestionDivider.toNat - 1) /
        config.congestionDivider.toNat := by
  rw [openTicks, ← countP_range_mod_eq_zero (toNat_pos hN)]
  exact List.countP_congr fun j hj => by rw [Nat.zero_add, Nat.mod_eq_of_lt (List.mem_range.1 hj)]

/-! ## The counter along a run -/

theorem receivePacket_counts {s s' : State C H} {addr : SocketAddr} {p : Packet}
    (h : receivePacket ops s addr p = .ok s') :
    s'.server.config = s.server.config ∧ s'.tick = s.tick ∧
      s'.events.count .tick = s.events.count .tick ∧
      ∀ i, s'.events.countP (Event.isSendTo i) = s.events.countP (Event.isSendTo i) := by
  cases hid : ops.idFromPacket p with
  | none =>
    rw [receivePacket_none ops hid, Except.ok.injEq] at h
    subst h
    simp [Event.isSendTo]
  | some id =>
    have hd := (receivePacket_holds ops hid).of_ok h
    simp [hd.config, hd.tick, hd.events, Event.isSendTo]

/-- Under the configuration `cfg`, the counter is the number of iterations done modulo the send
rate. -/
structure Counted (cfg : Config) (s : State C H) : Prop where
  config : s.server.config = cfg
  tick : s.tick.toNat = s.events.count .tick % cfg.sendRate.toNat

theorem Counted.tick_lt {cfg : Config} {s : State C H} (hc : Counted cfg s)
    (hsr : cfg.sendRate ≠ 0) : s.tick.toNat < s.server.config.sendRate.toNat := by
  rw [hc.tick, hc.config]; exact Nat.mod_lt _ (toNat_pos hsr)

theorem receivePacket_counted {cfg : Config} {s s' : State C H} {addr : SocketAddr} {p : Packet}
    (hc : Counted cfg s) (h : receivePacket ops s addr p = .ok s') : Counted cfg s' := by
  obtain ⟨hconf, htick, hcount, -⟩ := receivePacket_counts ops h
  exact ⟨hconf.trans hc.config, by rw [htick, hcount, hc.tick]⟩

theorem tick_counted {cfg : Config} (hsr : cfg.sendRate ≠ 0) {s s' : State C H}
    (hc : Counted cfg s) (h : tick ops hs s = .ok s') : Counted cfg s' := by
  obtain ⟨hconf, hnext, hcount⟩ := tick_counts ops hs h
  refine ⟨hconf.trans hc.config, ?_⟩
  rw [(nextTick_holds (hc.tick_lt hsr)).of_ok hnext, hc.tick, hcount, hc.config, Nat.mod_add_mod]

/-- From a counted state a tick does not overflow the counter. -/
theorem tick_no_overflow {cfg : Config} (hsr : cfg.sendRate ≠ 0) {s : State C H}
    (hc : Counted cfg s) : tick ops hs s ≠ .error .addOverflow := fun h => by
  have hlt := hc.tick_lt hsr
  have := s.server.config.sendRate.toNat_lt_size
  rcases (tick_error ops hs s).of_error h with ⟨h, -⟩ | ⟨_, h⟩ | ⟨-, h⟩
  · cases h
  · cases h
  · omega

/-! ## Congested windows -/

theorem mod_eq_zero_iff_toNat (a b : UInt32) : a % b = 0 ↔ a.toNat % b.toNat = 0 :=
  ⟨fun h => by simpa using congrArg UInt32.toNat h, fun h => UInt32.toNat.inj (by simpa using h)⟩

/-- A tick that finds the connection under `i` congested calls `send` on it iff the counter is a
multiple of the divider. -/
theorem tick_sends_congested {s s' : State C H} {i : ConnectionID} {c : C}
    (hN : s.server.config.congestionDivider ≠ 0)
    (hc : (tickHandler hs s).connections.get i = some c) (hcong : ops.congested c = true)
    (h : tick ops hs s = .ok s') :
    s'.events.countP (Event.isSendTo i) = s.events.countP (Event.isSendTo i) +
      if s.tick % s.server.config.congestionDivider = 0 then 1 else 0 := by
  obtain ⟨s₁, s₂, t, h₁, h₂, -, rfl⟩ := tick_eq_ok ops hs h
  obtain ⟨_, g, -, hsent, hn⟩ :=
    ((sendAll_holds ops _).of_ok h₁).visited ⟨i, c⟩ (AList.mem_lookup_iff.1 hc)
  have hg := hsent.gate
  simp only [hcong, tickHandler_config, tickHandler_tick, sendGate_true _ hN, Except.ok.injEq] at hg
  subst hg
  simp only [tickHandler_events, List.countP_append] at hn
  rw [((removeAll_holds s₁).of_ok h₂).events, hn]
  by_cases h0 : s.tick % s.server.config.congestionDivider = 0 <;> simp [h0, Event.isSendTo]

/-- `CongestedRun i s n s'`: the loop goes from `s` to `s'` through `n` iterations, and at each
of their checks the connection stored under `i` is congested. -/
inductive CongestedRun (i : ConnectionID) (s : State C H) : Nat → State C H → Prop
  | refl : CongestedRun i s 0 s
  | receive {n : Nat} {s₁ s₂ : State C H} {addr : SocketAddr} {packet : Packet} :
      CongestedRun i s n s₁ → receivePacket ops s₁ addr packet = .ok s₂ → CongestedRun i s n s₂
  | tick {n : Nat} {s₁ s₂ : State C H} {c : C} : CongestedRun i s n s₁ →
      (tickHandler hs s₁).connections.get i = some c → ops.congested c = true →
      tick ops hs s₁ = .ok s₂ → CongestedRun i s (n + 1) s₂

/-- Over a congested run of `n` iterations from iteration `k`, `send` is called on the connection
once for every open iteration among `k, …, k + n - 1`. -/
theorem congestedRun_sends {cfg : Config} (hsr : cfg.sendRate ≠ 0)
    (hN : cfg.congestionDivider ≠ 0) {i : ConnectionID} {s s' : State C H} {n : Nat}
    (hc : Counted cfg s) (h : CongestedRun ops hs i s n s') :
    Counted cfg s' ∧ s'.events.count .tick = s.events.count .tick + n ∧
      s'.events.countP (Event.isSendTo i) =
        s.events.countP (Event.isSendTo i) + openTicks cfg (s.events.count .tick) n := by
  induction h with
  | refl => exact ⟨hc, rfl, by simp [openTicks]⟩
  | receive _ hr ih =>
    obtain ⟨hc₁, hk, hsend⟩ := ih
    obtain ⟨-, -, hcount, hsend'⟩ := receivePacket_counts ops hr
    exact ⟨receivePacket_counted ops hc₁ hr, hcount ▸ hk, by rw [hsend', hsend]⟩
  | tick _ hget hcong ht ih =>
    obtain ⟨hc₁, hk, hsend⟩ := ih
    refine ⟨tick_counted ops hs hsr hc₁ ht, by rw [(tick_counts ops hs ht).2.2, hk]; rfl, ?_⟩
    rw [tick_sends_congested ops hs (by rwa [hc₁.config]) hget hcong ht, hsend, openTicks_succ,
      Nat.add_assoc]
    simp only [mod_eq_zero_iff_toNat, UInt32.toNat_mod, hc₁.tick, hc₁.config, hk]

theorem counted_start (server : Server) (handler : H) (address : SocketAddr) :
    Counted server.config (start hs server handler address) :=
  ⟨by simp [start], by simp [start]⟩

theorem Reach.counted {s : State C H} (h : Reach ops hs s) :
    s.server.config.sendRate ≠ 0 ∧ Counted s.server.config s := by
  obtain ⟨server, handler, address, hsr, hs₀⟩ := h
  have hc := hs₀.preserves (fun _ _ _ _ hi h => receivePacket_counted ops hi h)
    (fun _ _ hi h => tick_counted ops hs hsr hi h) (counted_start hs server handler address)
  exact ⟨hc.config ▸ hsr, hc.config ▸ hc⟩

/-- Along every run the counter is the number of iterations done modulo the send rate, and the
coming tick does not overflow it; over any iterations in which a connection is congested at
every check, `send` is called on it once for every iteration `k` with
`(k % send_rate) % congestion_divider = 0`: over any `congestion_divider` consecutive ones at
least once, and exactly once when the divider divides the send rate. -/
theorem congested_sends_window :
    (∀ s, Reach ops hs s →
      s.tick.toNat = s.events.count .tick % s.server.config.sendRate.toNat ∧
      tick ops hs s ≠ .error .addOverflow) ∧
    ∀ s s' i n, Reach ops hs s → s.server.config.congestionDivider ≠ 0 →
      CongestedRun ops hs i s n s' →
      s'.events.countP (Event.isSendTo i) = s.events.countP (Event.isSendTo i) +
        openTicks s.server.config (s.events.count .tick) n ∧
      (n = s.server.config.congestionDivider.toNat →
        s.events.countP (Event.isSendTo i) < s'.events.countP (Event.isSendTo i) ∧
        (s.server.config.congestionDivider.toNat ∣ s.server.config.sendRate.toNat →
          s'.events.countP (Event.isSendTo i) = s.events.countP (Event.isSendTo i) + 1)) := by
  refine ⟨fun s h => ?_, fun s s' i n h hN hrun => ?_⟩
  · obtain ⟨hsr, hc⟩ := h.counted
    exact ⟨hc.tick, tick_no_overflow ops hs hsr hc⟩
  · obtain ⟨hsr, hc⟩ := h.counted
    have hsend := (congestedRun_sends ops hs hsr hN hc hrun).2.2
    refine ⟨hsend, fun hn => ⟨?_, fun hdvd => ?_⟩⟩
    · have := openTicks_pos hsr hN (s.events.count .tick); rw [hsend, hn]; omega
    · rw [hsend, hn, openTicks_eq_one hN hdvd]

theorem congested_sends_window_peerOnly :
    ∃ s' : State SocketAddr Unit,
      CongestedRun (ConnectionOps.peerOnly true) (HandlerOps.noop SocketAddr) ⟨7⟩
        (start (HandlerOps.noop SocketAddr) (Server.new ⟨4, 2⟩) () ⟨[127, 0, 0, 1], 4000⟩) 2 s' ∧
      s'.events.countP (Event.isSendTo ⟨7⟩) = 1 :=
  let hr : Reach (ConnectionOps.peerOnly true) (HandlerOps.noop SocketAddr)
      (start (HandlerOps.noop SocketAddr) (Server.new ⟨4, 2⟩) () ⟨[127, 0, 0, 1], 4000⟩) :=
    ⟨Server.new ⟨4, 2⟩, (), ⟨[127, 0, 0, 1], 4000⟩, by decide, .refl⟩
  let h : CongestedRun (ConnectionOps.peerOnly true) (HandlerOps.noop SocketAddr) ⟨7⟩
      (start (HandlerOps.noop SocketAddr) (Server.new ⟨4, 2⟩) () ⟨[127, 0, 0, 1], 4000⟩) 2 _ :=
    .tick (.tick (@CongestedRun.receive _ _ _ _ _ _ _ _ _ ⟨[10, 0, 0, 1], 5000⟩ [7]
      .refl rfl) rfl rfl rfl) rfl rfl rfl
  ⟨_, h, (((congested_sends_window _ _).2 _ _ _ _ hr (by decide) h).2 rfl).2 (by decide)⟩

theorem congested_window_sends_twice :
    ¬ ∀ (s s' : State SocketAddr Unit) (i : ConnectionID) (n : Nat),
      Reach (ConnectionOps.peerOnly true) (HandlerOps.noop SocketAddr) s →
      s.server.config.congestionDivider ≠ 0 → n = s.server.config.congestionDivider.toNat →
      CongestedRun (ConnectionOps.peerOnly true) (HandlerOps.noop SocketAddr) i s n s' →
      s'.events.countP (Event.isSendTo i) = s.events.countP (Event.isSendTo i) + 1 := by
  intro h
  have := h _ _ ⟨7⟩ 2 ⟨Server.new ⟨3, 2⟩, (), ⟨[127, 0, 0, 1], 4000⟩, by decide,
      .tick (.tick (@Steps.receive _ _ _ _ _ _ _ ⟨[10, 0, 0, 1], 5000⟩ [7] .refl rfl) rfl) rfl⟩
      (by decide) rfl
      (.tick (.tick .refl rfl rfl rfl) rfl rfl rfl)
  exact absurd this (by decide)

end Cobalt.Server
