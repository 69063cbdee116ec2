import Cobalt.Std.HashMap

/-!
# The data of `Server::bind`

`server/server.rs` holds the server and its loop; the types it uses come from the crate's
`shared` module, which is not part of the sources here. `Config` keeps the two fields the loop
reads (the spec's §3 names them); `Connection` and the `Handler` hooks are parameters:
`ConnectionOps C H` gives the methods of a `Connection` whose state is `C` and
`HandlerOps C H` the hooks of a handler whose state is `H`. A call that is handed `self` and
`handler` may change the handler and may call `Server::shutdown` (`Effect`).

The model assumes that such a call does nothing else to the server. In Rust it holds
`&mut Server`, so it could overwrite `*server` through the public `Server::new`, or call
`Server::bind` again, and change the configuration or the bound address in the middle of the
loop. The properties are stated for one configuration per run and one call of `bind`, with no
re-entry.

The loop's local variables form `State`. Its field `events` is not a variable of the source: it
records, in order, what the loop did with the outside world (a datagram taken from the socket,
a call of `receive` or `send` on a connection, the start of a tick). The properties of the loop
are stated over it.

`HandlerOps.noop`, `HandlerOps.inserting`, `ConnectionOps.peerOnly` and `ConnectionOps.oneShot`
are instances of the parameters, for concrete runs.
-/

namespace Cobalt

/-- `shared::ConnectionID`, a `u32` newtype. -/
structure ConnectionID where
  val : UInt32
  deriving DecidableEq, Repr

/-- `std::net::SocketAddr`: the loop only compares addresses. -/
structure SocketAddr where
  ip : List UInt8
  port : UInt16
  deriving DecidableEq, Repr

/-- A datagram's bytes (`Vec<u8>`). -/
abbrev Packet := List UInt8

/-- Modelled from the spec: `shared::Config`, the two fields `Server::bind` reads (§3: send rate
in packets per second; congestion divider, "when congested, only 1 of every N ticks sends"). -/
structure Config where
  sendRate : UInt32
  congestionDivider : UInt32
  deriving DecidableEq, Repr

/-- `struct Server`. -/
structure Server where
  closed : Bool
  config : Config
  address : Option SocketAddr
  deriving DecidableEq, Repr

/-- `Server::new`. -/
def Server.new (config : Config) : Server := { closed := false, config, address := none }

/-- `Server::shutdown`. -/
def Server.shutdown (s : Server) : Server := { s with closed := true }

/-- `Server::local_addr`. -/
def Server.localAddr (s : Server) : Option SocketAddr := s.address

/-- A panic of the loop (debug build), with its place in `server.rs` where it has one. -/
inductive Panic where
  /-- `Option::unwrap` on `None` at the given line. -/
  | unwrapNone (line : Nat)
  /-- `1000 / self.config.send_rate` with a zero send rate. -/
  | divideByZero
  /-- `tick % self.config.congestion_divider` with a zero divider. -/
  | remainderByZero
  /-- `tick += 1` past `u32::MAX`. -/
  | addOverflow
  deriving DecidableEq, Repr

/-- `opt.unwrap()` at line `line`. -/
def unwrap {α : Type} (line : Nat) : Option α → Except Panic α
  | some a => .ok a
  | none => .error (.unwrapNone line)

/-- What a call handed `self` and `handler` leaves: its result, the handler's state, and whether
the handler called `Server::shutdown`. Under the assumption above (no new server, no call of
`bind`), that is all a call can do to the server. -/
structure Effect (α H : Type) where
  result : α
  handler : H
  shutdown : Bool

/-- The methods of `Connection` that `Server::bind` calls, on connection states `C` and handler
states `H`. `receive` and `send` run the handler's connection hooks. -/
structure ConnectionOps (C H : Type) where
  /-- `Connection::id_from_packet(&self.config, &packet)`. -/
  idFromPacket : Packet → Option ConnectionID
  /-- `Connection::new(self.config, addr)`. -/
  new : SocketAddr → C
  peerAddr : C → SocketAddr
  setPeerAddr : C → SocketAddr → C
  /-- `connection.receive(packet, self, handler)`. -/
  receive : C → Packet → Server → H → Effect C H
  congested : C → Bool
  /-- `conn.open()`. -/
  isOpen : C → Bool
  /-- `conn.send(&mut socket, addr, self, handler)`. -/
  send : C → SocketAddr → Server → H → Effect C H

/-- The `Handler` hooks that `Server::bind` calls itself. -/
structure HandlerOps (C H : Type) where
  bind : Server → H → Effect Unit H
  tickConnections : Server → H → HashMap ConnectionID C → Effect (HashMap ConnectionID C) H
  shutdown : Server → H → H

/-- What the loop did with the outside world. -/
inductive Event where
  /-- `reader.try_recv()` returned `packet` from `addr`. -/
  | recv (addr : SocketAddr) (packet : Packet)
  /-- `connection.receive(packet, ..)` on the connection stored under `id`. -/
  | receive (id : ConnectionID) (packet : Packet)
  /-- `conn.send(&mut socket, addr, ..)` on the connection stored under `id`. -/
  | send (id : ConnectionID) (addr : SocketAddr)
  /-- `handler.tick_connections(..)`: a tick begins. -/
  | tick
  deriving DecidableEq, Repr

/-- The variables of `Server::bind`'s loop. -/
structure State (C H : Type) where
  server : Server
  handler : H
  tick : UInt32
  dropped : List ConnectionID
  addresses : HashMap ConnectionID SocketAddr
  connections : HashMap ConnectionID C
  events : List Event

namespace State

variable {C H : Type}

/-- The server and handler after a call with effect `e`: of the server, only `closed` can
change. -/
def hook {α : Type} (s : State C H) (e : Effect α H) : State C H :=
  { s with handler := e.handler, server := if e.shutdown then s.server.shutdown else s.server }

/-- Record the event `e`. -/
def emit (s : State C H) (e : Event) : State C H := { s with events := s.events ++ [e] }

@[simp] theorem hook_connections {α : Type} (s : State C H) (e : Effect α H) :
    (s.hook e).connections = s.connections := rfl
@[simp] theorem hook_addresses {α : Type} (s : State C H) (e : Effect α H) :
    (s.hook e).addresses = s.addresses := rfl
@[simp] theorem hook_dropped {α : Type} (s : State C H) (e : Effect α H) :
    (s.hook e).dropped = s.dropped := rfl
@[simp] theorem hook_tick {α : Type} (s : State C H) (e : Effect α H) :
    (s.hook e).tick = s.tick := rfl
@[simp] theorem hook_events {α : Type} (s : State C H) (e : Effect α H) :
    (s.hook e).events = s.events := rfl
@[simp] theorem hook_config {α : Type} (s : State C H) (e : Effect α H) :
    (s.hook e).server.config = s.server.config := by
  unfold hook; split <;> rfl

@[simp] theorem emit_connections (s : State C H) (e : Event) :
    (s.emit e).connections = s.connections := rfl
@[simp] theorem emit_addresses (s : State C H) (e : Event) :
    (s.emit e).addresses = s.addresses := rfl
@[simp] theorem emit_dropped (s : State C H) (e : Event) : (s.emit e).dropped = s.dropped := rfl
@[simp] theorem emit_tick (s : State C H) (e : Event) : (s.emit e).tick = s.tick := rfl
@[simp] theorem emit_events (s : State C H) (e : Event) :
    (s.emit e).events = s.events ++ [e] := rfl
@[simp] theorem emit_server (s : State C H) (e : Event) : (s.emit e).server = s.server := rfl
@[simp] theorem emit_handler (s : State C H) (e : Event) : (s.emit e).handler = s.handler := rfl

end State

/-! ## Instances of the parameters -/

/-- The `Handler` whose hooks do nothing, as the trait's default methods. -/
def HandlerOps.noop (C : Type) : HandlerOps C Unit where
  bind _ h := ⟨(), h, false⟩
  tickConnections _ h m := ⟨m, h, false⟩
  shutdown _ h := h

/-- A `Handler` whose `tick_connections` inserts the connection `c` under the key `k`, as the
`&mut` map it is handed allows. -/
def HandlerOps.inserting {C : Type} (k : ConnectionID) (c : C) : HandlerOps C Unit where
  bind _ h := ⟨(), h, false⟩
  tickConnections _ h m := ⟨m.insert k c, h, false⟩
  shutdown _ h := h

/-- A connection that is nothing but its peer address: always open, congested as `congested`
says, its datagrams carrying the connection id in their first byte. -/
def ConnectionOps.peerOnly (congested : Bool) : ConnectionOps SocketAddr Unit where
  idFromPacket p := p.head?.map fun b => ⟨b.toUInt32⟩
  new a := a
  peerAddr c := c
  setPeerAddr _ a := a
  receive c _ _ h := ⟨c, h, false⟩
  congested _ := congested
  isOpen _ := true
  send c _ _ h := ⟨c, h, false⟩

/-- A connection that is its peer address and whether it is open: never congested, it closes at
its first `send`; its datagrams carry the connection id in their first byte. -/
def ConnectionOps.oneShot : ConnectionOps (SocketAddr × Bool) Unit where
  idFromPacket p := p.head?.map fun b => ⟨b.toUInt32⟩
  new a := (a, true)
  peerAddr c := c.1
  setPeerAddr c a := (a, c.2)
  receive c _ _ h := ⟨c, h, false⟩
  congested _ := false
  isOpen c := c.2
  send c _ _ h := ⟨(c.1, false), h, false⟩

end Cobalt
