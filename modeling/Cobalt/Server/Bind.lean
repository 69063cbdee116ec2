import Cobalt.Server.Types

/-!
# `Server::bind`

The loop of `Server::bind` (`server.rs` lines 40–171), one definition per part of its body:

* `receivePacket`: one pass of the receive loop (lines 71–110): take the connection id from
  the datagram, create a connection for an unknown id, follow a changed peer address, hand the
  datagram to the connection;
* `tick`: the rest of the body (lines 112–153): the `tick_connections` hook (`tickHandler`), the
  send loop over all connections (`sendAll`, one `visit` each, gated by `sendGate`), the removal
  of the connections that are no longer open (`removeAll`), and the tick counter (`nextTick`);
* `loop` and `bind`: `while !self.closed`, and the whole method.

The socket is not modelled: `bind` is given the outcome of `UdpSocket::new` and `local_addr`,
and the datagrams `try_recv` returns in each iteration. `thread::sleep_ms` only spends time.
The connection taken out of the map and reset at line 141, and the connections reset after the
loop, are dropped at once; `reset` has no other effect and is left out.
-/

namespace Cobalt

namespace Server

variable {C H : Type} (ops : ConnectionOps C H) (hs : HandlerOps C H)

/-! ## The receive loop -/

/-- One pass of `while let Ok((addr, packet)) = reader.try_recv()` (lines 71–110). -/
def receivePacket (s : State C H) (addr : SocketAddr) (packet : Packet) :
    Except Panic (State C H) :=
  let s := s.emit (.recv addr packet)
  match ops.idFromPacket packet with
  | none => .ok s
  | some id => do
    let s := if s.connections.containsKey id then s else
      { s with connections := s.connections.insert id (ops.new addr),
               addresses := s.addresses.insert id addr }
    let connection ← unwrap 95 (s.connections.get id)
    let (connection, addresses) ← if addr ≠ ops.peerAddr connection then do
        let connection := ops.setPeerAddr connection addr
        let (old, addresses) := s.addresses.remove id
        let _ ← unwrap 98 old
        pure (connection, addresses.insert id addr)
      else pure (connection, s.addresses)
    let e := ops.receive connection packet s.server s.handler
    pure (({ s with connections := s.connections.set id e.result, addresses }.hook e).emit
      (.receive id packet))

/-! ## The tick -/

/-- `handler.tick_connections(self, &mut connections)` (line 113), at the start of a tick. -/
def tickHandler (s : State C H) : State C H :=
  let s := s.emit .tick
  let e := hs.tickConnections s.server s.handler s.connections
  { s with connections := e.result }.hook e

/-- `!conn.congested() || tick % self.config.congestion_divider == 0` (lines 120–121): the
remainder is only taken for a congested connection. -/
def sendGate (config : Config) (tick : UInt32) (congested : Bool) : Except Panic Bool :=
  if !congested then .ok true
  else if config.congestionDivider = 0 then .error .remainderByZero
  else .ok (tick % config.congestionDivider == 0)

/-- One pass of `for (id, conn) in connections.iter_mut()` (lines 116–137). -/
def visit (s : State C H) (id : ConnectionID) (conn : C) : Except Panic (State C H) := do
  let gate ← sendGate s.server.config s.tick (ops.congested conn)
  let (conn, s) ← if gate then do
      let addr ← unwrap 125 (s.addresses.get id)
      let e := ops.send conn addr s.server s.handler
      pure (e.result, (s.hook e).emit (.send id addr))
    else pure (conn, s)
  let s := { s with connections := s.connections.set id conn }
  pure (if ops.isOpen conn = false then { s with dropped := s.dropped ++ [id] } else s)

/-- The send loop over the connections, in the map's order. -/
def sendAll (s : State C H) : Except Panic (State C H) :=
  s.connections.entries.foldlM (fun s e => visit ops s e.1 e.2) s

/-- One pass of `for id in dropped.iter()` (lines 140–143). -/
def removeDropped (s : State C H) (id : ConnectionID) : Except Panic (State C H) := do
  let (conn, connections) := s.connections.remove id
  let _ ← unwrap 141 conn
  let (addr, addresses) := s.addresses.remove id
  let _ ← unwrap 142 addr
  pure { s with connections, addresses }

/-- The removal loop over `dropped`. -/
def removeAll (s : State C H) : Except Panic (State C H) :=
  s.dropped.foldlM removeDropped s

/-- `tick += 1`, back to `0` at the send rate (lines 149–153); the addition panics past
`u32::MAX`. -/
def nextTick (config : Config) (tick : UInt32) : Except Panic UInt32 :=
  if tick.toNat + 1 < UInt32.size then
    .ok (if tick + 1 = config.sendRate then 0 else tick + 1)
  else .error .addOverflow

/-- The loop body after the socket is drained (lines 112–153). -/
def tick (s : State C H) : Except Panic (State C H) := do
  let s ← sendAll ops (tickHandler hs s)
  let s ← removeAll s
  let t ← nextTick s.server.config s.tick
  pure { s with dropped := [], tick := t }

/-! ## The loop -/

/-- One iteration of `while !self.closed`: the datagrams `try_recv` returns, then the tick. -/
def iteration (s : State C H) (batch : List (SocketAddr × Packet)) : Except Panic (State C H) := do
  let s ← batch.foldlM (fun s d => receivePacket ops s d.1 d.2) s
  tick ops hs s

/-- `while !self.closed { .. }`, one batch of datagrams per iteration. When the batches run out
before the server is shut down, the result is the state the loop is in then. -/
def loop : State C H → List (List (SocketAddr × Packet)) → Except Panic (State C H)
  | s, [] => .ok s
  | s, batch :: rest =>
    if s.server.closed then .ok s else iteration ops hs s batch >>= fun s => loop s rest

/-- The variables before the first iteration (lines 44–65), the socket bound to `address`. -/
def start (server : Server) (handler : H) (address : SocketAddr) : State C H :=
  let server := { server with address := some address }
  ({ server, handler, tick := 0, dropped := [], addresses := .new, connections := .new,
     events := [] } : State C H).hook (hs.bind server handler)

/-- What follows the loop (lines 157–169): the shutdown hook, and the address forgotten. -/
def finish (s : State C H) : State C H :=
  { s with handler := hs.shutdown s.server s.handler, server := { s.server with address := none } }

/-- `Server::bind`. `bound` is the outcome of creating the socket and asking its address; the
result is the state `bind` returns in (after `finish`), the state its loop is still in when the
batches run out, or the socket's error. -/
def bind {ε : Type} (server : Server) (handler : H) (bound : Except ε SocketAddr)
    (batches : List (List (SocketAddr × Packet))) : Except Panic (Except ε (State C H)) :=
  if server.config.sendRate = 0 then .error .divideByZero else
  match bound with
  | .error err => .ok (.error err)
  | .ok address => do
    let s ← loop ops hs (start hs server handler address) batches
    pure (.ok (if s.server.closed then finish hs s else s))

end Server

end Cobalt
